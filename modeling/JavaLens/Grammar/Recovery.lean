import JavaLens.Grammar.State

/-!
# Recovery

What the grammar does where the source does not fit: it reports the place and goes on behind it.

## Main definitions

* `State.expect` — a symbol that completes a construct.
* `State.junk` — tokens that fit nowhere.
* `guarded` — a step after which the cursor has moved.
* `State.skipTooDeep` — a bracketed region that is not read.
-/

namespace JavaLens.Grammar

namespace State

/-- Moves over a token that completes a construct, or reports that it is missing. -/
def expect (s : State) (kind : Token.Kind) (symbol : Missing) (construct : Construct) : State :=
  if s.sees kind then s.bump else s.report (.missing symbol construct) s.previousSpan

/-- Moves over the semicolon that ends a construct. -/
def expectSemicolon (s : State) (construct : Construct) : State :=
  s.expect .semi .semicolon construct

/-- Moves over the parenthesis that closes a construct. -/
def expectCloseParen (s : State) (construct : Construct) : State :=
  s.expect .rparen .closingParen construct

/-- Reports that no name follows the last token. -/
def missingDeclaratorId (s : State) : State :=
  s.report (.expected .declaratorId s.previousText) s.previousSpan

end State

/-- Tokens that prolong a run of stray tokens rather than start something readable. -/
def prolongsJunk : Token.Kind → Bool
  | .literal | .operator | .assign | .lt | .gt | .question | .colon | .colonColon | .arrow | .comma
  | .dot | .ellipsis | .lbracket | .rbracket => true
  | _ => false

namespace State

/-- Whether the token at the cursor prolongs a run of stray tokens. -/
def seesJunk (s : State) : Bool := s.peek.any prolongsJunk

/-- Moves over the token at the cursor and the run of stray tokens it starts, and reports them
together. -/
def junk (s : State) : State :=
  match s.tokenAt? 0 with
  | none => s
  | some first =>
    let s := s.bump
    let behindFirst := s.cursor
    let s := whileSeen seesJunk bump s
    if s.cursor = behindFirst then s.report (.strayToken first.text) first.span
    else s.report .strayTokens ⟨first.span.start, s.lastEnd⟩

/-- Moves over one token of a bracketed region, and counts the brackets that are open behind it. -/
def balanceTurn (count : Nat) (s : State) : Turn Nat :=
  match s.peek with
  | none => .stop count s
  | some kind =>
    let count := if kind.isOpener then count + 1 else if kind.isCloser then count - 1 else count
    if count = 0 then .stop count s.bump else .again count s.bump

/-- Moves over the bracketed region that opens at the cursor, without recording anything. Brackets
of all kinds are counted alike. -/
def skipBalanced (s : State) : State := (repeatWhile balanceTurn 0 s).2

/-- Reports that the region at the cursor is nested too deep, and moves over it. -/
def skipTooDeep (s : State) : State := (s.report .tooDeep s.currentSpan).skipBalanced

end State

/-- A step after which the cursor has moved: where the step leaves it, the token there is stray. -/
def guarded (step : State → State) (s : State) : State :=
  let before := s.cursor
  let s := step s
  if s.cursor = before then s.junk else s

end JavaLens.Grammar
