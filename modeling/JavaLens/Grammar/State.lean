import JavaLens.Import
import JavaLens.Token

/-!
# The state of a reading

The grammar reads tokens with a cursor and records what it finds. A function of the grammar takes a
state to a state: it moves the cursor forward and appends nodes and findings. Where two constructs
look alike, one of them is tried from a mark, and the state is taken back to the mark if it does not
fit.

## Main definitions

* `State` — the tokens, the cursor and what has been recorded.
* `maxNesting`, `State.enter?`, `State.leave` — how deep the reading may go.
* `State.peek`, `State.bump`, `State.eat` — looking at the cursor and moving it.
* `State.report`, `State.reference`, `State.openDeclaration`, `State.closeDeclaration` — recording.
* `State.mark`, `State.rewind` — trying.
* `repeatWhile` — repeating a step that moves the cursor.
-/

namespace JavaLens.Grammar

/-- How many levels deep expressions, blocks and bodies are read. -/
def maxNesting : Nat := 256

/-- The tokens of a source, a cursor into them, and what has been recorded so far. -/
structure State where
  tokens : Array Token
  /-- The length of the source in bytes. -/
  sourceEnd : Nat
  cursor : Nat
  /-- How many levels deep the reading is. -/
  depth : Nat
  nodes : Array Node
  findings : Array Finding
  imports : Array Import
deriving Repr

namespace State

/-- The state before the first token. -/
def start (tokens : Array Token) (sourceEnd : Nat) : State :=
  ⟨tokens, sourceEnd, 0, 0, #[], #[], #[]⟩

/-! ## Looking -/

/-- The number of tokens from the cursor on. -/
def remaining (s : State) : Nat := s.tokens.size - s.cursor

/-- The token `n` behind the cursor. -/
def tokenAt? (s : State) (n : Nat) : Option Token := s.tokens[s.cursor + n]?

/-- The kind of the token `n` behind the cursor. -/
def peekAt (s : State) (n : Nat) : Option Token.Kind := (s.tokenAt? n).map (·.kind)

/-- The kind of the token at the cursor. -/
def peek (s : State) : Option Token.Kind := s.peekAt 0

/-- Whether the token at the cursor has the given kind. -/
def sees (s : State) (kind : Token.Kind) : Bool := s.peek == some kind

/-- Whether the token `n` behind the cursor has the given kind. -/
def seesAt (s : State) (n : Nat) (kind : Token.Kind) : Bool := s.peekAt n == some kind

/-- Whether the token `n` behind the cursor has the given kind and text. -/
def spells (s : State) (n : Nat) (kind : Token.Kind) (text : String) : Bool :=
  match s.tokenAt? n with
  | some token => token.kind == kind && token.text == text
  | none => false

/-- Whether the token `n` behind the cursor is the identifier `word`. -/
def seesWord (s : State) (n : Nat) (word : String) : Bool := s.spells n .ident word

/-- Whether the token `n` behind the cursor is the operator `op`. -/
def seesOperator (s : State) (n : Nat) (op : String) : Bool := s.spells n .operator op

/-- The last token before the cursor. -/
def previous? (s : State) : Option Token :=
  match s.cursor with
  | 0 => none
  | n + 1 => s.tokens[n]?

/-- Where the token at the cursor starts, or where the source ends. -/
def currentStart (s : State) : Nat := ((s.tokenAt? 0).map (·.span.start)).getD s.sourceEnd

/-- The span of the token at the cursor, or the empty span at the end. -/
def currentSpan (s : State) : Span := ((s.tokenAt? 0).map (·.span)).getD (.point s.currentStart)

/-- The text of the token at the cursor. -/
def currentText (s : State) : String := ((s.tokenAt? 0).map (·.text)).getD ""

/-- Where the last token before the cursor ends. -/
def lastEnd (s : State) : Nat := (s.previous?.map (·.span.stop)).getD 0

/-- The span of the last token before the cursor, or the empty span at the cursor. -/
def previousSpan (s : State) : Span := (s.previous?.map (·.span)).getD (.point s.currentStart)

/-- The text of the last token before the cursor. -/
def previousText (s : State) : String := (s.previous?.map (·.text)).getD ""

/-! ## Moving -/

/-- The cursor moved over `n` tokens. -/
def advance (s : State) (n : Nat) : State := { s with cursor := s.cursor + n }

/-- The cursor moved over the token it is at, if there is one. -/
def bump (s : State) : State := if s.cursor < s.tokens.size then s.advance 1 else s

/-- The cursor moved over a token of the given kind, if it is at one. -/
def eat (s : State) (kind : Token.Kind) : State := if s.sees kind then s.bump else s

/-! ## Going deeper -/

/-- The state one level deeper, unless that is too deep. -/
def enter? (s : State) : Option State :=
  if s.depth < maxNesting then some { s with depth := s.depth + 1 } else none

/-- The state one level further out. -/
def leave (s : State) : State := { s with depth := s.depth - 1 }

/-! ## Recording -/

/-- The state with one more finding. -/
def report (s : State) (fault : Fault) (span : Span) : State :=
  { s with findings := s.findings.push ⟨fault, span⟩ }

/-- The identifier at the cursor and the state behind it. -/
def identifier? (s : State) : Option (Identifier × State) :=
  match s.tokenAt? 0 with
  | some ⟨.ident, text, span⟩ => some (⟨text, span⟩, s.bump)
  | _ => none

/-- The identifier at the cursor recorded as a reference. -/
def reference (s : State) : State :=
  match s.identifier? with
  | some (name, s) => { s with nodes := s.nodes.push (.reference name) }
  | none => s

/-- A declaration recorded whose end is not known yet, with the index of its node. It starts at
`start`, or at its name if that comes first. -/
def openDeclaration (s : State) (flavor : Flavor) (name : Identifier) (start : Nat) : Nat × State :=
  let index := s.nodes.size
  let span := ⟨min start name.span.start, name.span.stop⟩
  (index, { s with nodes := s.nodes.push (.declaration ⟨flavor, name, span⟩) })

/-- The declaration at an index extended to the last token before the cursor. -/
def closeDeclaration (s : State) (index : Nat) : State :=
  let stop := s.lastEnd
  { s with nodes := s.nodes.modify index (Node.extendTo stop) }

/-! ## Trying -/

/-- A place to come back to: the cursor and how much had been recorded. -/
structure Mark where
  cursor : Nat
  nodes : Nat
  findings : Nat
deriving Repr

/-- The place where the state is now. -/
def mark (s : State) : Mark := ⟨s.cursor, s.nodes.size, s.findings.size⟩

/-- The state taken back to a mark: what was recorded since then is dropped. -/
def rewind (s : State) (mark : Mark) : State :=
  { s with
    cursor := mark.cursor
    nodes := s.nodes.shrink mark.nodes
    findings := s.findings.shrink mark.findings }

end State

/-! ## Repeating -/

/-- How one turn of a loop ends. -/
inductive Turn (α : Type) where
  | stop (value : α) (s : State)
  | again (value : α) (s : State)

/-- Takes turns until one says to stop. Every turn that asks for another moves the cursor forward;
one that did not would be the last. -/
def repeatWhile {α : Type} (turn : α → State → Turn α) (value : α) (s : State) : α × State :=
  let left := s.remaining
  match turn value s with
  | .stop value s => (value, s)
  | .again value s => if s.remaining < left then repeatWhile turn value s else (value, s)
termination_by s.remaining

/-- A step if a condition holds, and the end of the loop otherwise. -/
def whileTurn (condition : State → Bool) (step : State → State) (_ : Unit) (s : State) :
    Turn Unit :=
  if condition s then .again () (step s) else .stop () s

/-- Repeats a step for as long as a condition holds. -/
def whileSeen (condition : State → Bool) (step : State → State) (s : State) : State :=
  (repeatWhile (whileTurn condition step) () s).2

end JavaLens.Grammar
