import JavaLens.Decimal
import JavaLens.Text.Alphanumeric
import JavaLens.Text.Blank

/-!
# Log filters

A log filter says which log lines are written. It is a list of directives, each with a target, a
span with fields, and a level: `target[span{field=value}]=level`. All parts may be missing, but not
all at once.

## Main definitions

* `LogFilter.isLevel` — whether a text is the name or the number of a level.
* `LogFilter.isDirective` — whether a text is a directive.
* `LogFilter.isValid` — whether a text is a log filter.
-/

namespace JavaLens.LogFilter

/-- The names of levels. -/
def levelNames : List String := ["error", "warn", "info", "debug", "trace", "off"]

/-- The number of a level, which may have a plus sign. -/
def levelNumber? (cs : List Char) : Option Nat :=
  let ds := match cs with
    | '+' :: ds => ds
    | ds => ds
  if !ds.isEmpty && ds.all Char.isDigit then some (Decimal.ofDigits ds) else none

/-- Whether a text is the name or the number of a level. -/
def isLevel (cs : List Char) : Bool :=
  levelNames.contains (String.ofList (cs.map Char.toLower)) || (levelNumber? cs).any (· ≤ 5)

/-- Where a directive has been read to. -/
inductive Progress where
  | start
  /-- In the target, or in a level that stands alone. -/
  | target
  | span
  /-- In a field, which may have text already. -/
  | field (hasText : Bool)
  /-- Behind the fields of a span. -/
  | fields
  /-- Behind a span. -/
  | behindSpan
  /-- In a level, which started at an offset. -/
  | level (offset : Nat)

/-- What a target may start with. -/
def isTargetStart (c : Char) : Bool := c = '-' ∨ c = ':' ∨ c = '_' ∨ Text.isAlphanumeric c

/-- The progress after one more character, which stands at an offset. -/
def Progress.next? (i : Nat) (c : Char) : Progress → Option Progress
  | start => if c = '[' then some span else if isTargetStart c then some target else none
  | target => if c = '=' then some (level (i + 1)) else if c = '[' then some span else some target
  | span =>
    if c = ']' then some behindSpan else if c = '\x7b' then some (field false) else some span
  | field hasText => if c = '\x7d' then if hasText then some fields else none else some (field true)
  | fields => if c = ']' then some behindSpan else none
  | behindSpan => if c = '=' then some (level (i + 1)) else none
  | level offset => some (level offset)

/-- The progress behind the given characters, of which the first stands at an offset. -/
def scan (i : Nat) (p : Progress) : List Char → Option Progress
  | [] => some p
  | c :: rest =>
    match p.next? i c with
    | some p => scan (i + 1) p rest
    | none => none

/-- Whether a text is a directive. Blanks around it are passed over, but offsets count from the end
of those before it while a level is taken from the whole text; so a directive with a level must not
have blanks before it. -/
def isDirective (cs : List Char) : Bool :=
  match scan 0 .start (Text.trim cs) with
  | some .target | some .behindSpan => true
  | some (.level offset) => (cs.drop offset).isEmpty || isLevel (cs.drop offset)
  | _ => false

/-- The pieces of a text between commas. -/
def pieces (cs : List Char) : List (List Char) :=
  let (piece, done) := cs.foldr (fun c (piece, done) =>
    if c = ',' then ([], piece :: done) else (c :: piece, done)) ([], [])
  piece :: done

/-- Whether a text is a log filter. Nothing between two commas is no directive and does no harm. -/
def isValid (s : String) : Bool :=
  (pieces s.toList).all fun piece => piece.isEmpty || isDirective piece

end JavaLens.LogFilter
