import JavaLens.Span

/-!
# Positions

Editors count lines and UTF-16 code units, the library counts bytes of UTF-8. This module is the
boundary between the two.

From a position to an offset: pass `line` newlines, or go to the end of the text when there are
fewer, and walk `character` code units on. The walk does not stop at the end of the line, it does
stop at the end of the text, and it never ends within a character: a column inside a surrogate pair
counts as the column behind it.

From an offset to a position: the line is the number of newlines before the offset, the character
the number of code units between the start of that line and the offset. An offset behind the end
counts as the end, and an offset within a character as the start of that character.

## Main definitions

* `Position` — a line and a character, both counted from zero.
* `boundaryUpTo` — the last character boundary up to an offset.
* `LineIndex` — the starts of the lines of a text, for repeated conversions.
* `LineIndex.search` — the search for a line by where it starts.
* `LineIndex.position`, `LineIndex.offset`, `LineIndex.range` — the conversions.
-/

namespace JavaLens

/-- A place in a text as editors see it. -/
structure Position where
  line : Nat
  character : Nat
deriving DecidableEq, Repr, Inhabited

/-- The position on one line. -/
def Position.describe (p : Position) : String := p.line.repr ++ ":" ++ p.character.repr

/-- The number of UTF-16 code units of a character. -/
def codeUnits (c : Char) : Nat := if c.val < 0x10000 then 1 else 2

/-- A line: the byte offset where it starts, and the text from there to the end of the text. -/
structure Line where
  start : Nat
  text : List Char
deriving Repr, Inhabited

/-- A text and its lines, of which there is always one. -/
structure LineIndex where
  text : String
  lines : Array Line
deriving Repr, Inhabited

/-- The last character boundary of a text from its start up to an offset within it. -/
def floorBoundary (text : String) : Nat → Nat
  | 0 => 0
  | offset + 1 =>
    if (⟨offset + 1⟩ : String.Pos.Raw).IsValid text then offset + 1 else floorBoundary text offset

/-- The last character boundary of a text up to any offset. -/
def boundaryUpTo (text : String) (offset : Nat) : Nat :=
  floorBoundary text (min offset text.utf8ByteSize)

namespace LineIndex

/-- The lines `done`, which start at or before the byte `offset`, and those of the rest of the
text. -/
def build (done : Array Line) (offset : Nat) : List Char → Array Line
  | [] => done
  | c :: cs =>
    let next := offset + c.utf8Size
    build (if c = '\n' then done.push ⟨next, cs⟩ else done) next cs

/-- The index of a text. -/
def ofText (text : String) : LineIndex :=
  let cs := text.toList
  ⟨text, build #[⟨0, cs⟩] 0 cs⟩

/-- The number of the line that starts at `offset`, searched for from line `low` on and before line
`high`; or, as an error, the number that such a line would have to have there. -/
def bisect (lines : Array Line) (offset low high : Nat) (bounded : high ≤ lines.size) :
    Except Nat Nat :=
  if between : low < high then
    let middle := low + (high - low) / 2
    have : middle < lines.size := by omega
    if lines[middle].start = offset then .ok middle
    else if lines[middle].start < offset then bisect lines offset (middle + 1) high bounded
    else bisect lines offset low middle (by omega)
  else .error low
termination_by high - low

/-- The search for the line that starts at the last boundary up to `offset`. -/
def search (index : LineIndex) (offset : Nat) : Except Nat Nat :=
  bisect index.lines (boundaryUpTo index.text offset) 0 index.lines.size (Nat.le_refl _)

/-- The number of the line of an offset. Where none starts there, it is the one before the place
where such a line would have to be. -/
def lineNumber (index : LineIndex) (offset : Nat) : Nat :=
  match index.search offset with
  | .ok number => number
  | .error next => next - 1

/-- The number of code units of the characters that end at or before `offset`, for a text that
starts at the byte `start`, added to those `seen`. -/
def unitsBefore (offset start seen : Nat) : List Char → Nat
  | [] => seen
  | c :: cs =>
    let next := start + c.utf8Size
    if next ≤ offset then unitsBefore offset next (seen + codeUnits c) cs else seen

/-- The byte offset that is `units` code units behind `start`, or the end of the text. -/
def walk (units start : Nat) : List Char → Nat
  | [] => start
  | c :: cs => if units = 0 then start else walk (units - codeUnits c) (start + c.utf8Size) cs

/-- The position of a byte offset. -/
def position (index : LineIndex) (offset : Nat) : Position :=
  let number := index.lineNumber offset
  match index.lines[number]? with
  | some line => ⟨number, unitsBefore (boundaryUpTo index.text offset) line.start 0 line.text⟩
  | none => ⟨number, 0⟩

/-- The byte offset of a position. -/
def offset (index : LineIndex) (p : Position) : Nat :=
  match index.lines[p.line]? with
  | some line => walk p.character line.start line.text
  | none => index.text.utf8ByteSize

/-- The positions of both ends of a span. -/
def range (index : LineIndex) (s : Span) : Position × Position :=
  (index.position s.start, index.position s.stop)

end LineIndex

/-- The byte offset of a position in a text. -/
def offsetOf (text : String) (p : Position) : Nat := (LineIndex.ofText text).offset p

/-- The position of a byte offset in a text. -/
def positionOf (text : String) (offset : Nat) : Position := (LineIndex.ofText text).position offset

end JavaLens
