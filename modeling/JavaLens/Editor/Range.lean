import JavaLens.Json
import JavaLens.Position

/-!
# Positions and ranges on the wire

The editor protocol sends lines and characters as 32-bit numbers, so a larger number arrives as its
remainder.

## Main definitions

* `Editor.Position`, `Editor.Range` — positions and ranges as they are sent.
* `Editor.Range.ofSpan` — a span of a text as a range.
* `Editor.offsetAt` — the byte offset that a position sent by an editor stands for.
-/

namespace JavaLens.Editor

/-- A position as it is sent. -/
structure Position where
  line : UInt32
  character : UInt32
deriving DecidableEq, Repr, Inhabited

namespace Position

/-- A position to be sent. -/
def ofPosition (p : JavaLens.Position) : Position := ⟨p.line.toUInt32, p.character.toUInt32⟩

/-- A position that was sent. -/
def toPosition (p : Position) : JavaLens.Position := ⟨p.line.toNat, p.character.toNat⟩

/-- The JSON form of a position. -/
def toJson (p : Position) : Json :=
  .object [("line", .nat p.line.toNat), ("character", .nat p.character.toNat)]

end Position

/-- A range as it is sent. -/
structure Range where
  start : Position
  stop : Position
deriving DecidableEq, Repr, Inhabited

namespace Range

/-- The range of a span of an indexed text. -/
def ofSpan (index : LineIndex) (s : Span) : Range :=
  let (start, stop) := index.range s
  ⟨.ofPosition start, .ofPosition stop⟩

/-- The JSON form of a range. -/
def toJson (r : Range) : Json := .object [("start", r.start.toJson), ("end", r.stop.toJson)]

end Range

/-- The byte offset in a text of a position that was sent. -/
def offsetAt (text : String) (p : Position) : Nat := offsetOf text p.toPosition

end JavaLens.Editor
