import JavaLens.Span
import Mathlib.Data.String.Basic

/-!
# Spans of a text

When a span belongs to a text, and what it cuts out of it.

## Main definitions

* `Span.WellFormed` — a span that lies in a text and splits no character.
* `Span.slice` — the piece of a text that a span covers.
* `Span.Marks` — a span that is the place of a piece in a text.
* `Span.Before` — a span that stands before another one.
-/

namespace JavaLens.Span

/-- Whether a span lies in a text: it is not inverted, does not leave the text, and neither of its
ends splits a character. -/
structure WellFormed (text : String) (s : Span) : Prop where
  ordered : s.start ≤ s.stop
  bounded : s.stop ≤ text.utf8ByteSize
  start_boundary : (⟨s.start⟩ : String.Pos.Raw).IsValid text
  stop_boundary : (⟨s.stop⟩ : String.Pos.Raw).IsValid text

/-- The piece of a text that a span covers. -/
def slice (s : Span) (text : String) : String := String.Pos.Raw.extract text ⟨s.start⟩ ⟨s.stop⟩

/-- Whether a span is the place of `piece` in `text`. -/
def Marks (s : Span) (text piece : String) : Prop :=
  ∃ before after, text = before ++ piece ++ after ∧
    s.start = before.utf8ByteSize ∧ s.stop = (before ++ piece).utf8ByteSize

/-- Whether a span stands before another one and has nothing in common with it. -/
def Before (s t : Span) : Prop := s.start < t.start ∧ s.stop ≤ t.start

variable {text piece : String} {s : Span}

theorem utf8Len_toList (text : String) : String.utf8Len text.toList = text.utf8ByteSize := by
  rw [← String.utf8ByteSize_ofList, String.ofList_toList]

theorem Encloses.antisymm {a b : Span} (h : a.Encloses b) (k : b.Encloses a) : a = b := by
  cases a
  cases b
  exact congrArg₂ mk (Nat.le_antisymm h.1 k.1) (Nat.le_antisymm k.2 h.2)

theorem WellFormed.of_boundaries (ordered : s.start ≤ s.stop)
    (hstart : (⟨s.start⟩ : String.Pos.Raw).IsValid text)
    (hstop : (⟨s.stop⟩ : String.Pos.Raw).IsValid text) : s.WellFormed text :=
  ⟨ordered, hstop.le_utf8ByteSize, hstart, hstop⟩

theorem WellFormed.point {offset : Nat} (h : (⟨offset⟩ : String.Pos.Raw).IsValid text) :
    (point offset).WellFormed text := .of_boundaries (Nat.le_refl _) h h

theorem Marks.wellFormed (h : s.Marks text piece) : s.WellFormed text := by
  obtain ⟨before, after, rfl, hstart, hstop⟩ := h
  refine .of_boundaries ?_ ?_ ?_
  · rw [hstart, hstop, String.utf8ByteSize_append]
    omega
  · rw [String.Pos.Raw.isValid_iff_exists_append]
    exact ⟨before, piece ++ after, String.append_assoc .., congrArg _ hstart⟩
  · rw [String.Pos.Raw.isValid_iff_exists_append]
    exact ⟨before ++ piece, after, rfl, congrArg _ hstop⟩

theorem Marks.slice_eq (h : s.Marks text piece) : s.slice text = piece := by
  obtain ⟨before, after, rfl, hstart, hstop⟩ := h
  have cut := String.extract_of_valid before.toList piece.toList after.toList
  simp only [String.ofList_append, String.ofList_toList] at cut
  rw [slice, hstart, hstop, String.utf8ByteSize_append, ← utf8Len_toList, ← utf8Len_toList]
  exact cut

end JavaLens.Span
