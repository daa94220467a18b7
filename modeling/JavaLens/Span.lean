/-!
# Spans

Everything the library finds in a source is located by a span: a range of byte offsets into the
UTF-8 form of the text. Spans that come from a source are well formed; spans handed in by a caller
may be inverted, so no invariant is built into the type.

## Main definitions

* `Span` — a range of byte offsets.
* `Span.Touches` — the offset lies in the span or directly behind it.
* `Span.Encloses` — one span lies within another.
-/

namespace JavaLens

/-- A range of byte offsets, from `start` up to but not including `stop`. -/
structure Span where
  start : Nat
  stop : Nat
deriving DecidableEq, Repr, Inhabited

namespace Span

/-- The empty span at an offset. -/
def point (offset : Nat) : Span := ⟨offset, offset⟩

/-- The number of bytes covered; an inverted span covers none. -/
def length (s : Span) : Nat := s.stop - s.start

/-- Whether a cursor at `offset` is on the span: both ends count. -/
def Touches (s : Span) (offset : Nat) : Prop := s.start ≤ offset ∧ offset ≤ s.stop

instance (s : Span) (offset : Nat) : Decidable (s.Touches offset) :=
  inferInstanceAs (Decidable (_ ∧ _))

/-- Whether `inner` lies within `outer`; a span encloses itself. -/
def Encloses (outer inner : Span) : Prop := outer.start ≤ inner.start ∧ inner.stop ≤ outer.stop

instance (outer inner : Span) : Decidable (outer.Encloses inner) :=
  inferInstanceAs (Decidable (_ ∧ _))

/-- The span moved right by `distance` bytes. -/
def shift (distance : Nat) (s : Span) : Span := ⟨s.start + distance, s.stop + distance⟩

theorem Encloses.refl (s : Span) : s.Encloses s := ⟨Nat.le_refl _, Nat.le_refl _⟩

theorem Encloses.trans {a b c : Span} (h : a.Encloses b) (k : b.Encloses c) : a.Encloses c :=
  ⟨Nat.le_trans h.1 k.1, Nat.le_trans k.2 h.2⟩

end Span

end JavaLens
