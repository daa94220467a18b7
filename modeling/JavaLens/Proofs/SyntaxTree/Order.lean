import JavaLens.Proofs.SyntaxTree.Nesting

/-!
# Document order

Nodes and problems are sorted by where they start, and what is equal in that order stays as it was
recorded. So the order among some of the problems of a tree is that in which these would be sorted
alone, and it can be told by the indices of the tokens that they start with.

## Main statements

* `mergeSort_sublist`, `filter_mergeSort` — sorting and leaving out commute.
* `mergeSort_append` — parts that are in order already are sorted one by one.
* `Grammar.Mention.precedes_node` — nodes are in the order of their tokens.
-/

namespace JavaLens

/-! ## Sorting a part -/

section Sorting

variable {α : Type*} {le : α → α → Bool} {l l' : List α}

/-- An element is put behind the smaller ones, in front of all others. -/
theorem mergeSort_cons_eq (trans : ∀ a b c, le a b → le b c → le a c)
    (total : ∀ a b, le a b || le b a) (a : α) (l : List α) :
    (a :: l).mergeSort le =
      (l.mergeSort le).filter (fun b => !le a b) ++ a :: (l.mergeSort le).filter (le a) := by
  obtain ⟨front, back, sorted, rest, smaller⟩ := List.mergeSort_cons trans total a l
  have larger : ∀ b ∈ back, le a b := by
    have := sorted ▸ List.pairwise_mergeSort trans total (a :: l)
    exact (List.pairwise_cons.1 (List.pairwise_append.1 this).2.1).1
  have none_larger : front.filter (le a) = [] :=
    List.filter_eq_nil_iff.2 fun b hb => by simpa using smaller b hb
  have none_smaller : back.filter (fun b => !le a b) = [] :=
    List.filter_eq_nil_iff.2 fun b hb => by simpa using larger b hb
  rw [sorted, rest, List.filter_append, List.filter_append, none_larger, none_smaller,
    List.filter_eq_self.2 smaller, List.filter_eq_self.2 larger, List.append_nil, List.nil_append]

/-- A part of a list is sorted as the list is. -/
theorem mergeSort_sublist (trans : ∀ a b c, le a b → le b c → le a c)
    (total : ∀ a b, le a b || le b a) (h : l.Sublist l') :
    (l.mergeSort le).Sublist (l'.mergeSort le) := by
  induction h with
  | slnil => exact .refl _
  | @cons l l' a h ih =>
    obtain ⟨front, back, sorted, rest, -⟩ := List.mergeSort_cons trans total a l'
    rw [rest] at ih
    rw [sorted]
    exact ih.trans ((List.sublist_cons_self a back).append_left front)
  | @cons_cons l l' a h ih =>
    rw [mergeSort_cons_eq trans total, mergeSort_cons_eq trans total]
    exact (ih.filter _).append ((ih.filter _).cons_cons a)

/-- It makes no difference whether elements are left out before or after sorting. -/
theorem filter_mergeSort (trans : ∀ a b c, le a b → le b c → le a c)
    (total : ∀ a b, le a b || le b a) (keep : α → Bool) (l : List α) :
    (l.mergeSort le).filter keep = (l.filter keep).mergeSort le := by
  have part : ((l.filter keep).mergeSort le).Sublist (l.mergeSort le) :=
    mergeSort_sublist trans total List.filter_sublist
  have kept : ∀ a ∈ (l.filter keep).mergeSort le, keep a := fun a ha =>
    (List.mem_filter.1 (List.mem_mergeSort.1 ha)).2
  have part := List.filter_eq_self.2 kept ▸ part.filter keep
  refine (part.eq_of_length ?_).symm
  rw [List.length_mergeSort, ((List.mergeSort_perm l le).filter keep).length_eq]

/-- A part that comes before another one is sorted in front of it. -/
theorem mergeSort_append (trans : ∀ a b c, le a b → le b c → le a c)
    (total : ∀ a b, le a b || le b a) (before : ∀ a ∈ l, ∀ b ∈ l', le a b) :
    (l ++ l').mergeSort le = l.mergeSort le ++ l'.mergeSort le := by
  induction l with
  | nil => simp
  | cons a l ih =>
    have larger : ∀ b ∈ l'.mergeSort le, le a b := fun b hb =>
      before a List.mem_cons_self b (List.mem_mergeSort.1 hb)
    have none_smaller : (l'.mergeSort le).filter (fun b => !le a b) = [] :=
      List.filter_eq_nil_iff.2 fun b hb => by simpa using larger b hb
    rw [List.cons_append, mergeSort_cons_eq trans total, mergeSort_cons_eq trans total,
      ih fun b hb => before b (List.mem_cons_of_mem _ hb), List.filter_append, List.filter_append,
      none_smaller, List.filter_eq_self.2 larger]
    simp

end Sorting

/-! ## The order of problems -/

namespace Problem

theorem precedes_trans (a b c : Problem) (hab : a.precedes b) (hbc : b.precedes c) :
    a.precedes c := by
  simp only [precedes, decide_eq_true_eq] at *
  omega

theorem precedes_total (a b : Problem) : a.precedes b || b.precedes a := by
  simp only [precedes, Bool.or_eq_true, decide_eq_true_eq]
  omega

end Problem

/-! ## The order of tokens -/

namespace Grammar

variable {tokens : Array Token} {p q : Mention} {i j : Nat}

namespace SideBySide

theorem start_le_iff (h : SideBySide tokens) (hi : i < tokens.size) (hj : j < tokens.size) :
    (tokenAt tokens i).span.start ≤ (tokenAt tokens j).span.start ↔ i ≤ j := by
  refine ⟨fun hle => ?_, fun hij => h.start_le hij hj⟩
  by_contra! hlt
  have := h.nonempty j hj
  have := h.ordered j i hlt hi
  omega

theorem stop_le_iff (h : SideBySide tokens) (hi : i < tokens.size) (hj : j < tokens.size) :
    (tokenAt tokens i).span.stop ≤ (tokenAt tokens j).span.stop ↔ i ≤ j := by
  refine ⟨fun hle => ?_, fun hij => h.stop_le hij hj⟩
  by_contra! hlt
  have := h.nonempty i hi
  have := h.ordered j i hlt hi
  omega

end SideBySide

namespace Mention

/-- Document order by the indices of tokens. -/
def precedes (p q : Mention) : Bool :=
  p.first < q.first ∨ (p.first = q.first ∧ q.last ≤ p.last)

theorem precedes_trans (a b c : Mention) (hab : a.precedes b) (hbc : b.precedes c) :
    a.precedes c := by
  simp only [precedes, decide_eq_true_eq] at *
  omega

theorem precedes_total (a b : Mention) : a.precedes b || b.precedes a := by
  simp only [precedes, Bool.or_eq_true, decide_eq_true_eq]
  omega

/-- Nodes are in the order of their tokens. -/
theorem precedes_node (side : SideBySide tokens) (hp : p.Within tokens 0 tokens.size)
    (hq : q.Within tokens 0 tokens.size) :
    (p.node tokens).precedes (q.node tokens) = p.precedes q := by
  have bounded {m : Mention} (h : m.Within tokens 0 tokens.size) : m.first < tokens.size :=
    Nat.lt_of_le_of_lt (Nat.le_trans h.first_le h.name_le) h.last_lt
  have starts := side.start_le_iff (bounded hp) (bounded hq)
  have starts' := side.start_le_iff (bounded hq) (bounded hp)
  have stops := side.stop_le_iff hq.last_lt hp.last_lt
  rw [Node.precedes, precedes, decide_eq_decide, span_node side hp, span_node side hq]
  dsimp only
  omega

end Mention

end Grammar

end JavaLens
