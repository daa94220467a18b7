import JavaLens.Outline
import JavaLens.Proofs.SyntaxTree.Nesting
import Mathlib.Data.List.TakeWhile
import Mathlib.Order.Bounds.Basic

/-!
# Outlines of any tree

An outline is made by nesting: an entry holds those behind it for as long as it encloses them, and
what it does not enclose ends it for good. The spans of a tree that a caller has put together may
overlap, so an entry that has ended may well enclose a later one. Entries are in document order,
though, so whatever has ended it reaches further, and encloses the later one too. Hence nesting
finds for every entry the last one in front that encloses it.

## Main definitions

* `Symbol.Row`, `Symbol.rows` — an outline written down row by row, each row with the number of the
  row that holds it.
* `Symbol.encloser?` — the last of some entries that encloses another one.
* `Declaration.IsOutlined`, `SyntaxTree.outlined` — the declarations that an outline shows.

## Main statements

* `Symbol.rowsFrom_forest` — nesting finds the last entry in front that encloses an entry.
* `SyntaxTree.outline_by_containment` — the outline of a tree, row by row.
-/

namespace JavaLens

namespace Symbol

/-! ## Rows -/

/-- A row of an outline: an entry on its own, and the number of the row of the entry that holds
it. -/
structure Row where
  symbol : Symbol
  parent : Option Nat
deriving Repr

/-- The rows of entries that the entry of row `parent` holds, numbered from `next` on. What an entry
holds follows it directly. -/
def rowsFrom (parent : Option Nat) (next : Nat) : List Symbol → List Row
  | [] => []
  | ⟨name, detail, kind, span, selection, children⟩ :: rest =>
    let inside := rowsFrom (some next) (next + 1) children
    ⟨⟨name, detail, kind, span, selection, []⟩, parent⟩ ::
      (inside ++ rowsFrom parent (next + 1 + inside.length) rest)

/-- An outline row by row. -/
def rows (symbols : List Symbol) : List Row := rowsFrom none 0 symbols

/-! ## Searching -/

/-- The index of the last of some entries that encloses `s`. -/
def encloser? (s : Symbol) : List Symbol → Option Nat
  | [] => none
  | outer :: later =>
    match encloser? s later with
    | some j => some (j + 1)
    | none => if outer.span.Encloses s.span then some 0 else none

/-- The rows of entries behind others, where each is held by the last one that encloses it. -/
def searchRows (earlier : List Symbol) : List Symbol → List Row
  | [] => []
  | s :: rest => ⟨s, encloser? s earlier⟩ :: searchRows (earlier ++ [s]) rest

variable {s outer : Symbol} {earlier more symbols rest : List Symbol} {parent : Option Nat}

theorem encloser?_eq_none_iff :
    encloser? s earlier = none ↔ ∀ outer ∈ earlier, ¬ outer.span.Encloses s.span := by
  induction earlier with
  | nil => simp [encloser?]
  | cons first later ih =>
    rw [encloser?]
    cases h : encloser? s later <;> grind

theorem encloser?_concat (h : outer.span.Encloses s.span) :
    encloser? s (earlier ++ [outer]) = some earlier.length := by
  induction earlier with
  | nil => simp [encloser?, h]
  | cons first later ih => simp [encloser?, ih]

theorem encloser?_append (h : ∀ outer ∈ more, ¬ outer.span.Encloses s.span) :
    encloser? s (earlier ++ more) = encloser? s earlier := by
  induction earlier with
  | nil => exact encloser?_eq_none_iff.2 h
  | cons first later ih => rw [List.cons_append, encloser?, encloser?, ih]

/-- The entry that is found encloses `s`, and none behind it does. -/
theorem isGreatest_of_encloser? {p : Nat} (h : encloser? s earlier = some p) :
    IsGreatest {j | ∃ outer, earlier[j]? = some outer ∧ outer.span.Encloses s.span} p := by
  induction earlier generalizing p with
  | nil => cases h
  | cons first later ih =>
    rw [encloser?] at h
    cases found : encloser? s later with
    | some q =>
      simp only [found, Option.some.injEq] at h
      subst h
      obtain ⟨mem, upper⟩ := ih found
      refine ⟨by simpa using mem, ?_⟩
      rintro (_ | j) hj
      · exact Nat.zero_le _
      · exact Nat.succ_le_succ (upper (by simpa using hj))
    | none =>
      simp only [found, Option.ite_none_right_eq_some, Option.some.injEq] at h
      obtain ⟨encloses, rfl⟩ := h
      refine ⟨⟨first, by simp, encloses⟩, ?_⟩
      rintro (_ | j) ⟨outer, hj, encloses⟩
      · exact Nat.le_refl _
      · have mem : outer ∈ later := List.mem_of_getElem? (by simpa using hj)
        exact absurd encloses (encloser?_eq_none_iff.1 found outer mem)

theorem encloser?_eq_some_iff {p : Nat} :
    encloser? s earlier = some p ↔
      IsGreatest {j | ∃ outer, earlier[j]? = some outer ∧ outer.span.Encloses s.span} p := by
  refine ⟨isGreatest_of_encloser?, fun greatest => ?_⟩
  cases found : encloser? s earlier with
  | none =>
    obtain ⟨outer, hp, encloses⟩ := greatest.1
    exact absurd encloses (encloser?_eq_none_iff.1 found outer (List.mem_of_getElem? hp))
  | some q => rw [(isGreatest_of_encloser? found).unique greatest]

theorem searchRows_append (earlier symbols more : List Symbol) :
    searchRows earlier (symbols ++ more) =
      searchRows earlier symbols ++ searchRows (earlier ++ symbols) more := by
  induction symbols generalizing earlier with
  | nil => simp [searchRows]
  | cons s rest ih => simp [searchRows, ih]

theorem getElem?_searchRows (earlier symbols : List Symbol) (i : Nat) :
    (searchRows earlier symbols)[i]? =
      symbols[i]?.map fun s => ⟨s, encloser? s (earlier ++ symbols.take i)⟩ := by
  induction symbols generalizing earlier i with
  | nil => simp [searchRows]
  | cons s rest ih =>
    cases i with
    | zero => simp [searchRows]
    | succ i => simp [searchRows, ih]

theorem map_symbol_searchRows (earlier symbols : List Symbol) :
    (searchRows earlier symbols).map (·.symbol) = symbols := by
  induction symbols generalizing earlier with
  | nil => rfl
  | cons s rest ih => simp [searchRows, ih]

theorem length_searchRows (earlier symbols : List Symbol) :
    (searchRows earlier symbols).length = symbols.length := by
  simpa using congrArg List.length (map_symbol_searchRows earlier symbols)

/-! ## Nesting finds what searching finds -/

theorem rowsFrom_cons (parent : Option Nat) (next : Nat) (s : Symbol) (rest : List Symbol) :
    rowsFrom parent next (s :: rest) =
      ⟨{ s with children := [] }, parent⟩ :: (rowsFrom (some next) (next + 1) s.children ++
        rowsFrom parent (next + 1 + (rowsFrom (some next) (next + 1) s.children).length) rest) := by
  cases s
  rw [rowsFrom]

/-- An entry behind one that `s` does not enclose is enclosed by that one if it is enclosed by
`s`. -/
theorem encloses_of_ended {first inner : Symbol} (starts : s.span.start ≤ first.span.start)
    (ended : ¬ s.span.Encloses first.span) (later : first.span.start ≤ inner.span.start)
    (inside : s.span.Encloses inner.span) : first.span.Encloses inner.span := by
  have reaches : s.span.stop < first.span.stop := Nat.lt_of_not_le fun h => ended ⟨starts, h⟩
  exact ⟨later, Nat.le_trans inside.2 (Nat.le_of_lt reaches)⟩

/-- Whether entries are in the order of where they start. -/
def InOrder (symbols : List Symbol) : Prop :=
  symbols.Pairwise fun a b => a.span.start ≤ b.span.start

/-- Whether row `parent` holds those of the entries behind `earlier` that no entry between
encloses. -/
def HeldBy (parent : Option Nat) (earlier symbols : List Symbol) : Prop :=
  ∀ front s back, symbols = front ++ s :: back →
    (∀ outer ∈ front, ¬ outer.span.Encloses s.span) → encloser? s earlier = parent

/-- What an entry encloses, it holds. -/
theorem heldBy_inside (earlier : List Symbol) (h : ∀ t ∈ symbols, s.span.Encloses t.span) :
    HeldBy (some earlier.length) (earlier ++ [s]) symbols := by
  rintro front t back rfl -
  exact encloser?_concat (h t (by simp))

/-- Behind the end of an entry, neither it nor what it holds is the last to enclose anything. -/
theorem heldBy_behind {inside behind : List Symbol} (ordered : InOrder (s :: (inside ++ behind)))
    (held : HeldBy parent earlier (s :: (inside ++ behind)))
    (within : ∀ t ∈ inside, s.span.Encloses t.span)
    (ended : ∀ first ∈ behind.head?, ¬ s.span.Encloses first.span) :
    HeldBy parent (earlier ++ s :: inside) behind := by
  rintro front t back rfl unheld
  have outside : ¬ s.span.Encloses t.span := by
    intro encloses
    cases front with
    | nil => exact ended t rfl encloses
    | cons first front =>
      -- The entry that ends `s` starts before `t` and reaches further than `s`.
      refine unheld first (.head _) (encloses_of_ended ?_ (ended first rfl) ?_ encloses) <;>
        grind [InOrder]
  have none_encloses : ∀ outer ∈ s :: inside, ¬ outer.span.Encloses t.span := by
    intro outer mem encloses
    rcases List.mem_cons.1 mem with rfl | mem
    · exact outside encloses
    · exact outside ((within outer mem).trans encloses)
  rw [encloser?_append none_encloses]
  refine held (s :: inside ++ front) t back (by simp) fun outer mem => ?_
  rcases List.mem_append.1 mem with mem | mem
  · exact none_encloses outer mem
  · exact unheld outer mem

/-- Nesting finds for every entry the last one in front that encloses it. -/
theorem rowsFrom_forest (bare : ∀ s ∈ symbols, s.children = []) (ordered : InOrder symbols) :
    ∀ parent earlier, HeldBy parent earlier symbols →
      rowsFrom parent earlier.length (forest symbols) = searchRows earlier symbols := by
  fun_induction forest symbols with
  | case1 => simp [rowsFrom, searchRows]
  | case2 s rest inside behind ihInside ihBehind =>
    intro parent earlier held
    have within : ∀ t ∈ inside, s.span.Encloses t.span := fun t ht => by
      simpa using List.mem_takeWhile_imp ht
    have ended : ∀ first ∈ behind.head?, ¬ s.span.Encloses first.span := by
      intro first hfirst
      have := List.head?_dropWhile_not (fun t => decide (s.span.Encloses t.span)) rest
      grind
    have split : rest = inside ++ behind := (List.takeWhile_append_dropWhile ..).symm
    clear_value inside behind
    subst split
    obtain ⟨hs, hrest⟩ := List.forall_mem_cons.1 bare
    obtain ⟨hinside, hbehind⟩ := List.forall_mem_append.1 hrest
    obtain ⟨oinside, obehind, -⟩ := List.pairwise_append.1 (List.pairwise_cons.1 ordered).2
    have alone : { s with children := [] } = s := by
      cases s
      cases hs
      rfl
    have first : encloser? s earlier = parent := held [] s _ rfl (by simp)
    have below : rowsFrom (some earlier.length) (earlier.length + 1) (forest inside) =
        searchRows (earlier ++ [s]) inside := by
      simpa using ihInside hinside oinside _ _ (heldBy_inside earlier within)
    have after : rowsFrom parent (earlier.length + 1 + inside.length) (forest behind) =
        searchRows (earlier ++ s :: inside) behind := by
      have := ihBehind hbehind obehind _ _ (heldBy_behind ordered held within ended)
      simpa [Nat.add_assoc, Nat.add_comm 1] using this
    rw [rowsFrom_cons, below, length_searchRows, after, alone, searchRows, searchRows_append, first,
      List.append_assoc, List.singleton_append]

/-- Entries that hold nothing yet, nested and written down. -/
theorem rows_forest (bare : ∀ s ∈ symbols, s.children = []) (ordered : InOrder symbols) :
    rows (forest symbols) = searchRows [] symbols :=
  rowsFrom_forest bare ordered none [] fun _ _ _ _ _ => rfl

-- The first entry encloses the third one, and so does the second, which ends the first.
example :
    let entry (start stop : Nat) : Symbol := ⟨"", none, ⟨5⟩, ⟨start, stop⟩, ⟨start, start⟩, []⟩
    (rows (forest [entry 0 10, entry 5 20, entry 6 8])).map (·.parent) = [none, none, some 1] := by
  cbv

end Symbol

/-! ## The outline of a tree -/

theorem Node.start_le_of_precedes {a b : Node} (h : a.precedes b) :
    a.span.start ≤ b.span.start := by
  simp only [precedes, decide_eq_true_eq] at h
  omega

/-- Whether an outline shows a declaration. -/
def Declaration.IsOutlined (d : Declaration) : Prop :=
  d.flavor ≠ .localVariable ∧ d.flavor ≠ .parameter

instance (d : Declaration) : Decidable d.IsOutlined := inferInstanceAs (Decidable (_ ∧ _))

/-- What an outline shows has an entry of its own. -/
theorem Symbol.isSome_ofDeclaration? (d : Declaration) :
    (Symbol.ofDeclaration? d).isSome ↔ d.IsOutlined := by
  unfold Symbol.ofDeclaration? Declaration.IsOutlined
  cases d.flavor <;> simp [Symbol.Kind.ofFlavor?]

namespace SyntaxTree

/-- The declarations of a tree other than local variables and parameters, in document order. -/
def outlined (t : SyntaxTree) : List Declaration := t.declarations.filter fun d => d.IsOutlined

/-- The declarations that an outline shows are those of the nodes that the tree is made of. -/
theorem outlined_perm (nodes : List Node) (problems : List Problem) :
    (ofParts nodes problems).outlined.Perm
      ((nodes.filterMap Node.declaration?).filter fun d => d.IsOutlined) :=
  ((List.mergeSort_perm nodes _).filterMap _).filter _

/-- Declarations are in document order. -/
theorem outlined_pairwise_precedes (nodes : List Node) (problems : List Problem) :
    (ofParts nodes problems).outlined.Pairwise fun a b =>
      (Node.declaration a).precedes (.declaration b) := by
  have sorted : (ofParts nodes problems).nodes.Pairwise fun a b => a.precedes b :=
    List.pairwise_mergeSort Node.precedes_trans Node.precedes_total _
  refine .filter _ (sorted.filterMap _ ?_)
  intro a b h c hc d hd
  cases a <;> cases hc
  cases b <;> cases hd
  exact h

/-- Each declaration that an outline shows has its entry. -/
theorem map_some_entries (t : SyntaxTree) :
    t.entries.map some = t.outlined.map Symbol.ofDeclaration? := by
  unfold entries outlined
  induction t.declarations with
  | nil => rfl
  | cons d rest ih =>
    have := Symbol.isSome_ofDeclaration? d
    cases made : Symbol.ofDeclaration? d <;> simp_all

theorem span_of_ofDeclaration? {d : Declaration} {s : Symbol}
    (h : Symbol.ofDeclaration? d = some s) : s.span = d.span ∧ s.children = [] := by
  obtain ⟨kind, -, rfl⟩ := Option.map_eq_some_iff.1 h
  exact ⟨rfl, rfl⟩

/-- An entry lies where its declaration lies. -/
theorem map_span_entries (t : SyntaxTree) :
    t.entries.map (·.span) = t.outlined.map (·.span) := by
  have spans : ∀ d ∈ t.outlined, (Symbol.ofDeclaration? d).map (·.span) = some d.span := by
    intro d mem
    have outlined : d.IsOutlined := by simpa using (List.mem_filter.1 mem).2
    obtain ⟨s, made⟩ := Option.isSome_iff_exists.1 ((Symbol.isSome_ofDeclaration? d).2 outlined)
    rw [made, Option.map_some, (span_of_ofDeclaration? made).1]
  refine List.map_injective_iff.2 (Option.some_injective _) ?_
  calc (t.entries.map (·.span)).map some
    _ = (t.entries.map some).map (Option.map (·.span)) := by simp
    _ = (t.outlined.map (·.span)).map some := by
      rw [map_some_entries, List.map_map, List.map_map]
      exact List.map_congr_left spans

theorem exists_entry_iff {t : SyntaxTree} {j : Nat} {P : Span → Prop} :
    (∃ s, t.entries[j]? = some s ∧ P s.span) ↔ ∃ d, t.outlined[j]? = some d ∧ P d.span := by
  have same : (t.entries[j]?).map (·.span) = (t.outlined[j]?).map (·.span) := by
    rw [← List.getElem?_map, ← List.getElem?_map, map_span_entries]
  cases hs : t.entries[j]? <;> cases hd : t.outlined[j]? <;> simp_all

theorem entries_bare (t : SyntaxTree) : ∀ s ∈ t.entries, s.children = [] := by
  intro s mem
  obtain ⟨d, -, made⟩ := List.mem_filterMap.1 mem
  exact (span_of_ofDeclaration? made).2

theorem entries_inOrder (nodes : List Node) (problems : List Problem) :
    Symbol.InOrder (ofParts nodes problems).entries := by
  have ordered : ((ofParts nodes problems).outlined.map (·.span)).Pairwise fun a b =>
      a.start ≤ b.start := by
    refine List.pairwise_map.2 ((outlined_pairwise_precedes nodes problems).imp fun h => ?_)
    exact Node.start_le_of_precedes h
  rwa [← map_span_entries, List.pairwise_map] at ordered

/-- Whether the declaration at index `j` comes before that at index `i` and encloses it. -/
def LiesIn (t : SyntaxTree) (i j : Nat) : Prop :=
  j < i ∧ ∃ outer inner, t.outlined[j]? = some outer ∧ t.outlined[i]? = some inner ∧
    outer.span.Encloses inner.span

/-- The entries in front of one that enclose it are those of the declarations it lies in. -/
theorem exists_encloser_iff {t : SyntaxTree} {i j : Nat} {s : Symbol} (h : t.entries[i]? = some s) :
    (∃ outer, (t.entries.take i)[j]? = some outer ∧ outer.span.Encloses s.span) ↔
      t.LiesIn i j := by
  obtain ⟨inner, hinner, span⟩ := exists_entry_iff.1 ⟨s, h, rfl⟩
  have outer := exists_entry_iff (t := t) (j := j) (P := (·.Encloses inner.span))
  unfold LiesIn
  grind

/-- The outline of a tree whose nodes may have any spans. Row by row, it shows the declarations of
the nodes other than local variables and parameters, each once and in document order. An entry is
held by that of the last declaration in front that encloses its own, and it is one of the outermost
entries if and only if there is no such declaration. -/
theorem outline_by_containment (nodes : List Node) (problems : List Problem) :
    let t := ofParts nodes problems
    let rows := Symbol.rows t.outline
    t.outlined.Perm ((nodes.filterMap Node.declaration?).filter fun d => d.IsOutlined) ∧
    t.outlined.Pairwise (fun a b => (Node.declaration a).precedes (.declaration b)) ∧
    rows.map (fun row => some row.symbol) = t.outlined.map Symbol.ofDeclaration? ∧
    ∀ i row, rows[i]? = some row →
      (∀ p, row.parent = some p ↔ IsGreatest {j | t.LiesIn i j} p) ∧
      (row.parent = none ↔ ∀ j, ¬ t.LiesIn i j) := by
  intro t rows
  have hrows : rows = Symbol.searchRows [] t.entries :=
    Symbol.rows_forest (entries_bare t) (entries_inOrder nodes problems)
  refine ⟨outlined_perm nodes problems, outlined_pairwise_precedes nodes problems, ?_, ?_⟩
  · have symbols : rows.map (·.symbol) = t.entries := by rw [hrows, Symbol.map_symbol_searchRows]
    rw [← map_some_entries, ← symbols, List.map_map]
    rfl
  · intro i row hrow
    rw [hrows, Symbol.getElem?_searchRows] at hrow
    obtain ⟨s, hs, rfl⟩ := Option.map_eq_some_iff.1 hrow
    simp only [List.nil_append]
    constructor
    · intro p
      simp only [Symbol.encloser?_eq_some_iff, exists_encloser_iff hs]
    · simp only [Symbol.encloser?_eq_none_iff, ← exists_encloser_iff hs, List.mem_iff_getElem?]
      grind

end SyntaxTree

end JavaLens
