import JavaLens.Proofs.Grammar.Brackets

/-!
# Matching braces

A flat region counts brackets of all kinds alike, so it may end with a bracket of another kind than
it starts with. It ends with the brace that matches exactly if its brackets are properly nested:
inside of it those brackets are due that were opened there, and then its own.

## Main definitions

* `Grammar.NestedBetween` — the tokens of a range have properly nested brackets.
* `Grammar.Matches` — a closing brace matches an opening one.

## Main statements

* `Grammar.FlatRegion.unique` — a token starts one flat region only.
* `Grammar.Matches.flatRegion` — the tokens up to the matching brace are a flat region.
* `Grammar.FlatRegion.matches_iff` — where a flat region ends with the matching brace.
-/

namespace JavaLens.Grammar

variable {tokens : Array Token} {i j k m : Nat} {kind : Token.Kind}
  {inner outer due due' : List Token.Kind}

/-- The closing brackets that are due behind the tokens of a range. -/
def dueBetween (tokens : Array Token) (i j : Nat) : Option (List Token.Kind) :=
  dueBehind (tokens.extract i j).toList

/-- Whether the tokens of a range have properly nested brackets. -/
def NestedBetween (tokens : Array Token) (i j : Nat) : Prop :=
  ProperlyNested (tokens.extract i j).toList

/-- Whether the closing brace at the second index matches the opening brace at the first one: the
brackets between them are properly nested. -/
structure Matches (tokens : Array Token) (i m : Nat) : Prop where
  ordered : i < m
  opened : kindAt tokens i = some .lbrace
  nested : NestedBetween tokens (i + 1) m
  closed : kindAt tokens m = some .rbrace

theorem dueBetween_self (tokens : Array Token) (i : Nat) : dueBetween tokens i i = some [] := by
  rw [dueBetween, Array.extract_eq_empty_iff.2 (Nat.min_le_left ..)]
  rfl

theorem dueBetween_succ (hij : i ≤ j) (h : kindAt tokens j = some kind) :
    dueBetween tokens i (j + 1) = (dueBetween tokens i j).bind kind.due? := by
  have hj := lt_size_of_kindAt h
  have hkind : tokens[j].kind = kind := by simpa [kindAt, hj] using h
  rw [dueBetween, Array.extract_succ_right (by omega) hj, Array.toList_push, dueBehind,
    List.foldlM_append, ← dueBehind, ← dueBetween]
  simp [hkind]

/-- What can be read up to a token can be read up to each one before it. -/
theorem exists_dueBetween (hik : i ≤ k) (hkj : k ≤ j) (hj : j ≤ tokens.size)
    (h : dueBetween tokens i j = some due) : ∃ due, dueBetween tokens i k = some due := by
  induction hkj generalizing due with
  | refl => exact ⟨due, h⟩
  | @step j hkj ih =>
    obtain ⟨kind, hkind⟩ := exists_kindAt hj
    rw [dueBetween_succ (Nat.le_trans hik hkj) hkind] at h
    obtain ⟨_, before, _⟩ := Option.bind_eq_some_iff.1 h
    exact ih (Nat.le_of_succ_le hj) before

/-! ## Counting what is due -/

theorem ne_nil_of_due? (h : kind.due? due = some due') (closing : kind.isCloser) : due ≠ [] := by
  rintro rfl
  cases kind <;> simp_all [Token.Kind.isCloser, Token.Kind.due?]

/-- As many closing brackets are due as brackets are open. -/
theorem length_dueBetween (hij : i ≤ j) (hj : j ≤ tokens.size)
    (h : dueBetween tokens i j = some due) : (due.length : Int) = flatCount tokens i j := by
  induction hij generalizing due with
  | refl =>
    rw [dueBetween_self] at h
    cases h
    simp
  | @step j hij ih =>
    obtain ⟨kind, hkind⟩ := exists_kindAt hj
    rw [dueBetween_succ hij hkind] at h
    obtain ⟨before, hbefore, hdue⟩ := Option.bind_eq_some_iff.1 h
    have counted := ih (Nat.le_of_succ_le hj) hbefore
    rw [← List.append_nil before] at hdue
    have held : kind.isCloser → before ≠ [] := fun closing => by
      simpa using ne_nil_of_due? hdue closing
    obtain ⟨_, rfl, hlength⟩ := due?_append hdue held
    rw [flatCount_succ hij hkind, List.append_nil]
    omega

/-- What is due behind a token does not depend on the brackets that stay open. -/
theorem due?_append_eq (held : kind.isCloser → inner ≠ []) :
    kind.due? (inner ++ outer) = (kind.due? inner).map (· ++ outer) := by
  cases kind with
  | rparen | rbracket | rbrace =>
    obtain ⟨top, inner, rfl⟩ := List.exists_cons_of_ne_nil (held rfl)
    rw [Token.Kind.due?, Token.Kind.due?, apply_ite (Option.map (· ++ outer))]
    rfl
  | _ => rfl

/-- Nothing is due behind a token only if it closes the last bracket. -/
theorem due?_brace_eq_nil_iff :
    kind.due? (inner ++ [.rbrace]) = some [] ↔ inner = [] ∧ kind = .rbrace := by
  constructor
  · intro h
    cases kind with
    | rparen | rbracket | rbrace =>
      rw [Token.Kind.due?, Option.ite_none_right_eq_some, Option.some_inj] at h
      obtain ⟨top, rest⟩ := h
      cases inner with
      | nil => exact ⟨rfl, (Option.some.inj top).symm⟩
      | cons => simp at rest
    | _ => simp [Token.Kind.due?] at h
  · rintro ⟨rfl, rfl⟩
    rfl

theorem flatCount_head (hij : i < j) (hj : j ≤ tokens.size) (h : kindAt tokens i = some kind) :
    flatCount tokens i j = weight kind + flatCount tokens (i + 1) j := by
  induction hij with
  | refl => rw [flatCount_succ (Nat.le_refl i) h, flatCount_self, flatCount_self, Int.add_comm]
  | @step j hij ih =>
    obtain ⟨last, hlast⟩ := exists_kindAt hj
    rw [flatCount_succ (Nat.le_of_succ_le hij) hlast, flatCount_succ hij hlast,
      ih (Nat.le_of_succ_le hj), Int.add_assoc]

/-! ## Where a flat region ends -/

/-- A token starts one flat region only. -/
theorem FlatRegion.unique (region : FlatRegion tokens i j) (region' : FlatRegion tokens i k) :
    j = k := by
  -- The shorter one of two would end where the longer one still has a bracket open.
  have shorter {j k : Nat} (region : FlatRegion tokens i j) (region' : FlatRegion tokens i k) :
      ¬j < k := by
    intro hjk
    have inside := region'.inside j region.nonempty hjk
    have closed := region.closed (Nat.lt_of_lt_of_le hjk region'.bounded)
    omega
  have := shorter region region'
  have := shorter region' region
  omega

/-- Inside of a flat region its own brace is the last one that is due. -/
theorem FlatRegion.dueBetween_eq (region : FlatRegion tokens i j)
    (opened : kindAt tokens i = some .lbrace) (hik : i < k) (hkj : k < j) :
    dueBetween tokens i k = (dueBetween tokens (i + 1) k).map (· ++ [.rbrace]) := by
  induction hik with
  | refl =>
    rw [dueBetween_succ (Nat.le_refl i) opened, dueBetween_self, dueBetween_self]
    rfl
  | @step k hik ih =>
    have hk : k + 1 ≤ tokens.size := Nat.le_trans (Nat.le_of_lt hkj) region.bounded
    have hik' : i ≤ k := Nat.le_of_succ_le hik
    obtain ⟨kind, hkind⟩ := exists_kindAt hk
    have before := ih (Nat.lt_of_succ_lt hkj)
    rw [dueBetween_succ hik hkind]
    cases hinner : dueBetween tokens (i + 1) k with
    | none => rw [dueBetween_succ hik' hkind, before, hinner]; rfl
    | some inner =>
      have step : dueBetween tokens i (k + 1) = kind.due? (inner ++ [.rbrace]) := by
        rw [dueBetween_succ hik' hkind, before, hinner]
        rfl
      rw [step, Option.bind_some]
      by_cases held : kind.isCloser → inner ≠ []
      · exact due?_append_eq held
      · -- The token would close the region before its end, or it closes a wrong bracket.
        obtain ⟨closing, rfl⟩ : kind.isCloser ∧ inner = [] := by simpa using held
        have early : kind ≠ .rbrace := by
          rintro rfl
          have counted := length_dueBetween (Nat.le_succ_of_le hik') hk step
          have := region.inside (k + 1) (Nat.lt_succ_of_le hik') hkj
          simp at counted
          omega
        cases kind <;> simp_all [Token.Kind.isCloser, Token.Kind.due?]

/-- The tokens up to the matching brace are a flat region. -/
theorem Matches.flatRegion (h : Matches tokens i m) : FlatRegion tokens i (m + 1) := by
  have hm := lt_size_of_kindAt h.closed
  have inside (k : Nat) (hik : i < k) (hkm : k ≤ m) :
      flatCount tokens i k = 1 + flatCount tokens (i + 1) k :=
    flatCount_head hik (Nat.le_trans hkm (Nat.le_of_lt hm)) h.opened
  refine ⟨Nat.lt_succ_of_lt h.ordered, hm, fun k hik hkm => ?_, fun _ => ?_⟩
  · obtain ⟨due, hdue⟩ :=
      exists_dueBetween hik (Nat.le_of_lt_succ hkm) (Nat.le_of_lt hm) h.nested
    have counted : (due.length : Int) = flatCount tokens (i + 1) k :=
      length_dueBetween hik (by omega) hdue
    rw [inside k hik (Nat.le_of_lt_succ hkm)]
    omega
  · have counted := length_dueBetween h.ordered (Nat.le_of_lt hm) h.nested
    rw [flatCount_succ (Nat.le_of_lt h.ordered) h.closed, inside m h.ordered (Nat.le_refl m),
      ← counted]
    rfl

/-- A flat region whose brackets are properly nested ends with the matching brace, and a brace that
has a matching one starts such a region. -/
theorem FlatRegion.matches_iff (region : FlatRegion tokens i j)
    (opened : kindAt tokens i = some .lbrace) :
    Matches tokens i m ↔ NestedBetween tokens i j ∧ j = m + 1 := by
  have due {kind : Token.Kind} (hij : i < m) (hj : j = m + 1)
      (hkind : kindAt tokens m = some kind) :
      dueBetween tokens i j =
        (dueBetween tokens (i + 1) m).bind fun inner => kind.due? (inner ++ [.rbrace]) := by
    rw [hj, dueBetween_succ (Nat.le_of_lt hij) hkind, region.dueBetween_eq opened hij (by omega),
      Option.bind_map]
    rfl
  constructor
  · intro h
    have ended := region.unique h.flatRegion
    refine ⟨?_, ended⟩
    change dueBetween tokens i j = some []
    rw [due h.ordered ended h.closed, show dueBetween tokens (i + 1) m = some [] from h.nested]
    rfl
  · rintro ⟨nested, ended⟩
    have hm : m < tokens.size := by
      have := region.bounded
      omega
    have ordered : i < m := by
      -- A brace alone would be left open.
      by_contra! last
      obtain rfl : m = i := by
        have := region.nonempty
        omega
      have : dueBetween tokens m (m + 1) = some [] := ended ▸ nested
      rw [dueBetween_succ (Nat.le_refl m) opened, dueBetween_self] at this
      cases this
    obtain ⟨kind, hkind⟩ := exists_kindAt hm
    have nested : dueBetween tokens i j = some [] := nested
    rw [due ordered ended hkind] at nested
    obtain ⟨inner, hinner, last⟩ := Option.bind_eq_some_iff.1 nested
    obtain ⟨rfl, rfl⟩ := due?_brace_eq_nil_iff.1 last
    exact ⟨ordered, opened, hinner, hkind⟩

end JavaLens.Grammar
