import JavaLens.Proofs.Grammar.Moves

/-!
# The layout of mentions

How the mentions of a reading lie on its tokens, what its findings are made of, and which
identifiers it leaves out. All of it is by induction on the moves.

## Main definitions

* `Mention.Within` — a mention that lies in a range of tokens.
* `Mention.Apart` — two mentions side by side or one inside the other, clear of its name.
* `Spanned` — the spans that are made of tokens.
* `Accounted` — an identifier that a reading has not lost.

## Main statements

* `Moves.within`, `Moves.apart` — the mentions of a reading lie in it and do not overlap.
* `Moves.spanned` — its findings are placed by tokens.
* `Moves.accounted` — every identifier in it is mentioned, unless it may be passed over or a region
  was too deep.
-/

namespace JavaLens.Grammar

/-- A mention lies between two tokens, its name within it, and its name is an identifier. -/
structure Mention.Within (tokens : Array Token) (i j : Nat) (m : Mention) : Prop where
  start_le : i ≤ m.first
  first_le : m.first ≤ m.name
  name_le : m.name ≤ m.last
  last_lt : m.last < j
  named : kindAt tokens m.name = some .ident
  single : m.flavor = none → m.first = m.name ∧ m.last = m.name

theorem Mention.Within.mono {tokens : Array Token} {i j i' j' : Nat} {m : Mention}
    (h : m.Within tokens i j) (hi : i' ≤ i) (hj : j ≤ j') : m.Within tokens i' j' :=
  { h with
    start_le := Nat.le_trans hi h.start_le
    last_lt := Nat.lt_of_lt_of_le h.last_lt hj }

/-- Of two mentions, the first lies before the second, or the second inside the first behind its
name, or the first inside the second in front of its name. -/
def Mention.Apart (p q : Mention) : Prop :=
  p.last < q.first ∨ (p.name < q.first ∧ q.last ≤ p.last) ∨ (q.first ≤ p.first ∧ p.last < q.name)

/-- Spans that are made of tokens: those of a run of tokens, and the empty ones in front of a token
or at the end of the source. -/
inductive Spanned (tokens : Array Token) (sourceEnd : Nat) : Span → Prop where
  | run {i j : Nat} (ordered : i ≤ j) (bounded : j < tokens.size) :
      Spanned tokens sourceEnd ⟨(tokenAt tokens i).span.start, (tokenAt tokens j).span.stop⟩
  | front {i : Nat} (bounded : i < tokens.size) :
      Spanned tokens sourceEnd (.point (tokenAt tokens i).span.start)
  | atEnd : Spanned tokens sourceEnd (.point sourceEnd)

variable {tokens : Array Token} {sourceEnd n i j : Nat} {ms : List Mention} {fs : List Finding}

theorem Spanned.token (h : i < tokens.size) : Spanned tokens sourceEnd (tokenAt tokens i).span :=
  .run (Nat.le_refl i) h

theorem tokenAt_of_lt (h : i < tokens.size) : tokens[i]? = some (tokenAt tokens i) := by
  simp [tokenAt, h]

theorem Spanned.previousSpan (h : i ≤ tokens.size) :
    Spanned tokens sourceEnd (State.before tokens sourceEnd i).previousSpan := by
  cases i with
  | zero =>
    by_cases hsize : 0 < tokens.size
    · have : (State.before tokens sourceEnd 0).previousSpan =
          .point (tokenAt tokens 0).span.start := by
        simp [State.previousSpan, State.previous?, State.before, State.currentStart, State.tokenAt?,
          tokenAt_of_lt hsize]
      rw [this]
      exact .front hsize
    · have : (State.before tokens sourceEnd 0).previousSpan = .point sourceEnd := by
        simp [State.previousSpan, State.previous?, State.before, State.currentStart, State.tokenAt?,
          hsize]
      rw [this]
      exact .atEnd
  | succ k =>
    have : (State.before tokens sourceEnd (k + 1)).previousSpan = (tokenAt tokens k).span := by
      simp [State.previousSpan, State.previous?, State.before, tokenAt_of_lt h]
    rw [this]
    exact .token h

/-- The identifier at an index is mentioned, or it may be passed over, or some region was too deep
to be read. -/
def Accounted (tokens : Array Token) (ms : List Mention) (fs : List Finding) (k : Nat) : Prop :=
  Unrecorded tokens k ∨ (∃ m ∈ ms, m.name = k) ∨ ∃ f ∈ fs, f.fault = .tooDeep

theorem Accounted.mono {ms' : List Mention} {fs' : List Finding} {k : Nat}
    (h : Accounted tokens ms fs k) (hms : ms ⊆ ms') (hfs : fs ⊆ fs') :
    Accounted tokens ms' fs' k := by
  obtain h | ⟨m, hm, h⟩ | ⟨f, hf, h⟩ := h
  · exact .inl h
  · exact .inr (.inl ⟨m, hms hm, h⟩)
  · exact .inr (.inr ⟨f, hfs hf, h⟩)

namespace Moves

theorem within (h : Moves tokens sourceEnd n i j ms fs) : ∀ m ∈ ms, m.Within tokens i j := by
  induction h with
  | stay | pass | overlook | report | stray | skip => simp
  | trans first second ih ih' =>
    intro m hm
    obtain hm | hm := List.mem_append.1 hm
    · exact (ih m hm).mono (Nat.le_refl _) second.le
    · exact (ih' m hm).mono first.le (Nat.le_refl _)
  | reference seen =>
    intro m hm
    rw [List.mem_singleton.1 hm]
    exact ⟨Nat.le_refl _, Nat.le_refl _, Nat.le_refl _, Nat.lt_succ_self _, seen,
      fun _ => ⟨rfl, rfl⟩⟩
  | region _ _ _ ih => exact fun m hm => (ih m hm).mono (Nat.le_succ _) (Nat.le_succ _)
  | openRegion _ _ _ _ ih => exact fun m hm => (ih m hm).mono (Nat.le_succ _) (Nat.le_refl _)
  | declaration flavor head named rest ih ih' =>
    have hhead := head.le
    have hrest := rest.le
    intro m hm
    obtain hm | hm | hm := by simpa using hm
    · exact (ih m hm).mono (Nat.le_refl _) (by omega)
    · subst hm
      exact ⟨Nat.le_refl _, hhead, by simp only; omega, by simp only; omega, named, by simp⟩
    · exact (ih' m hm).mono (by omega) (Nat.le_refl _)

theorem apart (h : Moves tokens sourceEnd n i j ms fs) : ms.Pairwise Mention.Apart := by
  induction h with
  | stay | pass | overlook | report | stray | skip => exact .nil
  | reference => exact List.pairwise_singleton ..
  | region _ _ _ ih | openRegion _ _ _ _ ih => exact ih
  | trans first second ih ih' =>
    refine List.pairwise_append.2 ⟨ih, ih', fun p hp q hq => .inl ?_⟩
    exact Nat.lt_of_lt_of_le (first.within p hp).last_lt (second.within q hq).start_le
  | declaration flavor head named rest ih ih' =>
    refine List.pairwise_append.2 ⟨ih, List.pairwise_cons.2 ⟨fun q hq => ?_, ih'⟩,
      fun p hp q hq => ?_⟩
    · -- What follows the name lies in the declaration behind its name.
      have hq := rest.within q hq
      exact .inr (.inl ⟨hq.start_le, by have := hq.last_lt; simp only; omega⟩)
    · have hp := head.within p hp
      obtain rfl | hq := List.mem_cons.1 hq
      · -- What precedes the name lies in the declaration in front of its name.
        exact .inr (.inr ⟨hp.start_le, hp.last_lt⟩)
      · exact .inl (Nat.lt_trans hp.last_lt (rest.within q hq).start_le)

theorem spanned (h : Moves tokens sourceEnd n i j ms fs) (hi : i ≤ tokens.size) :
    ∀ f ∈ fs, Spanned tokens sourceEnd f.span := by
  induction h with
  | stay | pass | overlook | reference => simp
  | trans first _ ih ih' =>
    intro f hf
    obtain hf | hf := List.mem_append.1 hf
    · exact ih hi f hf
    · exact ih' (first.le_size hi) f hf
  | report =>
    intro f hf
    rw [List.mem_singleton.1 hf]
    exact .previousSpan hi
  | stray seen unnamed moved run =>
    have := run_le_size seen moved run
    intro f hf
    rw [List.mem_singleton.1 hf]
    exact .run (by omega) (by omega)
  | skip opened =>
    intro f hf
    rw [List.mem_singleton.1 hf]
    exact .token (lt_size_of_kindAt opened)
  | region opened _ _ ih => exact ih (lt_size_of_kindAt opened)
  | openRegion _ opened inside _ ih =>
    intro f hf
    obtain hf | hf := List.mem_append.1 hf
    · exact ih (lt_size_of_kindAt opened) f hf
    · rw [List.mem_singleton.1 hf]
      exact .previousSpan (inside.le_size (lt_size_of_kindAt opened))
  | declaration _ _ named _ ih ih' =>
    intro f hf
    obtain hf | hf := List.mem_append.1 hf
    · exact ih hi f hf
    · exact ih' (lt_size_of_kindAt named) f hf

/-- Every identifier that is read is accounted for. -/
theorem accounted (h : Moves tokens sourceEnd n i j ms fs) {k : Nat} (hi : i ≤ k) (hj : k < j)
    (hk : kindAt tokens k = some .ident) : Accounted tokens ms fs k := by
  induction h with
  | stay | report => omega
  | @trans _ _ j _ _ _ _ _ _ _ ih ih' =>
    by_cases hkj : k < j
    · exact (ih hi hkj).mono (List.subset_append_left ..) (List.subset_append_left ..)
    · exact (ih' (Nat.le_of_not_lt hkj) hj).mono (List.subset_append_right ..)
        (List.subset_append_right ..)
  | @pass _ i _ seen plain =>
    obtain rfl : k = i := by omega
    obtain rfl := Option.some.inj (seen.symm.trans hk)
    simp [isPlain] at plain
  | @overlook _ i _ allowed =>
    obtain rfl : k = i := by omega
    exact .inl allowed
  | @reference _ i _ =>
    obtain rfl : k = i := by omega
    exact .inr (.inl ⟨_, List.mem_singleton_self _, rfl⟩)
  | @stray _ i _ _ seen unnamed _ run =>
    -- Neither the first token of the run nor one behind it is an identifier.
    obtain rfl | hik := Nat.eq_or_lt_of_le hi
    · exact absurd (Option.some.inj (seen.symm.trans hk)) unnamed
    · obtain ⟨kind, hkind, prolongs⟩ := run k hik hj
      obtain rfl := Option.some.inj (hkind.symm.trans hk)
      simp [prolongsJunk] at prolongs
  | skip => exact .inr (.inr ⟨_, List.mem_singleton_self _, rfl⟩)
  | @region _ i j _ _ opened _ closed ih =>
    have hki : k ≠ i := by
      rintro rfl
      simp [opened] at hk
    have hkj : k ≠ j := by
      rintro rfl
      simp [closed] at hk
    exact ih (by omega) (by omega)
  | @openRegion _ i _ _ _ _ opened _ _ ih =>
    have hki : k ≠ i := by
      rintro rfl
      simp [opened] at hk
    exact (ih (by omega) hj).mono (List.Subset.refl _) (List.subset_append_left ..)
  | @declaration _ _ j _ _ _ _ _ flavor _ named _ ih ih' =>
    obtain hkj | rfl | hkj := Nat.lt_trichotomy k j
    · exact (ih hi hkj).mono (List.subset_append_left ..) (List.subset_append_left ..)
    · exact .inr (.inl ⟨_, List.mem_append_right _ List.mem_cons_self, rfl⟩)
    · refine (ih' hkj hj).mono ?_ (List.subset_append_right ..)
      exact fun m hm => List.mem_append_right _ (List.mem_cons_of_mem _ hm)

end Moves

end JavaLens.Grammar
