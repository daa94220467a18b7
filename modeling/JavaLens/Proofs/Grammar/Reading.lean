import JavaLens.Grammar.Type
import JavaLens.Proofs.Grammar.Moves

/-!
# Readings

A reading takes a state to a state: the tokens stay as they are, what was recorded before stays in
front, and what was recorded since is that of a chain of moves. The operations on states are
readings, and readings can be chained and repeated. A reading can be taken back.

## Main definitions

* `Traces` — what every function of the grammar does to a state.
* `Reads` — the same, with the imports left alone.
* `Takes` — a reading that does not stop at an identifier.
* `Inner.Sound` — the regions one level deeper are read.

## Main statements

* `Reads.rewind_eq` — a reading that is taken back has changed nothing.
* `repeatWhile_rel`, `repeatWhile_invariant`, `repeatWhile_exit` — what a loop does, from what each
  of its turns does.
-/

namespace JavaLens.Grammar

/-- The tokens stay, the depth is the same again, and what has been recorded since is that of a
chain of moves. -/
structure Traces (n : Nat) (s t : State) : Prop where
  tokens : t.tokens = s.tokens
  sourceEnd : t.sourceEnd = s.sourceEnd
  depth : t.depth = s.depth
  moves : ∃ ms fs, t.nodes.toList = s.nodes.toList ++ ms.map (Mention.node s.tokens) ∧
    t.findings.toList = s.findings.toList ++ fs ∧
    Moves s.tokens s.sourceEnd n s.cursor t.cursor ms fs

/-- A reading within a source, where no imports stand. -/
structure Reads (n : Nat) (s t : State) : Prop extends Traces n s t where
  imports : t.imports = s.imports

variable {n : Nat} {s t u : State} {kind : Token.Kind}

namespace Traces

theorem refl (n : Nat) (s : State) : Traces n s s :=
  ⟨rfl, rfl, rfl, [], [], by simp, by simp, .stay _ _⟩

theorem trans (h : Traces n s t) (k : Traces n t u) : Traces n s u := by
  obtain ⟨ms, fs, hnodes, hfindings, hmoves⟩ := h.moves
  obtain ⟨ms', fs', knodes, kfindings, kmoves⟩ := k.moves
  rw [h.tokens] at knodes kmoves
  rw [h.sourceEnd] at kmoves
  refine ⟨k.tokens.trans h.tokens, k.sourceEnd.trans h.sourceEnd, k.depth.trans h.depth, ms ++ ms',
    fs ++ fs', ?_, ?_, hmoves.trans kmoves⟩
  · rw [knodes, hnodes, List.map_append, List.append_assoc]
  · rw [kfindings, hfindings, List.append_assoc]

theorem cursor_le (h : Traces n s t) : s.cursor ≤ t.cursor := by
  obtain ⟨_, _, _, _, moves⟩ := h.moves
  exact moves.le

theorem cursor_le_size (h : Traces n s t) (hs : s.cursor ≤ s.tokens.size) :
    t.cursor ≤ t.tokens.size := by
  obtain ⟨_, _, _, _, moves⟩ := h.moves
  rw [h.tokens]
  exact moves.le_size hs

theorem deeper (h : Traces n s t) : Traces (n + 1) s t := by
  obtain ⟨ms, fs, hnodes, hfindings, moves⟩ := h.moves
  exact ⟨h.tokens, h.sourceEnd, h.depth, ms, fs, hnodes, hfindings, moves.deeper⟩

end Traces

namespace Reads

theorem refl (n : Nat) (s : State) : Reads n s s := ⟨.refl n s, rfl⟩

theorem trans (h : Reads n s t) (k : Reads n t u) : Reads n s u :=
  ⟨h.toTraces.trans k.toTraces, k.imports.trans h.imports⟩

theorem deeper (h : Reads n s t) : Reads (n + 1) s t := ⟨h.toTraces.deeper, h.imports⟩

/-- A reading that is taken back has changed nothing. -/
theorem rewind_eq (h : Reads n s t) : t.rewind s.mark = s := by
  obtain ⟨⟨htokens, hend, hdepth, ms, fs, hnodes, hfindings, _⟩, himports⟩ := h
  have nodes : t.nodes.shrink s.nodes.size = s.nodes := by
    apply Array.toList_inj.1
    rw [Array.toList_shrink, hnodes, ← Array.length_toList, List.take_left]
  have findings : t.findings.shrink s.findings.size = s.findings := by
    apply Array.toList_inj.1
    rw [Array.toList_shrink, hfindings, ← Array.length_toList, List.take_left]
  simp only [State.rewind, State.mark, nodes, findings, htokens, hend, hdepth, himports]

end Reads

/-- A reading from `r` that goes on from `s`, and takes an identifier there. -/
structure Takes (n : Nat) (r s t : State) : Prop extends Reads n r t where
  le : s.cursor ≤ t.cursor
  taken : s.peek = some .ident → s.cursor < t.cursor

/-- Where the cursor stands still it sees the same token. -/
theorem Traces.peek_eq (h : Traces n s t) (hcursor : t.cursor = s.cursor) : t.peek = s.peek := by
  simp [State.peek, State.peekAt, State.tokenAt?, h.tokens, hcursor]

namespace Takes

variable {r : State}

theorem of_lt (h : Reads n r t) (moved : s.cursor < t.cursor) : Takes n r s t :=
  ⟨h, Nat.le_of_lt moved, fun _ => moved⟩

theorem of_peek_ne (h : Reads n r s) (k : Reads n s t) (hpeek : s.peek ≠ some .ident) :
    Takes n r s t := ⟨h.trans k, k.cursor_le, fun hident => absurd hident hpeek⟩

theorem refl (hpeek : s.peek ≠ some .ident) : Takes n s s s :=
  .of_peek_ne (.refl n s) (.refl n s) hpeek

/-- What is taken stays taken as the reading goes on. -/
theorem trans (h : Takes n r s t) (k : Reads n t u) : Takes n r s u :=
  ⟨h.toReads.trans k, Nat.le_trans h.le k.cursor_le,
    fun hpeek => Nat.lt_of_lt_of_le (h.taken hpeek) k.cursor_le⟩

/-- A reading that starts in front of where it goes on from. -/
theorem from_earlier (h : Takes n r t u) (k : Reads n s t) (hpeek : s.peek ≠ some .ident) :
    Takes n r s u :=
  ⟨h.toReads, Nat.le_trans k.cursor_le h.le, fun hident => absurd hident hpeek⟩

/-- What is read before the identifier may be read over it. -/
theorem from_start (h : Takes n r s t) (k : Reads n r s) : Takes n r r t := by
  refine ⟨h.toReads, Nat.le_trans k.cursor_le h.le, fun hpeek => ?_⟩
  rcases Nat.lt_or_eq_of_le k.cursor_le with moved | same
  · exact Nat.lt_of_lt_of_le moved h.le
  · rw [same]
    exact h.taken (k.peek_eq same.symm ▸ hpeek)

end Takes

theorem Reads.trans_takes (h : Reads n s t) (k : Takes n t t u) : Takes n s s u :=
  .from_start ⟨h.trans k.toReads, k.le, k.taken⟩ h

/-! ## Looking -/

theorem sees_iff : s.sees kind ↔ s.peek = some kind := beq_iff_eq

theorem seesAt_iff {i : Nat} : s.seesAt i kind ↔ s.peekAt i = some kind := beq_iff_eq

theorem spells_iff {i : Nat} {text : String} :
    s.spells i kind text ↔ ∃ token, s.tokenAt? i = some token ∧ token.kind = kind ∧
      token.text = text := by
  unfold State.spells
  split <;> simp_all

theorem peekAt_of_spells {i : Nat} {text : String} (h : s.spells i kind text) :
    s.peekAt i = some kind := by
  obtain ⟨token, hs, hkind, _⟩ := spells_iff.1 h
  simp [State.peekAt, hs, hkind]

@[simp] theorem peekAt_advance (s : State) (i j : Nat) :
    (s.advance i).peekAt j = s.peekAt (i + j) := by
  simp [State.peekAt, State.tokenAt?, State.advance, Nat.add_assoc]

@[simp] theorem spells_advance (s : State) (i j : Nat) (kind : Token.Kind) (text : String) :
    (s.advance i).spells j kind text = s.spells (i + j) kind text := by
  simp [State.spells, State.tokenAt?, State.advance, Nat.add_assoc]

theorem peek_eq_none_iff : s.peek = none ↔ s.tokens.size ≤ s.cursor := by
  simp [State.peek, State.peekAt, State.tokenAt?]

theorem lt_size_of_peek (h : s.peek = some kind) : s.cursor < s.tokens.size :=
  lt_size_of_kindAt (show kindAt s.tokens s.cursor = some kind from h)

theorem bump_eq (h : s.peek = some kind) : s.bump = s.advance 1 := if_pos (lt_size_of_peek h)

theorem cursor_le_bump (s : State) : s.cursor ≤ s.bump.cursor := by
  unfold State.bump
  split
  · exact Nat.le_succ _
  · exact Nat.le_refl _

/-- The token at the cursor is the one behind it after a step. -/
theorem previousSpan_bump (h : s.peek = some kind) : s.bump.previousSpan = s.currentSpan := by
  have hlt := lt_size_of_peek h
  simp [bump_eq h, State.previousSpan, State.previous?, State.currentSpan, State.tokenAt?,
    State.advance, hlt]

theorem cursor_lt_bump (h : s.peek = some kind) : s.cursor < s.bump.cursor := by
  rw [bump_eq h]
  exact Nat.lt_succ_self _

/-- Only an identifier is taken as one. -/
theorem identifier?_eq_some_iff {name : Identifier} :
    s.identifier? = some (name, t) ↔
      s.peek = some .ident ∧ name = identifierAt s.tokens s.cursor ∧ t = s.advance 1 := by
  unfold State.identifier?
  split
  · rename_i text span h
    have hpeek : s.peek = some .ident := by simp [State.peek, State.peekAt, h]
    have hname : identifierAt s.tokens s.cursor = ⟨text, span⟩ := by
      simp only [State.tokenAt?, Nat.add_zero] at h
      simp [identifierAt, tokenAt, h]
    rw [bump_eq hpeek, hname]
    simp [hpeek, eq_comm]
  · rename_i hne
    have : s.peek ≠ some .ident := by
      intro h
      simp only [State.peek, State.peekAt, Option.map_eq_some_iff] at h
      obtain ⟨⟨_, text, span⟩, h, rfl⟩ := h
      exact hne text span h
    simp [this]

theorem cursor_lt_reference (h : s.peek = some .ident) : s.cursor < s.reference.cursor := by
  simp [State.reference, identifier?_eq_some_iff.2 ⟨h, rfl, rfl⟩, State.advance]

theorem enter?_eq_some_iff :
    s.enter? = some t ↔ s.depth < maxNesting ∧ t = { s with depth := s.depth + 1 } := by
  rw [State.enter?, Option.ite_none_right_eq_some, Option.some_inj, eq_comm (a := t)]

/-! ## Moving and recording -/

namespace Reads

theorem advance (h : s.peek = some kind) (plain : isPlain kind) : Reads n s (s.advance 1) :=
  ⟨⟨rfl, rfl, rfl, [], [], by simp [State.advance], by simp [State.advance], .pass h plain⟩, rfl⟩

theorem bump (h : s.peek = some kind) (plain : isPlain kind) : Reads n s s.bump := by
  rw [bump_eq h]
  exact advance h plain

/-- Two tokens at once. -/
theorem advance_two (first : Reads n s (s.advance 1)) (h : s.peekAt 1 = some kind)
    (plain : isPlain kind) : Reads n s (s.advance 2) := by
  have second : Reads n (s.advance 1) ((s.advance 1).advance 1) :=
    advance (by simpa [State.peek] using h) plain
  exact first.trans second

/-- One of two readings, as the token at the cursor decides. -/
theorem ifSees {r : State} (yes : s.peek = some kind → Reads n r t) (no : Reads n r u) :
    Reads n r (if s.sees kind then t else u) := by
  split
  · rename_i h
    exact yes (sees_iff.1 h)
  · exact no

theorem eat (plain : isPlain kind) : Reads n s (s.eat kind) :=
  ifSees (fun h => bump h plain) (refl n s)

/-- An identifier may be passed over where it need not be mentioned. -/
theorem overlook (h : s.peek = some .ident) (allowed : Unrecorded s.tokens s.cursor) :
    Reads n s (s.advance 1) :=
  ⟨⟨rfl, rfl, rfl, [], [], by simp [State.advance], by simp [State.advance], .overlook h allowed⟩,
    rfl⟩

theorem overlookWord {word : String} (h : s.seesWord 0 word) (hword : word ∈ contextualWords) :
    Reads n s (s.advance 1) := by
  refine overlook (peekAt_of_spells h) (.inl ?_)
  obtain ⟨token, htoken, _, htext⟩ := spells_iff.1 h
  simp only [State.tokenAt?, Nat.add_zero] at htoken
  simpa [tokenAt, htoken, htext] using hword

theorem bumpWord {word : String} (h : s.seesWord 0 word) (hword : word ∈ contextualWords) :
    Reads n s s.bump := by
  rw [bump_eq (peekAt_of_spells h)]
  exact overlookWord h hword

theorem reference (n : Nat) (s : State) : Reads n s s.reference := by
  unfold State.reference
  split
  · rename_i name t h
    obtain ⟨hpeek, rfl, rfl⟩ := identifier?_eq_some_iff.1 h
    exact ⟨⟨rfl, rfl, rfl, [.reference s.cursor], [], by simp [State.advance]; rfl,
      by simp [State.advance], .reference hpeek⟩, rfl⟩
  · exact refl n s

theorem report {fault : Fault} (placed : isLocal fault) :
    Reads n s (s.report fault s.previousSpan) :=
  ⟨⟨rfl, rfl, rfl, [], [_], by simp [State.report], by simp [State.report]; rfl, .report placed⟩,
    rfl⟩

end Reads

/-! ## Repeating -/

/-- The state at the end of a turn. -/
def Turn.state {α : Type} : Turn α → State
  | .stop _ s => s
  | .again _ s => s

@[simp] theorem Turn.state_stop {α : Type} (v : α) (s : State) : (Turn.stop v s).state = s := rfl

@[simp] theorem Turn.state_again {α : Type} (v : α) (s : State) : (Turn.again v s).state = s := rfl

section Loops

variable {α : Type} {turn : α → State → Turn α} (R : State → State → Prop)

/-- A loop does what its turns do, from where its first turn leads. -/
theorem repeatWhile_rel (trans : ∀ s t u, R s t → R t u → R s u)
    (step : ∀ v s, R s (turn v s).state) {r : State} {v : α} {s : State}
    (first : R r (turn v s).state) : R r (repeatWhile turn v s).2 := by
  fun_induction repeatWhile turn v s with
  | case1 v s v' s' h => simpa [h, Turn.state] using first
  | case2 v s _ v' s' h _ ih =>
    rw [h] at first
    exact ih (trans _ _ _ first (step v' s'))
  | case3 v s _ v' s' h _ => simpa [h, Turn.state] using first

/-- A loop whose turns move the cursor keeps what each turn keeps, and ends with a turn that says
so. -/
theorem repeatWhile_invariant {I : α → State → Prop} {motive : α × State → Prop} {v : α}
    {s : State} (start : I v s)
    (again : ∀ {v s v' s'}, I v s → turn v s = .again v' s' →
      I v' s' ∧ s'.remaining < s.remaining)
    (stop : ∀ {v s v' s'}, I v s → turn v s = .stop v' s' → motive (v', s')) :
    motive (repeatWhile turn v s) := by
  fun_induction repeatWhile turn v s with
  | case1 v s v' s' h => exact stop start h
  | case2 v s _ v' s' h _ ih => exact ih (again start h).1
  | case3 v s _ v' s' h hle => exact absurd (again start h).2 hle

/-- A loop whose turns move the cursor ends with a turn that says so. -/
theorem repeatWhile_exit {motive : α × State → Prop} {v : α} {s : State} (refl : ∀ s, R s s)
    (trans : ∀ s t u, R s t → R t u → R s u)
    (again : ∀ {v s v' s'}, turn v s = .again v' s' → R s s' ∧ s'.remaining < s.remaining)
    (stop : ∀ {v t v' u}, R s t → turn v t = .stop v' u → motive (v', u)) :
    motive (repeatWhile turn v s) := by
  refine repeatWhile_invariant (I := fun _ t => R s t) (refl s) (fun reads h => ?_) stop
  exact ⟨trans _ _ _ reads (again h).1, (again h).2⟩

theorem whileSeen_rel {condition : State → Bool} {step : State → State}
    (trans : ∀ s t u, R s t → R t u → R s u)
    (h : ∀ s, R s (if condition s then step s else s)) (s : State) :
    R s (whileSeen condition step s) := by
  have turns (s : State) :
      R s (if condition s then Turn.again () (step s) else Turn.stop () s).state := by
    rw [apply_ite Turn.state]
    exact h s
  exact repeatWhile_rel R trans (fun _ s => turns s) (turns s)

end Loops

namespace Reads

variable {α : Type} {turn : α → State → Turn α}

theorem repeatWhile (step : ∀ v s, Reads n s (turn v s).state) (v : α) (s : State) :
    Reads n s (repeatWhile turn v s).2 :=
  repeatWhile_rel (Reads n) (fun _ _ _ => trans) step (step v s)

/-- A turn that goes on behind a separator. -/
theorem separator {v w : α} (plain : isPlain kind) :
    Reads n s (if s.sees kind then Turn.again v s.bump else .stop w s).state := by
  rw [apply_ite Turn.state]
  exact ifSees (fun h => bump h plain) (refl n s)

theorem whileSeen {condition : State → Bool} {step : State → State}
    (h : ∀ s, condition s → Reads n s (step s)) (s : State) :
    Reads n s (whileSeen condition step s) := by
  refine whileSeen_rel (Reads n) (fun _ _ _ => trans) (fun s => ?_) s
  split
  · rename_i hs
    exact h s hs
  · exact refl n s

end Reads

/-- A loop takes an identifier if its first turn does. -/
theorem Takes.repeatWhile {α : Type} {turn : α → State → Turn α}
    (step : ∀ v s, Reads n s (turn v s).state) {v : α}
    (first : s.peek = some .ident → s.cursor < (turn v s).state.cursor) :
    Takes n s s (Grammar.repeatWhile turn v s).2 := by
  have whole := Reads.repeatWhile step v s
  refine ⟨whole, whole.cursor_le, fun hpeek => Nat.lt_of_lt_of_le (first hpeek) ?_⟩
  exact (repeatWhile_rel (Reads n) (fun _ _ _ => .trans) step (.refl n _)).cursor_le

/-! ## Recovering -/

/-- The cursor has been moved over tokens that prolong a run of stray ones. -/
def MovesOverJunk (s t : State) : Prop :=
  ∃ i, t = s.advance i ∧
    ∀ k, s.cursor ≤ k → k < s.cursor + i → ∃ kind, kindAt s.tokens k = some kind ∧ prolongsJunk kind

theorem MovesOverJunk.trans (h : MovesOverJunk s t) (k : MovesOverJunk t u) :
    MovesOverJunk s u := by
  obtain ⟨i, rfl, hi⟩ := h
  obtain ⟨j, rfl, hj⟩ := k
  refine ⟨i + j, by simp [State.advance, Nat.add_assoc], fun k hk hlt => ?_⟩
  by_cases hki : k < s.cursor + i
  · exact hi k hk hki
  · exact hj k (Nat.le_of_not_lt hki) (by simpa [State.advance, Nat.add_assoc] using hlt)

theorem movesOverJunk_whileSeen (s : State) :
    MovesOverJunk s (whileSeen State.seesJunk State.bump s) := by
  have step (s : State) : MovesOverJunk s (if s.seesJunk then s.bump else s) := by
    split
    · rename_i seen
      obtain ⟨kind, hpeek, prolongs⟩ := (Option.any_eq_true ..).1 seen
      refine ⟨1, bump_eq hpeek, fun k hk hlt => ⟨kind, ?_, prolongs⟩⟩
      obtain rfl : k = s.cursor := by omega
      exact hpeek
    · exact ⟨0, rfl, fun k hk hlt => by omega⟩
  exact whileSeen_rel MovesOverJunk (fun _ _ _ => MovesOverJunk.trans) step s

/-- The cursor has been moved, but not behind the last token. -/
def MovesOver (s t : State) : Prop :=
  ∃ i, t = s.advance i ∧ (s.cursor ≤ s.tokens.size → s.cursor + i ≤ s.tokens.size)

theorem MovesOver.refl (s : State) : MovesOver s s := ⟨0, rfl, id⟩

theorem MovesOver.trans (h : MovesOver s t) (k : MovesOver t u) : MovesOver s u := by
  obtain ⟨i, rfl, hi⟩ := h
  obtain ⟨j, rfl, hj⟩ := k
  refine ⟨i + j, by simp [State.advance, Nat.add_assoc], fun hs => ?_⟩
  simpa [State.advance, Nat.add_assoc] using hj (hi hs)

theorem MovesOver.bump (h : s.peek = some kind) : MovesOver s s.bump :=
  ⟨1, bump_eq h, fun _ => lt_size_of_peek h⟩

/-- What is skipped starts with the token at the cursor. -/
theorem movesOver_skipBalanced (h : s.peek = some kind) : MovesOver s.bump s.skipBalanced := by
  refine repeatWhile_rel MovesOver (fun _ _ _ => MovesOver.trans) (fun count s => ?_) ?_ <;>
    unfold State.balanceTurn
  · cases hpeek : s.peek with
    | none => exact .refl s
    | some kind =>
      simp only [apply_ite Turn.state, Turn.state_stop, Turn.state_again, ite_self]
      exact .bump hpeek
  · simp only [h, apply_ite Turn.state, Turn.state_stop, Turn.state_again, ite_self]
    exact .refl _

/-- The brackets between two states are counted, and some are open at every token between them. -/
structure Counted (s : State) (count : Nat) (t : State) : Prop where
  tokens : t.tokens = s.tokens
  le : s.cursor ≤ t.cursor
  bounded : t.cursor ≤ s.tokens.size
  count_eq : flatCount s.tokens s.cursor t.cursor = count
  inside : ∀ k, s.cursor < k → k ≤ t.cursor → 0 < flatCount s.tokens s.cursor k

namespace Counted

variable {count : Nat}

theorem start (h : s.peek = some kind) : Counted s 0 s :=
  ⟨rfl, Nat.le_refl _, Nat.le_of_lt (lt_size_of_peek h), by simp, fun k hk hle => by omega⟩

/-- Counting one more token. A bracket is closed only where one is open. -/
theorem count_succ (h : Counted s count t) (first : s.peek = some .lbrace)
    (hpeek : t.peek = some kind) :
    flatCount s.tokens s.cursor (t.cursor + 1) =
      (if kind.isOpener then count + 1 else if kind.isCloser then count - 1 else count : Nat) := by
  have hkind : kindAt s.tokens t.cursor = some kind := h.tokens ▸ hpeek
  have hcount := h.count_eq
  rw [flatCount_succ h.le hkind, weight]
  split
  · omega
  · rename_i other
    have later : s.cursor < t.cursor := by
      refine Nat.lt_of_le_of_ne h.le fun heq => other ?_
      rw [← heq] at hkind
      cases Option.some.inj (hkind.symm.trans first)
      rfl
    have := h.inside t.cursor later (Nat.le_refl _)
    split <;> omega

/-- A turn goes on while brackets are open, and stops at the end of the region. -/
theorem turn (h : Counted s count t) (first : s.peek = some .lbrace) :
    match State.balanceTurn count t with
    | .again count u => Counted s count u ∧ u.remaining < t.remaining
    | .stop _ u => FlatRegion s.tokens s.cursor u.cursor := by
  have hs := lt_size_of_peek first
  have le := h.le
  unfold State.balanceTurn
  cases hpeek : t.peek with
  | none =>
    have ended := peek_eq_none_iff.1 hpeek
    rw [h.tokens] at ended
    exact ⟨by omega, h.bounded, fun k hk hlt => h.inside k hk (by omega), fun _ => by omega⟩
  | some kind =>
    have hcount := h.count_succ first hpeek
    have ht := lt_size_of_peek hpeek
    simp only [bump_eq hpeek]
    generalize (if kind.isOpener then _ else _ : Nat) = next at hcount ⊢
    rw [h.tokens] at ht
    rcases Nat.eq_zero_or_pos next with rfl | opened
    · rw [if_pos rfl]
      exact ⟨Nat.lt_succ_of_le le, ht, fun k hk hlt => h.inside k hk (Nat.le_of_lt_succ hlt),
        fun _ => hcount⟩
    · rw [if_neg (Nat.ne_of_gt opened)]
      refine ⟨⟨h.tokens, Nat.le_succ_of_le le, ht, hcount, fun k hk hle => ?_⟩, ?_⟩
      · rcases Nat.lt_or_eq_of_le hle with hlt | rfl
        · exact h.inside k hk (Nat.le_of_lt_succ hlt)
        · simp only [State.advance] at *
          omega
      · simp only [State.remaining, State.advance, h.tokens]
        omega

end Counted

/-- What is skipped is the region of all brackets. -/
theorem flatRegion_skipBalanced (h : s.peek = some .lbrace) :
    FlatRegion s.tokens s.cursor s.skipBalanced.cursor := by
  refine repeatWhile_invariant (I := Counted s)
    (motive := fun r => FlatRegion s.tokens s.cursor r.2.cursor) (.start h)
    (fun counted hturn => ?_) (fun counted hturn => ?_)
  · simpa [hturn] using counted.turn h
  · simpa [hturn] using counted.turn h

theorem lastEnd_eq {i : Nat} (h : s.cursor = i + 1) :
    s.lastEnd = (tokenAt s.tokens i).span.stop := by
  unfold State.lastEnd State.previous?
  rw [h]
  cases hi : s.tokens[i]? with
  | none => simp [tokenAt, hi]; rfl
  | some token => simp [tokenAt, hi]

namespace Reads

theorem expect {symbol : Missing} {construct : Construct} (plain : isPlain kind)
    (placed : isLocal (.missing symbol construct)) :
    Reads n s (s.expect kind symbol construct) := ifSees (fun h => bump h plain) (report placed)

theorem expectSemicolon (construct : Construct) : Reads n s (s.expectSemicolon construct) :=
  expect rfl rfl

theorem expectCloseParen (construct : Construct) : Reads n s (s.expectCloseParen construct) :=
  expect rfl rfl

theorem missingDeclaratorId (n : Nat) (s : State) : Reads n s s.missingDeclaratorId := report rfl

/-- A token that fits nowhere and the run behind it, reported together. -/
theorem stray {i : Nat} (hpeek : s.peek = some kind) (unnamed : kind ≠ .ident)
    (run : ∀ k, s.cursor + 1 ≤ k → k < s.cursor + 1 + i →
      ∃ kind, kindAt s.tokens k = some kind ∧ prolongsJunk kind) :
    Reads n s (((s.advance 1).advance i).report (strayFault s.tokens s.cursor (s.cursor + 1 + i))
      ⟨(tokenAt s.tokens s.cursor).span.start, (tokenAt s.tokens (s.cursor + i)).span.stop⟩) := by
  have moves : Moves s.tokens s.sourceEnd n s.cursor (s.cursor + 1 + i) [] _ :=
    .stray hpeek unnamed (by omega) (fun k hk hlt => run k hk hlt)
  rw [show s.cursor + 1 + i - 1 = s.cursor + i by omega] at moves
  exact ⟨⟨rfl, rfl, rfl, [], [_], by simp [State.report, State.advance],
    by simp [State.report, State.advance], moves⟩, rfl⟩

/-- Anything but an identifier may be stray. -/
theorem junk (h : s.peek ≠ some .ident) : Reads n s s.junk := by
  unfold State.junk
  split
  · exact refl n s
  · rename_i first hfirst
    have hpeek : s.peek = some first.kind := by simp [State.peek, State.peekAt, hfirst]
    have htoken : tokenAt s.tokens s.cursor = first := by
      simp only [State.tokenAt?, Nat.add_zero] at hfirst
      simp [tokenAt, hfirst]
    have unnamed : first.kind ≠ .ident := fun hkind => h (hkind ▸ hpeek)
    obtain ⟨i, heq, run⟩ := movesOverJunk_whileSeen s.bump
    simp only [bump_eq hpeek] at heq run ⊢
    rw [heq]
    have strayed := stray (n := n) hpeek unnamed run
    split
    · rename_i hi
      obtain rfl : i = 0 := by simpa [State.advance] using hi
      simpa [strayFault, htoken] using strayed
    · rename_i hi
      have several : s.cursor + 1 + i ≠ s.cursor + 1 := hi
      rw [strayFault, if_neg several] at strayed
      rwa [← htoken, lastEnd_eq (i := s.cursor + i) (by simp only [State.advance]; omega)]

/-- A region that is too deep is reported and moved over. -/
theorem skipTooDeep (h : s.peek = some .lbrace) : Reads n s s.skipTooDeep := by
  have hspan : s.currentSpan = (tokenAt s.tokens s.cursor).span := by
    have := (kindAt_eq_some_iff.1 (show kindAt s.tokens s.cursor = _ from h)).1
    simp [State.currentSpan, State.tokenAt?, this]
  obtain ⟨i, heq, _⟩ := movesOver_skipBalanced (s := s.report .tooDeep s.currentSpan) h
  have skipped := flatRegion_skipBalanced (s := s.report .tooDeep s.currentSpan) h
  rw [bump_eq (s := s.report .tooDeep s.currentSpan) h] at heq
  rw [heq] at skipped
  have moves : Moves s.tokens s.sourceEnd n s.cursor (s.cursor + 1 + i) [] _ := .skip h skipped
  rw [State.skipTooDeep, heq, hspan]
  exact ⟨⟨rfl, rfl, rfl, [], [_], by simp [State.report, State.advance],
    by simp [State.report, State.advance], moves⟩, rfl⟩

end Reads

/-- The cursor moves over a token that is stray. -/
theorem cursor_lt_junk (h : s.peek = some kind) : s.cursor < s.junk.cursor := by
  obtain ⟨first, hfirst, _⟩ := Option.map_eq_some_iff.1 h
  obtain ⟨i, heq, _⟩ := movesOverJunk_whileSeen s.bump
  have hcursor : s.junk.cursor = (s.bump.advance i).cursor := by
    unfold State.junk
    rw [hfirst]
    simp only [heq]
    split <;> rfl
  rw [hcursor, bump_eq h]
  simp only [State.advance]
  omega

theorem guarded_eq (step : State → State) (s : State) :
    guarded step s = if (step s).cursor = s.cursor then (step s).junk else step s := rfl

/-- A step that may leave the cursor must not leave it at an identifier. -/
theorem Reads.guarded {step : State → State} (h : Takes n s s (step s)) :
    Reads n s (guarded step s) := by
  rw [guarded_eq]
  split
  · rename_i hsame
    refine h.toReads.trans (.junk fun hident => ?_)
    have := h.taken (h.peek_eq hsame ▸ hident)
    omega
  · exact h.toReads

theorem cursor_lt_guarded {step : State → State} (h : Reads n s (step s))
    (hpeek : s.peek = some kind) : s.cursor < (guarded step s).cursor := by
  have hle := h.cursor_le
  rw [guarded_eq]
  split
  · rename_i hsame
    have := cursor_lt_junk (h.peek_eq hsame ▸ hpeek)
    omega
  · omega

/-- The number of tokens left shrinks when the cursor moves. -/
theorem Traces.remaining_lt (h : Traces n s t) (moved : s.cursor < t.cursor)
    (hs : s.cursor < s.tokens.size) : t.remaining < s.remaining := by
  simp only [State.remaining, h.tokens]
  omega

/-! ## Declarations and regions -/

theorem modify_length {α : Type} (l r : List α) (a : α) (f : α → α) :
    (l ++ a :: r).modify l.length f = l ++ f a :: r := by
  rw [List.modify_eq_take_drop, List.take_left, List.drop_left, List.modifyHead_cons]

theorem currentStart_eq (h : s.cursor < s.tokens.size) :
    s.currentStart = (tokenAt s.tokens s.cursor).span.start := by
  simp [State.currentStart, State.tokenAt?, tokenAt, h]

namespace Reads

/-- A declaration: what precedes its name, the name, and what follows until it is closed. -/
theorem declaration (flavor : Flavor) {name : Identifier} {v : State} (head : Reads n s t)
    (hname : t.identifier? = some (name, u))
    (rest : Reads n (u.openDeclaration flavor name s.currentStart).2 v) :
    Reads n s (v.closeDeclaration (u.openDeclaration flavor name s.currentStart).1) := by
  obtain ⟨hpeek, rfl, rfl⟩ := identifier?_eq_some_iff.1 hname
  have hlt : s.cursor < s.tokens.size := by
    have := lt_size_of_peek hpeek
    rw [head.tokens] at this
    exact Nat.lt_of_le_of_lt head.cursor_le this
  have htokens : v.tokens = s.tokens := rest.tokens.trans head.tokens
  have hcursor : v.cursor = v.cursor - 1 + 1 := by
    have := rest.cursor_le
    simp only [State.openDeclaration, State.advance] at this
    omega
  obtain ⟨ms, fs, hnodes, hfindings, hmoves⟩ := head.moves
  obtain ⟨ms', fs', rnodes, rfindings, rmoves⟩ := rest.moves
  simp only [State.openDeclaration, State.advance, Array.toList_push, hnodes, hfindings,
    head.tokens, head.sourceEnd, currentStart_eq hlt] at rnodes rfindings rmoves
  have hnamed : kindAt s.tokens t.cursor = some .ident := by
    rw [← head.tokens]
    exact hpeek
  refine ⟨⟨htokens, rest.sourceEnd.trans head.sourceEnd, rest.depth.trans head.depth, _, _, ?_, ?_,
    .declaration flavor hmoves hnamed rmoves⟩, rest.imports.trans head.imports⟩
  · -- The node stands behind those of the head, where it was opened.
    have hsize : t.nodes.size = (s.nodes.toList ++ ms.map (Mention.node s.tokens)).length := by
      rw [← hnodes, Array.length_toList]
    rw [List.append_assoc _ [_], List.singleton_append] at rnodes
    simp only [State.closeDeclaration, State.openDeclaration, State.advance, Array.toList_modify,
      rnodes, hsize, modify_length, lastEnd_eq hcursor, htokens]
    rw [List.map_append, List.map_cons, List.append_assoc]
    rfl
  · rw [State.closeDeclaration, rfindings, List.append_assoc]

/-- A declaration goes on behind its name. -/
theorem cursor_lt_declaration {flavor : Flavor} {name : Identifier} {start i : Nat} {v : State}
    (hname : t.identifier? = some (name, u))
    (rest : Reads n (u.openDeclaration flavor name start).2 v) :
    t.cursor < (v.closeDeclaration i).cursor := by
  obtain ⟨_, _, rfl⟩ := identifier?_eq_some_iff.1 hname
  exact rest.cursor_le

/-- A region that is read and closed. -/
theorem region (opened : s.peek = some .lbrace) (inside : Reads n s.bump t)
    (closed : t.peek = some .rbrace) : Reads (n + 1) s t.bump := by
  rw [bump_eq opened] at inside
  rw [bump_eq closed]
  obtain ⟨ms, fs, hnodes, hfindings, hmoves⟩ := inside.moves
  have hclosed : kindAt s.tokens t.cursor = some .rbrace := by
    rw [← closed]
    simp [kindAt, State.peek, State.peekAt, State.tokenAt?, inside.tokens, State.advance]
  exact ⟨⟨inside.tokens, inside.sourceEnd, inside.depth, ms, fs, hnodes, hfindings,
    .region opened hmoves hclosed⟩, inside.imports⟩

/-- A region that is read to the end of the source and not closed. -/
theorem openRegion (construct : Construct) (opened : s.peek = some .lbrace)
    (inside : Reads n s.bump t) (ended : t.peek = none) :
    Reads (n + 1) s (t.report (.missing .closingBrace construct) t.previousSpan) := by
  rw [bump_eq opened] at inside
  obtain ⟨ms, fs, hnodes, hfindings, hmoves⟩ := inside.moves
  have hended : kindAt s.tokens t.cursor = none := by
    rw [← ended]
    simp [kindAt, State.peek, State.peekAt, State.tokenAt?, inside.tokens, State.advance]
  have hspan : t.previousSpan = (State.before s.tokens s.sourceEnd t.cursor).previousSpan := by
    change (State.before t.tokens t.sourceEnd t.cursor).previousSpan = _
    rw [inside.tokens, inside.sourceEnd]
    rfl
  refine ⟨⟨inside.tokens, inside.sourceEnd, inside.depth, ms, _, hnodes, ?_,
    .openRegion construct opened hmoves hended⟩, inside.imports⟩
  rw [State.report, Array.toList_push, hfindings, hspan, List.append_assoc]
  rfl

end Reads

/-- A loop that reads on until a brace closes the region, or to the end of the source. -/
theorem Reads.braces {turn : Unit → State → Turn Unit} (construct : Construct)
    (opened : s.peek = some .lbrace) (inside : Reads n s.bump t)
    (ended : ∀ u, u.peek = none →
      turn () u = .stop () (u.report (.missing .closingBrace construct) u.previousSpan))
    (closed : ∀ u, u.peek = some .rbrace → turn () u = .stop () u.bump)
    (step : ∀ u kind, u.peek = some kind → kind ≠ .rbrace →
      ∃ w, turn () u = .again () w ∧ Reads n u w ∧ u.cursor < w.cursor) :
    Reads (n + 1) s (Grammar.repeatWhile turn () t).2 := by
  have again {v : Unit} {u : State} {v' : Unit} {w : State} (h : turn v u = .again v' w) :
      Reads n u w ∧ w.remaining < u.remaining := by
    cases hpeek : u.peek with
    | none => simp [ended u hpeek] at h
    | some kind =>
      by_cases hkind : kind = .rbrace
      · subst hkind
        simp [closed u hpeek] at h
      · obtain ⟨w', hw, reads, moved⟩ := step u kind hpeek hkind
        obtain rfl : w' = w := by simpa [hw] using h
        exact ⟨reads, reads.remaining_lt moved (lt_size_of_peek hpeek)⟩
  refine repeatWhile_exit (Reads n) (motive := fun r => Reads (n + 1) s r.2) (.refl n)
    (fun _ _ _ => .trans) again fun {_ u _ w} reads hstop => ?_
  cases hpeek : u.peek with
  | none =>
    obtain ⟨rfl, rfl⟩ := Turn.stop.inj ((ended u hpeek).symm.trans hstop)
    exact .openRegion construct opened (inside.trans reads) hpeek
  | some kind =>
    by_cases hkind : kind = .rbrace
    · subst hkind
      obtain ⟨rfl, rfl⟩ := Turn.stop.inj ((closed u hpeek).symm.trans hstop)
      exact .region opened (inside.trans reads) hpeek
    · obtain ⟨w', hw, _⟩ := step u kind hpeek hkind
      simp [hw] at hstop

/-! ## One level deeper -/

/-- The regions one level deeper are readings, and an expression takes the identifier it starts
with. -/
structure Inner.Sound (n : Nat) (inner : Inner) : Prop where
  expression : ∀ stops s, Reads n s (inner.expression stops s)
  whole_expression : ∀ s, Takes n s s (inner.expression [] s)
  block : ∀ s, s.peek = some .lbrace → Reads n s (inner.block s)
  body : ∀ isEnum s, s.peek = some .lbrace → Reads n s (inner.body isEnum s)

end JavaLens.Grammar
