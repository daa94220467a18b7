import JavaLens.Proofs.Grammar.Mirrors.Expression
import JavaLens.Proofs.Grammar.Termination

/-!
# Trials

Where local variables or a local type may stand, modifiers and a type are read on trial. If the
trial fails, an expression is read in its place. The expression passes all that the trial has
passed, so if it neither reports anything nor gets stuck, then the trial has not come to the end of
the tokens, and has gone the same way in a longer list.

## Main definitions

* `Stuck` — an expression has ended where none should.
* `Skims` — what a trial needs to know of expressions.
* `Clear` — an expression that starts somewhere before leads from here to an end that it should
  have.

## Main statements

* `Skims.guided` — from clear states, modifiers and types are read side by side.
* `Skims.skimTurn`, `Skims.descend` — expressions are skimmed.
-/

namespace JavaLens.Grammar

variable {x : Overlay} {s t s' t' : State} {inner : Inner} {kind : Token.Kind} {count : Nat}
  {skim flat : Nat → State → State}

/-- There is nothing left to read, or a bracket that has not been opened. -/
def Stuck (s : State) : Prop := s.peek = none ∨ s.peek = some .rbracket

/-- A token list, and the same once more. -/
def Overlay.self (tokens : Array Token) : Overlay := ⟨tokens, tokens, 0, List.prefix_rfl, .inl rfl⟩

/-- What is known of the expressions that start behind a number of open brackets: they are read side
by side; those with no open bracket are a part of all others; tokens are passed one by one. -/
structure Skims (skim : Nat → State → State) : Prop where
  onward : ∀ count s, Onward s (skim count s)
  mirrored : ∀ x count s s', Mirrors x x.kept True Ended s s' (skim count s) (skim count s')
  through : ∀ count s, skim count (skim 0 s) = skim count s
  pass : ∀ {s kind} count, s.peek = some kind → isSkimmed kind →
    (skim count s).peek = some .rbracket ∨ ∃ count' t, Passed s t ∧ skim count s = skim count' t
  opened : ∀ {s} count, s.peek = some .lparen → skim count s = skim (count + 1) s.bump
  closed : ∀ {s} count, s.peek = some .rparen → skim (count + 1) s = skim count s.bump
  bracket : ∀ {s}, s.peek = some .rbracket → skim 0 s = s

/-- An expression in which `s` stands leads from there to its end without a report, and does not get
stuck. -/
def Clear (skim : Nat → State → State) (s : State) : Prop :=
  ∃ count, ¬Reported s (skim count s) ∧ ¬Stuck (skim count s)

namespace Skims

variable (h : Skims skim)

include h

theorem not_ended (clear : Clear skim s) : ¬Ended s := by
  obtain ⟨count, -, free⟩ := clear
  intro ended
  exact free (.inl ((h.mirrored (.self s.tokens) count s s).grows.ended ended))

/-- What has been recorded plays no part. -/
theorem clear_of_recorded (tokens : t.tokens = s.tokens) (cursor : t.cursor = s.cursor)
    (depth : t.depth = s.depth) (clear : Clear skim s) : Clear skim t := by
  have bounded : s.cursor ≤ s.tokens.size := by
    have := mt peek_eq_none_iff.2 (h.not_ended clear)
    omega
  obtain ⟨count, silent, free⟩ := clear
  have tandem : Tandem (.self s.tokens) s t := ⟨rfl, tokens, cursor, depth, bounded⟩
  obtain ⟨parallel, -, -⟩ | ⟨uneven, -⟩ := (h.mirrored _ count s t).outcome tandem
  · refine ⟨count, mt parallel.reported_iff.1 silent, ?_⟩
    rwa [Stuck, State.peek, peekAt_eq, parallel.tandem.ahead_eq rfl, ← peekAt_eq]
  · exact absurd rfl uneven

theorem clear_of_passed (hpeek : s.peek = some kind) (skimmed : isSkimmed kind)
    (clear : Clear skim s) : Clear skim (s.advance 1) := by
  obtain ⟨count, silent, free⟩ := clear
  obtain stuck | ⟨count', t, passed, same⟩ := h.pass count hpeek skimmed
  · exact absurd (.inr stuck) free
  · refine h.clear_of_recorded passed.tokens.symm passed.cursor.symm passed.depth.symm
      ⟨count', ?_, ?_⟩
    · rwa [Reported, passed.findings, ← same]
    · rwa [← same]

theorem guide (x : Overlay) : Guide x (Clear skim) where
  seen clear ended := absurd ended (h.not_ended clear)
  alike := h.clear_of_recorded
  pass := h.clear_of_passed

/-- Behind an opening parenthesis, a clear expression leads to a place that is clear. -/
theorem clear_of_opened (hpeek : s.peek = some .lparen) (clear : Clear skim s) :
    ¬Reported s (skim 0 s.bump) ∧ Clear skim (skim 0 s.bump) ∧
      ((skim 0 s.bump).peek = some .rparen → Clear skim (skim 0 s.bump).bump) := by
  obtain ⟨count, silent, free⟩ := clear
  have same : skim count s = skim (count + 1) (skim 0 s.bump) := by
    rw [h.through, h.opened count hpeek]
  have inside := (Grows.bump s).trans (h.mirrored (.self s.tokens) 0 s.bump s.bump).grows
  have outside := (h.mirrored (.self s.tokens) (count + 1) (skim 0 s.bump) s).grows
  rw [same] at silent free
  have quiet := mt inside.reported silent
  refine ⟨fun reported => silent (reported.grows outside), ⟨count + 1, quiet, free⟩,
    fun hclosed => ⟨count, ?_, ?_⟩⟩
  · rw [h.closed count hclosed] at quiet
    exact mt (Grows.bump _).reported quiet
  · rwa [h.closed count hclosed] at free

/-- From clear states, parentheses are read side by side. -/
theorem parenthesized (h0 : inner.expression [] = skim 0) (construct : Construct)
    (hpeek : s.peek = some .lparen) (clear : Clear skim s) (tandem : Tandem x s s') :
    Parallel x s s' (parenthesized inner construct s) (parenthesized inner construct s') ∧
      Clear skim (Grammar.parenthesized inner construct s) := by
  obtain ⟨silent, behind, closes⟩ := h.clear_of_opened hpeek clear
  have inside : Mirrors x x.kept True Ended s s' (skim 0 s.bump) (skim 0 s'.bump) :=
    .behindBump hpeek (h.mirrored x 0 s.bump s'.bump)
  have moved := Nat.lt_of_lt_of_le (cursor_lt_bump hpeek) (h.onward 0 s.bump).le
  unfold Grammar.parenthesized
  rw [h0]
  generalize skim 0 s.bump = t at *
  generalize skim 0 s'.bump = t' at *
  obtain ⟨parallel, -, -⟩ | ⟨-, reported | ended⟩ := inside.outcome tandem
  rotate_left
  · exact absurd reported silent
  · exact absurd ended (h.not_ended behind)
  have looks := parallel.tandem.looks fun ended => absurd ended (h.not_ended behind)
  have closing : Mirrors x (Clear skim) True Ended t t' (t.expectCloseParen construct)
      (t'.expectCloseParen construct) := by
    unfold State.expectCloseParen State.expect
    rw [looks.sees]
    split
    · rename_i seen
      exact .step (sees_iff.1 seen) fun _ => bump_eq (sees_iff.1 seen) ▸ closes (sees_iff.1 seen)
    · exact .reportBefore (h.guide x) (Nat.zero_lt_of_lt moved) fun _ => rfl
  obtain ⟨parallel', -, keeps⟩ | ⟨hazard, -⟩ := closing.outcome parallel.tandem
  · exact ⟨parallel.trans parallel', keeps behind⟩
  · exact absurd behind hazard

/-- From clear states, trials go side by side. -/
theorem guided (h0 : inner.expression [] = skim 0) (hi : inner.Mirrored x) :
    inner.Guided x (Clear skim) where
  toGuide := h.guide x
  paren := by
    intro s construct s' hpeek
    have kept : Mirrors x x.kept True Never s s' _ _ := hi.parenthesized construct hpeek
    refine ⟨kept.grows, fun tandem => ?_⟩
    by_cases clear : Clear skim s
    · obtain ⟨parallel, behind⟩ := h.parenthesized h0 construct hpeek clear tandem
      exact .inl ⟨parallel, trivial, fun _ => behind⟩
    · obtain ⟨parallel, -, -⟩ | ⟨uneven, reported | lost⟩ := kept.outcome tandem
      · exact .inl ⟨parallel, trivial, fun clear' => absurd clear' clear⟩
      · exact .inr ⟨clear, .inl reported⟩
      · exact lost.elim

end Skims

/-! ## Expressions are skimmed -/

section Loops

variable {block creation choice : State → State}

/-- A token in the middle of an expression is passed, unless it is a bracket that ends the
expression. -/
theorem skimTurn_of_skimmed (count : Nat) (hpeek : s.peek = some kind) (skimmed : isSkimmed kind) :
    (kind = .rbracket ∧ skimTurn block creation choice [] count s = .stop count s) ∨
      ∃ count' t, Passed s t ∧ skimTurn block creation choice [] count s = .again count' t := by
  unfold skimTurn
  rw [hpeek]
  dsimp only
  rw [if_neg (by simp)]
  split
  case h_4 =>
    split
    · exact .inl ⟨rfl, rfl⟩
    · exact .inr ⟨_, _, .bump hpeek, rfl⟩
  case h_6 | h_11 => exact .inr ⟨_, _, .bump hpeek, rfl⟩
  case h_8 => exact .inr ⟨_, _, .reference hpeek, rfl⟩
  all_goals simp [isSkimmed] at skimmed

/-- An expression ends before a bracket that it has not opened, or where every expression ends. -/
theorem skimTurn_stop {v : Nat} (h : skimTurn block creation choice [] count s = .stop v t) :
    t = s ∧ (count = 0 ∨ ∀ other, skimTurn block creation choice [] other s = .stop other s) := by
  unfold skimTurn at h ⊢
  cases hpeek : s.peek with
  | none =>
    simp only [hpeek] at h
    cases h
    exact ⟨rfl, .inr (by simp)⟩
  | some kind =>
    simp only [hpeek, List.not_mem_nil, and_false, if_false] at h ⊢
    split at h
    case h_1 | h_2 =>
      cases h
      exact ⟨rfl, .inr fun _ => rfl⟩
    case h_3 | h_4 =>
      split at h
      · cases h
        exact ⟨rfl, .inl ‹_›⟩
      · cases h
    all_goals cases h

/-- What is passed does not depend on how many brackets are open further out. -/
theorem skimTurn_again {v : Nat} (h : skimTurn block creation choice [] count s = .again v t)
    (more : Nat) : skimTurn block creation choice [] (count + more) s = .again (v + more) t := by
  unfold skimTurn at h ⊢
  cases hpeek : s.peek with
  | none => simp [hpeek] at h
  | some kind =>
    simp only [hpeek, List.not_mem_nil, and_false, if_false] at h ⊢
    split at h
    case h_1 | h_2 => cases h
    case h_3 | h_4 =>
      split at h
      · cases h
      · cases h
        rw [if_neg (by omega), Nat.sub_add_comm (by omega)]
    case h_5 | h_6 =>
      cases h
      rw [Nat.add_right_comm]
    all_goals
      cases h
      rfl

/-- What is left of an expression that starts further out begins with an expression. -/
theorem repeatWhile_skimTurn (advances : Advances (skimTurn block creation choice []))
    (count more : Nat) (s : State) :
    (repeatWhile (skimTurn block creation choice []) more
      (repeatWhile (skimTurn block creation choice []) count s).2).2 =
        (repeatWhile (skimTurn block creation choice []) (count + more) s).2 := by
  fun_induction repeatWhile (skimTurn block creation choice []) count s with
  | case1 count s v t hturn =>
    obtain ⟨rfl, rfl | ends⟩ := skimTurn_stop hturn
    · rw [Nat.zero_add]
    · rw [advances.repeatWhile_eq more, advances.repeatWhile_eq (count + more), ends, ends]
  | case2 count s _ v t hturn _ ih =>
    rw [ih, advances.repeatWhile_eq (count + more), skimTurn_again hturn more]
  | case3 count s left v t hturn stuck => exact absurd (advances.remaining_lt hturn) stuck

/-- Expressions whose tokens are passed one by one are skimmed. -/
theorem Skims.of_turns (advances : Advances (skimTurn block creation choice []))
    (mirrored : ∀ x count s s', Mirrors x x.kept True Ended s s'
      (repeatWhile (skimTurn block creation choice []) count s).2
      (repeatWhile (skimTurn block creation choice []) count s').2) :
    Skims fun count s => (repeatWhile (skimTurn block creation choice []) count s).2 where
  onward := advances.onward
  mirrored := mirrored
  through count s := by rw [repeatWhile_skimTurn advances, Nat.zero_add]
  pass := by
    intro s kind count hpeek skimmed
    rw [advances.repeatWhile_eq]
    obtain ⟨rfl, hturn⟩ | ⟨count', t, passed, hturn⟩ := skimTurn_of_skimmed count hpeek skimmed
    · rw [hturn]
      exact .inl hpeek
    · rw [hturn]
      exact .inr ⟨count', t, passed, rfl⟩
  opened count hpeek := by
    rw [advances.repeatWhile_eq]
    simp [skimTurn, hpeek]
  closed count hpeek := by
    rw [advances.repeatWhile_eq]
    simp [skimTurn, hpeek]
  bracket hpeek := by
    rw [advances.repeatWhile_eq]
    simp [skimTurn, hpeek]

end Loops

theorem leave_deeper (h : t.depth = s.depth + 1) :
    { t.leave with depth := t.leave.depth + 1 } = t := by
  have : t.depth - 1 + 1 = t.depth := by omega
  simp only [State.leave, this]

/-- Expressions are skimmed if they are at every level, the last one included. -/
theorem Skims.descend (h : Skims skim) (k : Skims flat) :
    Skims fun count => descend (skim count) (flat count) := by
  have deep {s : State} (allowed : s.depth < maxNesting) (count : Nat) :
      Grammar.descend (skim count) (flat count) s =
        (skim count { s with depth := s.depth + 1 }).leave := by
    rw [descend_eq, if_pos allowed]
  have limit {s : State} (forbidden : ¬s.depth < maxNesting) (count : Nat) :
      Grammar.descend (skim count) (flat count) s = flat count s := by
    rw [descend_eq, if_neg forbidden]
  -- A state further out comes back to the same state when it is entered again.
  have outer {s t : State} (allowed : s.depth < maxNesting) (ht : t.depth = s.depth + 1)
      (count : Nat) : Grammar.descend (skim count) (flat count) t.leave = (skim count t).leave := by
    have : t.leave.depth = s.depth := by simp [State.leave, ht]
    rw [deep (this ▸ allowed), leave_deeper ht]
  have bumped {s : State} {kind : Token.Kind} {count count' : Nat} (hpeek : s.peek = some kind)
      (inside : skim count { s with depth := s.depth + 1 } =
        skim count' (State.bump { s with depth := s.depth + 1 }))
      (outside : flat count s = flat count' s.bump) :
      Grammar.descend (skim count) (flat count) s =
        Grammar.descend (skim count') (flat count') s.bump := by
    have depth : s.bump.depth = s.depth := (Onward.bump s).depth
    by_cases allowed : s.depth < maxNesting
    · rw [deep allowed, deep (depth ▸ allowed), inside, bump_eq hpeek,
        bump_eq (s := { s with depth := s.depth + 1 }) hpeek]
      rfl
    · rw [limit allowed, limit (depth ▸ allowed), outside]
  refine ⟨fun count s => ?_, fun x count s s' => ?_, fun count s => ?_, ?_, ?_, ?_, ?_⟩
  · exact .descend (h.onward count) (k.onward count s)
  · exact .descend (fun _ => id) (h.mirrored x count _ _) (k.mirrored x count s s')
  · by_cases allowed : s.depth < maxNesting
    · rw [deep allowed, deep allowed, outer allowed (h.onward 0 _).depth, h.through]
    · rw [limit allowed, limit ((k.onward 0 s).depth ▸ allowed), limit allowed, k.through]
  · intro s kind count hpeek skimmed
    by_cases allowed : s.depth < maxNesting
    · obtain stuck | ⟨count', t, passed, same⟩ :=
        h.pass (s := { s with depth := s.depth + 1 }) count hpeek skimmed
      · exact .inl (deep allowed count ▸ stuck)
      · refine .inr ⟨count', t.leave, ⟨passed.tokens, passed.cursor, ?_, passed.findings⟩, ?_⟩
        · simp [State.leave, passed.depth]
        · rw [deep allowed, same, outer allowed passed.depth]
    · obtain stuck | ⟨count', t, passed, same⟩ := k.pass count hpeek skimmed
      · exact .inl (limit allowed count ▸ stuck)
      · refine .inr ⟨count', t, passed, ?_⟩
        rw [limit allowed, same, limit (passed.depth ▸ allowed)]
  · exact fun count hpeek => bumped hpeek (h.opened count hpeek) (k.opened count hpeek)
  · exact fun count hpeek => bumped hpeek (h.closed count hpeek) (k.closed count hpeek)
  · intro s hpeek
    by_cases allowed : s.depth < maxNesting
    · rw [deep allowed, h.bracket (s := { s with depth := s.depth + 1 }) hpeek]
      rfl
    · rw [limit allowed, k.bracket hpeek]

end JavaLens.Grammar
