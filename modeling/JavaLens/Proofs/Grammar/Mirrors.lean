import JavaLens.Proofs.Grammar.Tandem

/-!
# Two readings side by side

Two readings that start at the same word of two token lists take the same turns and record the same
things. Where one of the lists ends and the other goes on they can part, but not without a trace:
the reading that comes to its end has reported something by then, or it is lost in a way that its
caller reports, most often by having nothing left to read.

## Main definitions

* `Mirrors` — two readings that go side by side, or part in one of the ways allowed.
* `TurnMirrors` — the same for the turns of a loop.
* `Guide` — what is asked of states from which two readings may not part.
* `Inner.Mirrored` — the regions one level deeper are read side by side.

## Main statements

* `Mirrors.look` — a decision that depends on the tokens ahead is taken on both sides.
* `Mirrors.chain`, `Mirrors.repeatWhile` — readings one behind the other, and loops.
* `Mirrors.declaration` — declarations, which are closed behind what they cover.
-/

namespace JavaLens.Grammar

/-- Two readings, from `s` to `t` and from `s'` to `t'`, that start at the same word: they go side
by side, and then `same` holds and a state that is `safe` leads to one. Or else the first state was
not safe, and the first reading has reported something or is `lost`. -/
structure Mirrors (x : Overlay) (safe : State → Prop) (same : Prop) (lost : State → Prop)
    (s s' t t' : State) : Prop where
  grows : Grows s t
  outcome : Tandem x s s' →
    (Parallel x s s' t t' ∧ same ∧ (safe s → safe t)) ∨ (¬safe s ∧ (Reported s t ∨ lost t))

/-- What makes states safe: at the end of the first token list the second one ends as well, what has
been recorded plays no part, and a state stays safe when one of the tokens in the middle of an
expression is passed. -/
structure Guide (x : Overlay) (safe : State → Prop) : Prop where
  seen : ∀ {s}, safe s → Ended s → x.Even
  alike : ∀ {s t}, t.tokens = s.tokens → t.cursor = s.cursor → t.depth = s.depth → safe s → safe t
  pass : ∀ {s kind}, s.peek = some kind → isSkimmed kind → safe s → safe (s.advance 1)

/-- Readings that are kept may part if and only if one token list goes on where the other ends. -/
def Overlay.kept (x : Overlay) (_ : State) : Prop := x.Even

/-- A reading that cannot be lost: where it parts from the other one it has reported something. -/
def Never (_ : State) : Prop := False

variable {x : Overlay} {safe : State → Prop} {same same' : Prop} {lost lost' : State → Prop}
  {s t u v s' t' u' v' : State} {kind : Token.Kind}

/-- The state `t` is behind the token at the cursor of `s`, but for the nodes recorded. -/
structure Passed (s t : State) : Prop where
  tokens : t.tokens = s.tokens
  cursor : t.cursor = s.cursor + 1
  depth : t.depth = s.depth
  findings : t.findings = s.findings

theorem Passed.bump (h : s.peek = some kind) : Passed s s.bump := by
  rw [bump_eq h]
  exact ⟨rfl, rfl, rfl, rfl⟩

theorem Passed.reference (h : s.peek = some .ident) : Passed s s.reference := by
  rw [State.reference, identifier?_eq_some_iff.2 ⟨h, rfl, rfl⟩]
  exact ⟨rfl, rfl, rfl, rfl⟩

theorem reported_report (fault : Fault) (span : Span) : Reported s (s.report fault span) := by
  simp [Reported, State.report]

/-- At the end no token is seen, so what is reported then is reported. -/
theorem reported_ifSees (ended : Ended s) (h : Reported s u) :
    Reported s (if s.sees kind then t else u) := by
  have : s.sees kind = false := by rw [State.sees, show s.peek = none from ended]; rfl
  rwa [this, if_neg Bool.false_ne_true]

theorem Overlay.guide_kept (x : Overlay) : Guide x x.kept :=
  ⟨fun h _ => h, fun _ _ _ h => h, fun _ _ h => h⟩

namespace Mirrors

theorem refl (s s' : State) : Mirrors x safe True lost s s' s s' :=
  ⟨.refl s, fun tandem => .inl ⟨.refl tandem, trivial, id⟩⟩

theorem mono (h : Mirrors x safe same lost s s' t t') (hsame : same → same')
    (hlost : lost t → lost' t) : Mirrors x safe same' lost' s s' t t' :=
  ⟨h.grows, fun tandem => (h.outcome tandem).imp
    (fun ⟨parallel, agree, keeps⟩ => ⟨parallel, hsame agree, keeps⟩)
    (fun ⟨hazard, parted⟩ => ⟨hazard, parted.imp_right hlost⟩)⟩

/-- A reading that has reported something is not lost. -/
theorem of_reported (h : Mirrors x safe same lost s s' t t') (reported : Reported s t) :
    Mirrors x safe same lost' s s' t t' :=
  ⟨h.grows, fun tandem => (h.outcome tandem).imp_right fun ⟨hazard, _⟩ => ⟨hazard, .inl reported⟩⟩

/-- Only the second reading as it is for states at the same word matters. -/
theorem congr (h : Mirrors x safe same lost s s' t u') (eq : Tandem x s s' → u' = t') :
    Mirrors x safe same lost s s' t t' :=
  ⟨h.grows, fun tandem => eq tandem ▸ h.outcome tandem⟩

/-- Only the second reading as it is side by side with the first one matters. -/
theorem resolve (h : Mirrors x safe same lost s s' t u') (eq : same → u' = t') :
    Mirrors x safe same lost s s' t t' :=
  ⟨h.grows, fun tandem => (h.outcome tandem).imp_left
    fun ⟨parallel, agree, keeps⟩ => ⟨eq agree ▸ parallel, agree, keeps⟩⟩

/-- Side by side, one reading stands still if and only if the other one does. -/
theorem standstill (h : Mirrors x safe same lost s s' t t') :
    Mirrors x safe (t'.cursor = s'.cursor ↔ t.cursor = s.cursor) lost s s' t t' :=
  ⟨h.grows, fun tandem => (h.outcome tandem).imp_left fun ⟨parallel, _, keeps⟩ => by
    have := tandem.cursor
    have := parallel.tandem.cursor
    exact ⟨parallel, by omega, keeps⟩⟩

/-- Readings one behind the other. -/
theorem chain (h : Mirrors x safe same lost s s' t t') (k : Mirrors x safe same' lost' t t' u u')
    (carry : lost t → Reported t u ∨ lost' u) : Mirrors x safe (same ∧ same') lost' s s' u u' := by
  refine ⟨h.grows.trans k.grows, fun tandem => ?_⟩
  obtain ⟨parallel, agree, keeps⟩ | ⟨hazard, reported | parted⟩ := h.outcome tandem
  · obtain ⟨parallel', agree', keeps'⟩ | ⟨hazard, parted⟩ := k.outcome parallel.tandem
    · exact .inl ⟨parallel.trans parallel', ⟨agree, agree'⟩, keeps' ∘ keeps⟩
    · exact .inr ⟨hazard ∘ keeps, parted.imp_left h.grows.reported⟩
  · exact .inr ⟨hazard, .inl (reported.grows k.grows)⟩
  · exact .inr ⟨hazard, (carry parted).imp_left h.grows.reported⟩

/-- Readings one behind the other, which part only where nothing is left to read. -/
theorem trans (h : Mirrors x safe same Ended s s' t t') (k : Mirrors x safe same' Ended t t' u u') :
    Mirrors x safe same' Ended s s' u u' :=
  (h.chain k fun ended => .inr (k.grows.ended ended)).mono And.right id

/-- What follows a reading that is not lost. -/
theorem andThen (h : Mirrors x safe same Never s s' t t')
    (k : Mirrors x safe same' lost t t' u u') :
    Mirrors x safe same' lost s s' u u' := (h.chain k False.elim).mono And.right id

/-- Where a reading goes on is known of itself. -/
theorem of_grows (grows : Grows s t) (h : Tandem x s s' → Mirrors x safe same lost s s' t t') :
    Mirrors x safe same lost s s' t t' := ⟨grows, fun tandem => (h tandem).outcome tandem⟩

/-- The second reading is decided by what the second state sees. -/
theorem lookAt (guide : Guide x safe) (h : Mirrors x safe same lost s s' t u')
    (ended : Ended s → Reported s t ∨ lost t) (eq : Tandem x s s' → Looks s s' → u' = t') :
    Mirrors x safe same lost s s' t t' := by
  refine ⟨h.grows, fun tandem => ?_⟩
  by_cases seen : Ended s → x.Even
  · exact eq tandem (tandem.looks seen) ▸ h.outcome tandem
  · obtain ⟨hended, uneven⟩ := Classical.not_imp.1 seen
    exact .inr ⟨fun hs => uneven (guide.seen hs hended), ended hended⟩

/-- What is decided by the tokens ahead is decided alike on both sides. So it is enough to compare
the first reading with those from states that see the same. -/
theorem lookFor (guide : Guide x safe) {f : State → State} (same : State → Prop)
    (ended : Ended s → Reported s (f s) ∨ lost (f s))
    (h : ∀ s', Looks s s' → Mirrors x safe (same s') lost s s' (f s) (f s')) :
    Mirrors x safe (same s') lost s s' (f s) (f s') := by
  refine ⟨(h s (.refl s)).grows, fun tandem => ?_⟩
  by_cases seen : Ended s → x.Even
  · exact (h s' (tandem.looks seen)).outcome tandem
  · obtain ⟨hended, uneven⟩ := Classical.not_imp.1 seen
    exact .inr ⟨fun hs => uneven (guide.seen hs hended), ended hended⟩

theorem lookSame (guide : Guide x safe) {f : State → State} (same : State → Prop)
    (h : ∀ s', Looks s s' → Mirrors x safe (same s') Ended s s' (f s) (f s')) :
    Mirrors x safe (same s') Ended s s' (f s) (f s') :=
  lookFor guide same (fun ended => .inr ((h s (.refl s)).grows.ended ended)) h

theorem look (guide : Guide x safe) {f : State → State}
    (h : ∀ s', Looks s s' → Mirrors x safe True Ended s s' (f s) (f s')) :
    Mirrors x safe True Ended s s' (f s) (f s') := lookSame guide (fun _ => True) h

/-! ## Moving and recording -/

/-- Tokens that are there are passed on both sides. -/
theorem advance {n : Nat} (h : s.peekAt n = some kind) (keeps : safe s → safe (s.advance (n + 1))) :
    Mirrors x safe True lost s s' (s.advance (n + 1)) (s'.advance (n + 1)) :=
  ⟨⟨rfl, Nat.le_add_right .., Nat.le_refl _⟩, fun tandem =>
    .inl ⟨⟨tandem.advance h, .empty, .advance s _, .advance s' _⟩, trivial, keeps⟩⟩

/-- The token at the cursor is passed on both sides. -/
theorem step (h : s.peek = some kind) (keeps : safe s → safe (s.advance 1)) :
    Mirrors x safe True lost s s' s.bump s'.bump := by
  rw [bump_eq h]
  exact (advance h keeps).congr fun tandem => (bump_eq (tandem.peek h)).symm

theorem bump (h : s.peek = some kind) : Mirrors x x.kept True lost s s' s.bump s'.bump :=
  step h id

theorem behindBump (h : s.peek = some kind) (k : Mirrors x x.kept same lost s.bump s'.bump t t') :
    Mirrors x x.kept same lost s s' t t' := (bump h).andThen k

theorem eat (s s' : State) (kind : Token.Kind) :
    Mirrors x x.kept True Ended s s' (s.eat kind) (s'.eat kind) := by
  apply look x.guide_kept
  intro s' looks
  unfold State.eat
  rw [looks.sees]
  split
  · rename_i h
    exact bump (sees_iff.1 h)
  · exact refl s s'

/-- One of two readings, as the token at the cursor decides. -/
theorem ifSeesOr (guide : Guide x safe)
    (yes : s.peek = some kind → Mirrors x safe same lost s s' t t')
    (no : Mirrors x safe same lost s s' u u') (ended : Ended s → Reported s u ∨ lost u) :
    Mirrors x safe same lost s s' (if s.sees kind then t else u)
      (if s'.sees kind then t' else u') := by
  by_cases h : s.sees kind
  · rw [if_pos h]
    refine (yes (sees_iff.1 h)).congr fun tandem => ?_
    rw [if_pos (sees_iff.2 (tandem.peek (sees_iff.1 h)))]
  · rw [if_neg h]
    exact lookAt guide no ended fun _ looks => by rw [looks.sees, if_neg h]

theorem ifSees (guide : Guide x safe)
    (yes : s.peek = some kind → Mirrors x safe same Ended s s' t t')
    (no : Mirrors x safe same Ended s s' u u') :
    Mirrors x safe same Ended s s' (if s.sees kind then t else u)
      (if s'.sees kind then t' else u') :=
  ifSeesOr guide yes no fun ended => .inr (no.grows.ended ended)

/-- One of two readings, as what has been read before decides. -/
theorem ifFoundOr {found found' : Bool} (h : Mirrors x safe (found' = found) Ended s s' t t')
    (yes : found → Mirrors x safe same lost t t' u u')
    (no : found = false → Mirrors x safe same lost t t' v v')
    (ended : Ended t → Reported t (if found then u else v) ∨ lost (if found then u else v)) :
    Mirrors x safe same lost s s' (if found then u else v) (if found' then u' else v') := by
  cases found with
  | true =>
    exact ((h.chain (yes rfl) ended).resolve fun both => by rw [both.1]; rfl).mono And.right id
  | false =>
    exact ((h.chain (no rfl) ended).resolve fun both => by rw [both.1]; rfl).mono And.right id

theorem ifFound {found found' : Bool} (h : Mirrors x safe (found' = found) Ended s s' t t')
    (yes : found → Mirrors x safe same Ended t t' u u')
    (no : found = false → Mirrors x safe same Ended t t' v v') :
    Mirrors x safe same Ended s s' (if found then u else v) (if found' then u' else v') := by
  refine ifFoundOr h yes no fun ended => .inr ?_
  cases found with
  | true => exact (yes rfl).grows.ended ended
  | false => exact (no rfl).grows.ended ended

/-- An identifier is recorded on both sides. -/
theorem reference (guide : Guide x safe) (h : s.peek = some .ident) :
    Mirrors x safe True lost s s' s.reference s'.reference := by
  have passed := Passed.reference h
  refine ⟨⟨passed.tokens, ?_, Nat.le_of_eq (by rw [passed.findings])⟩, fun tandem => ?_⟩
  · rw [passed.cursor]
    exact Nat.le_succ _
  have h' := tandem.peek h
  have passed' := Passed.reference h'
  have keeps (hs : safe s) : safe s.reference :=
    guide.alike (s := s.advance 1) passed.tokens passed.cursor passed.depth (guide.pass h rfl hs)
  refine .inl ⟨⟨(tandem.advance h).of_recorded passed.tokens passed.cursor passed.depth
    passed'.tokens passed'.cursor passed'.depth, _, .reference h, ?_⟩, trivial, keeps⟩
  have := Logs.reference h'
  rwa [tandem.cursor] at this

/-- The same fault is reported on both sides, over the same run of tokens. -/
theorem report (guide : Guide x safe) {fault fault' : Fault} {span span' : Span} {i j : Nat}
    (placed : Tandem x s s' → fault' = fault ∧ i ≤ j ∧ j < x.here.size ∧
      span = ⟨(tokenAt x.here i).span.start, (tokenAt x.here j).span.stop⟩ ∧
      span' = ⟨(tokenAt x.there (i + x.shift)).span.start,
        (tokenAt x.there (j + x.shift)).span.stop⟩) :
    Mirrors x safe True lost s s' (s.report fault span) (s'.report fault' span') := by
  refine ⟨⟨rfl, Nat.le_refl _, by simp [State.report]⟩, fun tandem => ?_⟩
  obtain ⟨rfl, ordered, bounded, rfl, rfl⟩ := placed tandem
  refine .inl ⟨⟨tandem.of_recorded rfl rfl rfl rfl rfl rfl, ⟨[], [⟨fault', i, j⟩], []⟩, ?_, ?_⟩,
    trivial, guide.alike rfl rfl rfl⟩
  · have := Logs.report (s := s) fault' ordered (tandem.here ▸ bounded)
    rwa [tandem.here] at this
  · have := Logs.report (s := s') fault' (Nat.add_le_add_right ordered x.shift)
      (tandem.there ▸ Overlay.lt_size bounded)
    rwa [tandem.there] at this

end Mirrors

/-- The last token before the cursor. -/
theorem previous?_eq {i : Nat} (h : s.cursor = i + 1) (hi : i < s.tokens.size) :
    s.previous? = some (tokenAt s.tokens i) := by
  rw [State.previous?, h]
  exact tokenAt_of_lt hi

/-- Behind the first word, both states have the same word before them. -/
theorem Tandem.previous? (h : Tandem x s s') (moved : 0 < s.cursor) :
    s.cursor - 1 < x.here.size ∧ s.previous? = some (tokenAt x.here (s.cursor - 1)) ∧
      s'.previous? = some (tokenAt x.there (s.cursor - 1 + x.shift)) := by
  have hlt : s.cursor - 1 < x.here.size := by
    have := h.bounded
    omega
  have hcursor := h.cursor
  refine ⟨hlt, ?_, ?_⟩
  · rw [← h.here] at hlt ⊢
    exact previous?_eq (by omega) hlt
  · have hlt' := Overlay.lt_size hlt
    rw [← h.there] at hlt' ⊢
    exact previous?_eq (by omega) hlt'

theorem Tandem.previousText (h : Tandem x s s') (moved : 0 < s.cursor) :
    s'.previousText = s.previousText := by
  obtain ⟨hlt, before, before'⟩ := h.previous? moved
  have : (tokenAt x.there (s.cursor - 1 + x.shift)).text = (tokenAt x.here (s.cursor - 1)).text :=
    congrArg Word.text (Overlay.word_tokenAt hlt)
  simp [State.previousText, before, before', this]

/-- Where two declarations start that go on at `s`: at the same word, which is not behind `s`. -/
def Overlay.Starts (x : Overlay) (s : State) (start start' : Nat) : Prop :=
  ∃ i ≤ s.cursor, start = (tokenAt x.here i).span.start ∧
    start' = (tokenAt x.there (i + x.shift)).span.start

theorem Overlay.Starts.later {start start' : Nat} (h : x.Starts s start start')
    (le : s.cursor ≤ t.cursor) : x.Starts t start start' := by
  obtain ⟨i, hi, starts⟩ := h
  exact ⟨i, Nat.le_trans hi le, starts⟩

/-- A declaration may start where the states are. -/
theorem Tandem.starts (h : Tandem x s s') (hpeek : s.peek = some kind) :
    x.Starts s s.currentStart s'.currentStart := by
  refine ⟨s.cursor, Nat.le_refl _, ?_, ?_⟩
  · rw [currentStart_eq (lt_size_of_peek hpeek), h.here]
  · rw [currentStart_eq (lt_size_of_peek (h.peek hpeek)), h.there, h.cursor]

namespace Mirrors

/-- The same fault is reported on both sides, at the token before the cursor. -/
theorem reportBefore (guide : Guide x safe) {fault fault' : Fault} (moved : 0 < s.cursor)
    (same : Tandem x s s' → fault' = fault) :
    Mirrors x safe True lost s s' (s.report fault s.previousSpan)
      (s'.report fault' s'.previousSpan) := by
  refine report guide (i := s.cursor - 1) (j := s.cursor - 1) fun tandem => ?_
  obtain ⟨hlt, before, before'⟩ := tandem.previous? moved
  exact ⟨same tandem, Nat.le_refl _, hlt, by simp [State.previousSpan, before],
    by simp [State.previousSpan, before']⟩

theorem missingDeclaratorId (moved : 0 < s.cursor) :
    Mirrors x x.kept True lost s s' s.missingDeclaratorId s'.missingDeclaratorId :=
  reportBefore x.guide_kept moved fun tandem => by rw [tandem.previousText moved]

/-- A token that completes a construct is passed on both sides, or reported missing. -/
theorem expect (kind : Token.Kind) (symbol : Missing) (construct : Construct)
    (moved : 0 < s.cursor) :
    Mirrors x x.kept True Never s s' (s.expect kind symbol construct)
      (s'.expect kind symbol construct) := by
  refine lookFor (f := fun s => s.expect kind symbol construct) x.guide_kept (fun _ => True)
    (fun ended => .inl ?_) fun s' looks => ?_
  · exact reported_ifSees ended (reported_report ..)
  · unfold State.expect
    rw [looks.sees]
    split
    · rename_i h
      exact bump (sees_iff.1 h)
    · exact reportBefore x.guide_kept moved fun _ => rfl

/-- A construct that is read up to the token that completes it is not lost. -/
theorem thenExpect (h : Mirrors x x.kept same Ended s s' t t') (kind : Token.Kind)
    (symbol : Missing) (construct : Construct) (moved : 0 < s.cursor) :
    Mirrors x x.kept True Never s s' (t.expect kind symbol construct)
      (t'.expect kind symbol construct) := by
  have moved := Nat.lt_of_lt_of_le moved h.grows.le
  refine (h.chain (expect kind symbol construct moved) fun ended => .inl ?_).mono And.right id
  exact reported_ifSees ended (reported_report ..)

end Mirrors

/-! ## Loops -/

/-- Whether two turns end alike and with the same value. -/
def Turn.Alike {α : Type} : Turn α → Turn α → Prop
  | .stop v _, b => b = .stop v b.state
  | .again v _, b => b = .again v b.state

/-- How a turn may be lost, as it is the last one or not. -/
def Turn.pick {α : Type} (lost again : State → Prop) : Turn α → State → Prop
  | .stop _ _ => lost
  | .again _ _ => again

/-- Two turns that go side by side and end alike. -/
def TurnMirrors {α : Type} (x : Overlay) (safe lost again : State → Prop) (s s' : State)
    (a b : Turn α) : Prop :=
  Mirrors x safe (a.Alike b) (a.pick lost again) s s' a.state b.state

section Loops

variable {α : Type} {turn : α → State → Turn α} {again : State → Prop} {v : α} {a b : Turn α}

namespace TurnMirrors

theorem stop (h : Mirrors x safe same lost s s' t t') (v : α) :
    TurnMirrors x safe lost again s s' (.stop v t) (.stop v t') := h.mono (fun _ => rfl) id

theorem goOn (h : Mirrors x safe same again s s' t t') (v : α) :
    TurnMirrors x safe lost again s s' (.again v t) (.again v t') := h.mono (fun _ => rfl) id

/-- A turn is taken alike on both sides. -/
theorem lookFor (guide : Guide x safe) {f : State → Turn α}
    (ended : Ended s → Reported s (f s).state ∨ (f s).pick lost again (f s).state)
    (h : ∀ s', Looks s s' → TurnMirrors x safe lost again s s' (f s) (f s')) :
    TurnMirrors x safe lost again s s' (f s) (f s') :=
  Mirrors.lookFor (f := fun s => (f s).state) guide (fun s' => (f s).Alike (f s')) ended h

theorem pick_ended (a : Turn α) : a.pick Ended Ended = Ended := by
  cases a <;> rfl

theorem look (guide : Guide x safe) {f : State → Turn α}
    (h : ∀ s', Looks s s' → TurnMirrors x safe Ended Ended s s' (f s) (f s')) :
    TurnMirrors x safe Ended Ended s s' (f s) (f s') := by
  refine lookFor guide (fun ended => .inr ?_) h
  rw [pick_ended]
  exact (Mirrors.grows (h s (.refl s))).ended ended

/-- A reading that precedes a turn, which may depend on what the reading has found. -/
theorem behindSame {c : Turn α} (h : Mirrors x safe same Ended s s' t t')
    (k : TurnMirrors x safe Ended Ended t t' a c) (eq : same → c = b) :
    TurnMirrors x safe Ended Ended s s' a b := by
  unfold TurnMirrors at k ⊢
  rw [pick_ended] at k ⊢
  have whole := h.chain k fun ended => .inr (k.grows.ended ended)
  exact (whole.resolve fun both => congrArg Turn.state (eq both.1)).mono
    (fun both => eq both.1 ▸ both.2) id

theorem behind (h : Mirrors x safe same Ended s s' t t')
    (k : TurnMirrors x safe Ended Ended t t' a b) :
    TurnMirrors x safe Ended Ended s s' a b := behindSame h k fun _ => rfl

end TurnMirrors

/-- A loop ends where its condition does not hold. -/
theorem whileSeen_exit {condition : State → Bool} {step : State → State}
    (advances : Advances (whileTurn condition step)) (s : State) :
    condition (whileSeen condition step s) = false := by
  refine repeatWhile_exit (fun _ _ => True) (motive := fun r => condition r.2 = false)
    (fun _ => trivial) (fun _ _ _ _ _ => trivial)
    (fun hturn => ⟨trivial, advances.remaining_lt hturn⟩) fun _ hturn => ?_
  unfold whileTurn at hturn
  split at hturn
  · cases hturn
  · rename_i unseen
    cases hturn
    simpa using unseen

namespace Mirrors

/-- Loops go side by side if their turns do. What a turn has lost has to be reported or lost by the
turns behind it. -/
theorem repeatWhileFrom (first : Nat) (advances : Advances turn)
    (step : ∀ v s s', first ≤ s.cursor →
      TurnMirrors x safe lost again s s' (turn v s) (turn v s'))
    (carry : ∀ v t, first ≤ t.cursor → again t →
      Reported t (repeatWhile turn v t).2 ∨ lost (repeatWhile turn v t).2)
    (v : α) (s s' : State) (h : first ≤ s.cursor) :
    Mirrors x safe ((repeatWhile turn v s').1 = (repeatWhile turn v s).1) lost s s'
      (repeatWhile turn v s).2 (repeatWhile turn v s').2 := by
  fun_induction repeatWhile turn v s generalizing s' with
  | case1 v s v' t hturn =>
    have taken := step v s s' h
    rw [hturn] at taken
    refine ⟨Mirrors.grows taken, fun tandem => (Mirrors.outcome taken tandem).imp_left ?_⟩
    rintro ⟨parallel, alike, keeps⟩
    have alike : turn v s' = .stop v' (turn v s').state := alike
    rw [advances.repeatWhile_eq v s', alike]
    exact ⟨parallel, rfl, keeps⟩
  | case2 v s _ v' t hturn _ ih =>
    have taken := step v s s' h
    rw [hturn] at taken
    have later : first ≤ t.cursor := Nat.le_trans h (Mirrors.grows taken).le
    have whole := Mirrors.chain taken (ih (turn v s').state later) (carry v' t later)
    refine ⟨whole.grows, fun tandem => (whole.outcome tandem).imp_left ?_⟩
    rintro ⟨parallel, ⟨alike, agree⟩, keeps⟩
    have alike : turn v s' = .again v' (turn v s').state := alike
    rw [advances.repeatWhile_eq v s', alike]
    exact ⟨parallel, agree, keeps⟩
  | case3 v s left v' t hturn stuck => exact absurd (advances.remaining_lt hturn) stuck

/-- Loops that part only where nothing is left to read. -/
theorem repeatWhile (advances : Advances turn)
    (step : ∀ v s s', TurnMirrors x safe Ended Ended s s' (turn v s) (turn v s'))
    (v : α) (s s' : State) :
    Mirrors x safe ((repeatWhile turn v s').1 = (repeatWhile turn v s).1) Ended s s'
      (repeatWhile turn v s).2 (repeatWhile turn v s').2 := by
  refine repeatWhileFrom 0 advances (fun v s s' _ => step v s s') (fun v t _ ended => .inr ?_)
    v s s'
    (Nat.zero_le _)
  have onward := advances.onward v t
  have := peek_eq_none_iff.1 ended
  have := onward.le
  exact peek_eq_none_iff.2 (by rw [onward.tokens]; omega)

/-- Loops whose turns report something where they are lost are not lost themselves. -/
theorem closing (advances : Advances turn)
    (step : ∀ v s s', 1 ≤ s.cursor → Looks s s' →
      TurnMirrors x x.kept Never again s s' (turn v s) (turn v s'))
    (stuck : ∀ v t, again t → Reported t (turn v t).state) (ends : ∀ t, Ended t → again t)
    (head : Mirrors x x.kept same again s s' t t') (moved : 1 ≤ t.cursor) :
    Mirrors x x.kept True Never s s' (Grammar.repeatWhile turn v t).2
      (Grammar.repeatWhile turn v t').2 := by
  have turns (v : α) (s : State) (hs : 1 ≤ s.cursor) : Grows s (turn v s).state :=
    Mirrors.grows (step v s s hs (.refl s))
  have grows (v : α) (s : State) : 1 ≤ s.cursor → Grows s (Grammar.repeatWhile turn v s).2 :=
    repeatWhile_rel (fun s t => 1 ≤ s.cursor → Grows s t)
      (fun _ _ _ h k hs => (h hs).trans (k (Nat.le_trans hs (h hs).le))) turns (turns v s)
  have reported (v : α) (t : State) (ht : 1 ≤ t.cursor) (lost : again t) :
      Reported t (Grammar.repeatWhile turn v t).2 := by
    have told := stuck v t lost
    have later := Nat.le_trans ht (turns v t ht).le
    rw [advances.repeatWhile_eq]
    cases hturn : turn v t with
    | stop v' u => simpa only [hturn, Turn.state_stop] using told
    | again v' u =>
      rw [hturn] at told later
      exact told.grows (grows v' u later)
  refine (head.chain (repeatWhileFrom 1 advances (fun v s s' hs => ?_)
    (fun v t ht lost => .inl (reported v t ht lost)) v t t' moved)
    (fun lost => .inl (reported v t moved lost))).mono (fun _ => trivial) id
  exact .lookFor x.guide_kept (fun ended => .inl (stuck v s (ends s ended)))
    fun s' looks => step v s s' hs looks

theorem whileSeen (guide : Guide x safe) {condition : State → Bool} {step : State → State}
    (advances : Advances (whileTurn condition step))
    (agree : ∀ s s', Looks s s' → condition s' = condition s)
    (h : ∀ s s', condition s → Mirrors x safe True Ended s s' (step s) (step s')) (s s' : State) :
    Mirrors x safe True Ended s s' (whileSeen condition step s) (whileSeen condition step s') := by
  refine (repeatWhile advances (fun _ s s' => ?_) () s s').mono (fun _ => trivial) id
  apply TurnMirrors.look guide
  intro s' looks
  unfold whileTurn
  rw [agree s s' looks]
  split
  · rename_i hs
    exact .goOn (h s s' hs) ()
  · exact .stop (refl s s') ()

end Mirrors

end Loops

/-! ## Recovering -/

theorem currentSpan_eq (h : s.cursor < s.tokens.size) :
    s.currentSpan = (tokenAt s.tokens s.cursor).span := by
  simp [State.currentSpan, State.tokenAt?, tokenAt, h]

/-- The end of the run of stray tokens that starts at the cursor. -/
def behindJunk (s : State) : State := whileSeen State.seesJunk State.bump s.bump

theorem exists_behindJunk (h : s.peek = some kind) : ∃ i, behindJunk s = s.advance (i + 1) := by
  obtain ⟨i, heq, _⟩ := movesOverJunk_whileSeen s.bump
  refine ⟨i, heq.trans ?_⟩
  rw [bump_eq h]
  simp only [State.advance, Nat.add_assoc, Nat.add_comm 1 i]

/-- Stray tokens are reported from the first to the last of them. -/
theorem junk_eq (h : s.peek = some kind) :
    s.junk = (behindJunk s).report
      (if (behindJunk s).cursor = s.cursor + 1 then .strayToken (tokenAt s.tokens s.cursor).text
        else .strayTokens)
      ⟨(tokenAt s.tokens s.cursor).span.start,
        (tokenAt s.tokens ((behindJunk s).cursor - 1)).span.stop⟩ := by
  obtain ⟨i, heq⟩ := exists_behindJunk h
  have hfirst : s.tokenAt? 0 = some (tokenAt s.tokens s.cursor) := tokenAt_of_lt (lt_size_of_peek h)
  have hlast : (behindJunk s).lastEnd =
      (tokenAt s.tokens ((behindJunk s).cursor - 1)).span.stop := by
    rw [heq]
    exact lastEnd_eq rfl
  have hcursor : s.bump.cursor = s.cursor + 1 := by rw [bump_eq h]; rfl
  rw [State.junk, hfirst, ← hlast]
  change (if (behindJunk s).cursor = s.bump.cursor then (behindJunk s).report _ _
    else (behindJunk s).report _ _) = _
  rw [hcursor]
  split
  · rename_i single
    rw [hlast, single]
    rfl
  · rfl

/-- Whatever stands at the cursor is reported as stray. -/
theorem reported_junk (h : s.peek = some kind) : Reported s s.junk := by
  obtain ⟨i, heq⟩ := exists_behindJunk h
  rw [junk_eq h, heq]
  exact reported_report ..

theorem junk_of_ended (h : Ended s) : s.junk = s := by
  have : s.tokenAt? 0 = none := Option.map_eq_none_iff.1 h
  rw [State.junk, this]

namespace Mirrors

theorem behindJunk (h : s.peek = some kind) :
    Mirrors x x.kept True Ended s s' (behindJunk s) (behindJunk s') := by
  refine (bump h).trans (whileSeen x.guide_kept seesJunk_advances
    (fun s s' looks => by rw [State.seesJunk, State.seesJunk, looks.peek]) (fun s s' hs => ?_) _ _)
  obtain ⟨kind, hpeek, _⟩ := (Option.any_eq_true ..).1 hs
  exact bump hpeek

/-- Stray tokens are passed and reported on both sides. -/
theorem junk (h : s.peek = some kind) : Mirrors x x.kept True Never s s' s.junk s'.junk := by
  have onward := Onward.junk s
  have reported := reported_junk h
  refine ⟨⟨onward.tokens, onward.le, Nat.le_of_lt reported⟩, fun tandem => ?_⟩
  have told : Mirrors x x.kept True Ended (Grammar.behindJunk s) (Grammar.behindJunk s')
      s.junk s'.junk := by
    have hlt : s.cursor < x.here.size := tandem.here ▸ lt_size_of_peek h
    rw [junk_eq h, junk_eq (tandem.peek h)]
    refine report x.guide_kept (i := s.cursor) (j := (Grammar.behindJunk s).cursor - 1)
      fun behind => ?_
    have hcursor := tandem.cursor
    have hbehind := behind.cursor
    have bounded := behind.bounded
    have moved : s.cursor < (Grammar.behindJunk s).cursor := by
      obtain ⟨i, heq⟩ := exists_behindJunk h
      rw [heq]
      exact Nat.lt_add_of_pos_right (Nat.succ_pos i)
    have text : (tokenAt x.there (s.cursor + x.shift)).text = (tokenAt x.here s.cursor).text :=
      congrArg Word.text (Overlay.word_tokenAt hlt)
    refine ⟨?_, by omega, by omega, by rw [tandem.here], ?_⟩
    · rw [tandem.there, tandem.here, hcursor, hbehind, text]
      exact if_congr (by omega) rfl rfl
    · rw [tandem.there, hcursor, hbehind, Nat.sub_add_comm (by omega)]
  exact (((behindJunk h).trans told).of_reported reported).outcome tandem

/-- A step after which the cursor has moved. -/
theorem guarded {step : State → State} (hpeek : s.peek = some kind)
    (h : Mirrors x x.kept True lost s s' (step s) (step s')) :
    Mirrors x x.kept True lost s s' (guarded step s) (guarded step s') := by
  rw [guarded_eq, guarded_eq]
  split
  · rename_i still
    have hpeek : (step s).peek = some kind := by
      simpa [State.peek, State.peekAt, State.tokenAt?, h.grows.tokens, still] using hpeek
    refine ((h.standstill.chain (junk hpeek) fun _ => .inl (reported_junk hpeek)).resolve ?_).mono
      (fun _ => trivial) False.elim
    rintro ⟨both, _⟩
    rw [if_pos (both.2 still)]
  · rename_i moved
    refine (h.standstill.resolve fun both => ?_).mono (fun _ => trivial) id
    rw [if_neg (moved ∘ both.1)]

theorem skipBalanced (s s' : State) :
    Mirrors x x.kept True Ended s s' s.skipBalanced s'.skipBalanced := by
  refine (repeatWhile balanceTurn_advances (fun count s s' => ?_) 0 s s').mono (fun _ => trivial) id
  apply TurnMirrors.look x.guide_kept
  intro s' looks
  unfold State.balanceTurn
  rw [looks.peek]
  split
  · exact .stop (refl s s') _
  · rename_i kind hpeek
    dsimp only
    generalize (if kind.isOpener then count + 1 else if kind.isCloser then count - 1 else count) =
      depth
    split
    · exact .stop (bump hpeek) _
    · exact .goOn (bump hpeek) _

/-- A region that is too deep is reported and passed on both sides. -/
theorem skipTooDeep (h : s.peek = some kind) :
    Mirrors x x.kept True Never s s' s.skipTooDeep s'.skipTooDeep := by
  have told : Mirrors x x.kept True Ended s s' (s.report .tooDeep s.currentSpan)
      (s'.report .tooDeep s'.currentSpan) := by
    refine report x.guide_kept (i := s.cursor) (j := s.cursor) fun tandem => ?_
    have hlt := lt_size_of_peek h
    have hlt' := lt_size_of_peek (tandem.peek h)
    refine ⟨rfl, Nat.le_refl _, tandem.here ▸ hlt, ?_, ?_⟩
    · rw [currentSpan_eq hlt, tandem.here]
    · rw [currentSpan_eq hlt', tandem.there, tandem.cursor]
  have rest := skipBalanced (x := x) (s.report .tooDeep s.currentSpan)
    (s'.report .tooDeep s'.currentSpan)
  exact (told.trans rest).of_reported ((reported_report ..).grows rest.grows)

/-! ## Declarations and regions -/

/-- A declaration is recorded on both sides. -/
theorem declaration (flavor : Flavor) {start start' : Nat}
    (placed : Tandem x s s' → x.Starts s start start') (hname : s.peek = some .ident)
    (rest : Mirrors x x.kept same lost
      ((s.advance 1).openDeclaration flavor (identifierAt s.tokens s.cursor) start).2
      ((s'.advance 1).openDeclaration flavor (identifierAt s'.tokens s'.cursor) start').2 t t')
    (keeps : lost t → lost (t.closeDeclaration s.nodes.size)) :
    Mirrors x x.kept same lost s s' (t.closeDeclaration s.nodes.size)
      (t'.closeDeclaration s'.nodes.size) := by
  have moved : s.cursor + 1 ≤ t.cursor := rest.grows.le
  refine ⟨⟨rest.grows.tokens, Nat.le_of_succ_le moved, rest.grows.findings⟩, fun tandem => ?_⟩
  obtain ⟨i, hi, hstart, hstart'⟩ := placed tandem
  obtain ⟨parallel, agree, -⟩ | ⟨uneven, parted⟩ := rest.outcome
    ((tandem.advance hname).of_recorded rfl rfl rfl rfl rfl rfl)
  · obtain ⟨log, here, there⟩ := parallel.logged
    have hcursor := parallel.tandem.cursor
    have hbounded := parallel.tandem.bounded
    have hlast : t.cursor - 1 + x.shift < x.there.size := Overlay.lt_size (by omega)
    have bounded : t.cursor ≤ t.tokens.size := parallel.tandem.here ▸ hbounded
    have bounded' : t'.cursor ≤ t'.tokens.size := by
      rw [parallel.tandem.there]
      omega
    have recorded := there.declaration flavor (i := i + x.shift) (by rw [tandem.cursor]; omega)
      (tandem.there ▸ hstart') (tandem.peek hname) bounded'
    rw [tandem.cursor, hcursor, Nat.sub_add_comm (by omega)] at recorded
    exact .inl ⟨⟨parallel.tandem.of_recorded rfl rfl rfl rfl rfl rfl, _,
      here.declaration flavor hi (tandem.here ▸ hstart) hname bounded,
      Log.shift_append .. ▸ recorded⟩, agree, id⟩
  · exact .inr ⟨uneven, parted.imp id keeps⟩

/-- A region is read one level deeper on both sides, or skipped on both. -/
theorem descend {region flat : State → State} (leaves : ∀ t, lost t → lost t.leave)
    (inside : Mirrors x x.kept True lost { s with depth := s.depth + 1 }
      { s' with depth := s'.depth + 1 } (region { s with depth := s.depth + 1 })
      (region { s' with depth := s'.depth + 1 }))
    (outside : Mirrors x x.kept True lost s s' (flat s) (flat s')) :
    Mirrors x x.kept True lost s s' (descend region flat s) (descend region flat s') := by
  unfold Grammar.descend State.enter?
  by_cases deep : s.depth < maxNesting
  · rw [if_pos deep]
    refine ⟨⟨inside.grows.tokens, inside.grows.le, inside.grows.findings⟩, fun tandem => ?_⟩
    rw [if_pos (tandem.depth ▸ deep)]
    have below : Tandem x { s with depth := s.depth + 1 } { s' with depth := s'.depth + 1 } :=
      { tandem with depth := congrArg (· + 1) tandem.depth }
    obtain ⟨parallel, -, -⟩ | ⟨uneven, parted⟩ := inside.outcome below
    · obtain ⟨log, here, there⟩ := parallel.logged
      refine .inl ⟨⟨?_, log, here.at_depth, there.at_depth⟩, trivial, id⟩
      exact { parallel.tandem with depth := congrArg (· - 1) parallel.tandem.depth }
    · exact .inr ⟨uneven, parted.imp_right (leaves _)⟩
  · rw [if_neg deep]
    refine outside.congr fun tandem => ?_
    rw [if_neg (tandem.depth ▸ deep)]

end Mirrors

/-- The regions one level deeper are read side by side. Blocks and bodies are closed, so they are
never lost. -/
structure Inner.Mirrored (x : Overlay) (inner : Inner) : Prop where
  expression : ∀ stops s s',
    Mirrors x x.kept True Ended s s' (inner.expression stops s) (inner.expression stops s')
  block : ∀ s s', s.peek = some .lbrace →
    Mirrors x x.kept True Never s s' (inner.block s) (inner.block s')
  body : ∀ isEnum s s', s.peek = some .lbrace →
    Mirrors x x.kept True Never s s' (inner.body isEnum s) (inner.body isEnum s')

end JavaLens.Grammar
