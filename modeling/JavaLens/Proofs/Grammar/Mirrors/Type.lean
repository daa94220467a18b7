import JavaLens.Proofs.Grammar.Mirrors

/-!
# Types, annotations and modifiers side by side

What may stand before a declaration is read in two ways: for good, or on trial, to see whether a
declaration follows. Both readings are compared here at once. A trial is given up if it fails, and
what is then read in its place starts at the same token, so the states from which a trial may not
part from its counterpart are those from which what is kept does not.

## Main definitions

* `Inner.Guided` — the parentheses of annotations keep states safe.

## Main statements

* `Mirrors.skipModifiers`, `Mirrors.typeName` — modifiers and types are read side by side.
-/

namespace JavaLens.Grammar

variable {x : Overlay} {safe : State → Prop} {lost : State → Prop} {s t s' t' : State}
  {inner : Inner} {kind : Token.Kind}

/-! ## Looking -/

namespace Looks

theorem dot (h : Looks s s') :
    (s'.sees .dot && s'.seesAt 1 .ident) = (s.sees .dot && s.seesAt 1 .ident) :=
  h.sees_and .dot fun hpeek => (h.behind hpeek rfl).2.1 .ident

theorem seesAnnotationUse (h : Looks s s') : seesAnnotationUse s' = seesAnnotationUse s :=
  h.sees_and .atSign fun hpeek => congrArg (! ·) ((h.behind hpeek rfl).2.1 _)

theorem seesDims (h : Looks s s') : seesDims s' = seesDims s :=
  h.sees_and .lbracket fun hpeek => (h.behind hpeek rfl).2.1 .rbracket

theorem modifierSize (h : Looks s s') : modifierSize s' = modifierSize s := by
  unfold Grammar.modifierSize State.seesWord State.seesOperator
  rw [h.peek]
  split
  · rfl
  · rename_i hpeek
    obtain ⟨next, -, spelled⟩ := h.behind hpeek rfl
    rw [h.spells, h.spells, next, spelled]
    cases minus : s.spells 1 .operator "-" with
    | false => rw [Bool.and_false, Bool.false_and, Bool.false_and]
    | true => rw [(h.behind (peekAt_of_spells minus) rfl).2.2]
  · rfl

theorem seesModifier (h : Looks s s') : seesModifier s' = seesModifier s := by
  rw [Grammar.seesModifier, Grammar.seesModifier, h.seesAnnotationUse, h.modifierSize]

theorem seesVariableModifier (h : Looks s s') :
    seesVariableModifier s' = seesVariableModifier s := by
  rw [Grammar.seesVariableModifier, Grammar.seesVariableModifier, h.seesAnnotationUse, h.sees]

theorem joinsTypes (h : Looks s s') : joinsTypes s' = joinsTypes s := by
  unfold Grammar.joinsTypes State.seesOperator
  rw [h.peek, h.spells]

end Looks

/-- A type behind its annotations. -/
def bareType (inner : Inner) (s : State) : Bool × State :=
  match s.peek with
  | some (.keyword k) => if k.isPrimitive || k = .void then (true, skipDims s.bump) else (false, s)
  | some .ident =>
    if s.seesWord 0 "var" && s.seesAt 1 .ident then (true, skipDims s.bump)
    else (true, skipDims (classType inner s))
  | _ => (false, s)

theorem isSkimmed_of_isModifier {k : Keyword} (h : k.isModifier) : isSkimmed (.keyword k) := by
  revert h
  cases k <;> decide

theorem isSkimmed_of_isPrimitive {k : Keyword} (h : k.isPrimitive) : isSkimmed (.keyword k) := by
  revert h
  cases k <;> decide

/-- The modifiers that are words: one word, or `non-sealed`. -/
theorem modifierSize_cases (s : State) :
    modifierSize s = 0 ∨
      (modifierSize s = 1 ∧ ∃ kind, s.peek = some kind ∧ isSkimmed kind) ∨
      (modifierSize s = 3 ∧ s.peek = some .ident ∧ s.peekAt 1 = some .operator ∧
        s.peekAt 2 = some .ident) := by
  unfold modifierSize
  split
  · rename_i k hpeek
    split
    · rename_i modifier
      exact .inr (.inl ⟨rfl, _, hpeek, isSkimmed_of_isModifier modifier⟩)
    · exact .inl rfl
  · rename_i hpeek
    split
    · exact .inr (.inl ⟨rfl, _, hpeek, rfl⟩)
    · split
      · rename_i spelled
        simp only [Bool.and_eq_true] at spelled
        exact .inr (.inr ⟨rfl, hpeek, peekAt_of_spells spelled.1.2, peekAt_of_spells spelled.2⟩)
      · exact .inl rfl
  · exact .inl rfl

theorem peek_of_joinsTypes (h : joinsTypes s) : ∃ kind, s.peek = some kind ∧ isSkimmed kind := by
  unfold joinsTypes at h
  split at h
  case h_1 k hpeek =>
    refine ⟨_, hpeek, ?_⟩
    obtain rfl | rfl | primitive := of_decide_eq_true h
    · rfl
    · rfl
    · exact isSkimmed_of_isPrimitive primitive
  case h_8 => simp at h
  all_goals
    rename_i hpeek
    exact ⟨_, hpeek, rfl⟩

/-- Parentheses keep states safe. -/
structure Inner.Guided (x : Overlay) (safe : State → Prop) (inner : Inner) : Prop
    extends Guide x safe where
  paren : ∀ {s} construct s', s.peek = some .lparen →
    Mirrors x safe True Ended s s' (parenthesized inner construct s)
      (parenthesized inner construct s')

/-- Parentheses that are read for good are completed. -/
theorem Inner.Mirrored.parenthesized (hi : inner.Mirrored x) (construct : Construct)
    (h : s.peek = some .lparen) :
    Mirrors x x.kept True Never s s' (parenthesized inner construct s)
      (parenthesized inner construct s') :=
  .behindBump h ((hi.expression [] s.bump s'.bump).thenExpect .rparen .closingParen construct
    (Nat.zero_lt_of_lt (cursor_lt_bump h)))

theorem Inner.Mirrored.guided (hi : inner.Mirrored x) : inner.Guided x x.kept :=
  { x.guide_kept with
    paren := fun construct _ h => (hi.parenthesized construct h).mono id False.elim }

theorem Guide.bump (guide : Guide x safe) (h : s.peek = some kind) (skimmed : isSkimmed kind) :
    Mirrors x safe True lost s s' s.bump s'.bump := .step h (guide.pass h skimmed)

/-- A turn that goes on behind a separator. -/
theorem TurnMirrors.separator (guide : Guide x safe) (kind : Token.Kind) (skimmed : isSkimmed kind)
    (found : Bool) (s s' : State) : TurnMirrors x safe Ended Ended s s'
      (if found && s.sees kind then .again () s.bump else .stop () s)
      (if found && s'.sees kind then .again () s'.bump else .stop () s') := by
  apply TurnMirrors.look guide
    (f := fun s => if found && s.sees kind then .again () s.bump else .stop () s)
  intro s' looks
  rw [looks.sees]
  split
  · rename_i seen
    exact .goOn (guide.bump (sees_iff.1 (Bool.and_eq_true_iff.1 seen).2) skimmed) ()
  · exact .stop (.refl s s') ()

/-- A turn that goes on behind a dot. -/
theorem TurnMirrors.dot {α : Type} (guide : Guide x safe) (v : α) (s s' : State) :
    TurnMirrors x safe Ended Ended s s'
      (if s.sees .dot && s.seesAt 1 .ident then .again v s.bump else .stop v s)
      (if s'.sees .dot && s'.seesAt 1 .ident then .again v s'.bump else .stop v s') := by
  apply TurnMirrors.look guide
    (f := fun s => if s.sees .dot && s.seesAt 1 .ident then .again v s.bump else .stop v s)
  intro s' looks
  rw [looks.dot]
  split
  · rename_i hdot
    exact .goOn (guide.bump (sees_iff.1 (Bool.and_eq_true_iff.1 hdot).1) rfl) v
  · exact .stop (.refl s s') v

namespace Mirrors

theorem referenceIfSeen (guide : Guide x safe) (s s' : State) :
    Mirrors x safe True Ended s s' s.reference s'.reference := by
  apply look guide
  intro s' looks
  by_cases h : s.peek = some .ident
  · exact reference guide h
  · have unnamed {r : State} (hr : r.peek ≠ some .ident) : r.reference = r := by
      unfold State.reference
      split
      · rename_i hname
        exact absurd (identifier?_eq_some_iff.1 hname).1 hr
      · rfl
    rw [unnamed h, unnamed (looks.peek ▸ h)]
    exact refl s s'

theorem dotted (guide : Guide x safe) {after : State → State} (onward : ∀ s, Onward s (after s))
    (h : ∀ s s', Mirrors x safe True Ended s s' (after s) (after s')) (s s' : State) :
    Mirrors x safe True Ended s s' (dotted after s) (dotted after s') := by
  refine (repeatWhile (dottedTurn_advances onward) (fun _ s s' => ?_) () s s').mono
    (fun _ => trivial) id
  exact .behind ((referenceIfSeen guide s s').trans (h _ _)) (.dot guide () _ _)

variable (hs : inner.Steady) (guide : inner.Guided x safe)

include guide

theorem parenthesizedIfSeen (construct : Construct) (s s' : State) :
    Mirrors x safe True Ended s s' (parenthesizedIfSeen inner construct s)
      (parenthesizedIfSeen inner construct s') :=
  ifSees guide.toGuide (fun h => guide.paren construct s' h) (refl s s')

theorem annotationUse (h : s.peek = some .atSign) :
    Mirrors x safe True Ended s s' (annotationUse inner s) (annotationUse inner s') := by
  have name (s s' : State) : Mirrors x safe True Ended s s'
      (if s.sees .ident then Grammar.dotted id s else s)
      (if s'.sees .ident then Grammar.dotted id s' else s') :=
    ifSees guide.toGuide (fun _ => dotted guide.toGuide .refl (fun s s' => refl s s') s s')
      (refl s s')
  exact (guide.bump h rfl).trans ((name _ _).trans
    (parenthesizedIfSeen guide .annotationUse _ _))

include hs

theorem typeAnnotations (s s' : State) :
    Mirrors x safe True Ended s s'
      (Grammar.whileSeen seesAnnotationUse (Grammar.annotationUse inner) s)
      (Grammar.whileSeen seesAnnotationUse (Grammar.annotationUse inner) s') :=
  whileSeen guide.toGuide (typeAnnotations_advance hs) (fun _ _ looks => looks.seesAnnotationUse)
    (fun _ _ seen => annotationUse guide (sees_iff.1 (Bool.and_eq_true_iff.1 seen).1)) s s'

theorem annotations (s s' : State) :
    Mirrors x safe True Ended s s'
      (Grammar.whileSeen (·.sees .atSign) (Grammar.annotationUse inner) s)
      (Grammar.whileSeen (·.sees .atSign) (Grammar.annotationUse inner) s') :=
  whileSeen guide.toGuide (annotations_advance hs) (fun _ _ looks => looks.sees .atSign)
    (fun _ _ seen => annotationUse guide (sees_iff.1 seen)) s s'

omit hs

theorem modifier (seen : seesModifier s) :
    Mirrors x safe True Ended s s' (modifier inner s) (modifier inner s') := by
  apply look guide.toGuide
  intro s' looks
  unfold Grammar.modifier
  rw [looks.seesAnnotationUse, looks.modifierSize]
  split
  · rename_i annotated
    exact annotationUse guide (sees_iff.1 (Bool.and_eq_true_iff.1 annotated).1)
  · rename_i plain
    obtain none | ⟨one, kind, hpeek, skimmed⟩ | ⟨three, first, second, third⟩ :=
      modifierSize_cases s
    · simp [seesModifier, plain, none] at seen
    · rw [one]
      exact advance hpeek (guide.pass hpeek skimmed)
    · rw [three]
      refine advance third fun hs => ?_
      have behind := guide.pass first rfl hs
      have behind := guide.pass (s := s.advance 1) (by simpa [State.peek] using second) rfl behind
      exact guide.pass (s := s.advance 2) (by simpa [State.peek] using third) rfl behind

include hs

theorem skipModifiers (s s' : State) :
    Mirrors x safe True Ended s s' (skipModifiers inner s) (skipModifiers inner s') :=
  whileSeen guide.toGuide (modifiers_advance hs) (fun _ _ looks => looks.seesModifier)
    (fun _ _ seen => modifier guide seen) s s'

theorem skipVariableModifiers (s s' : State) :
    Mirrors x safe True Ended s s' (skipVariableModifiers inner s)
      (skipVariableModifiers inner s') := by
  refine whileSeen guide.toGuide (variableModifiers_advance hs)
    (fun _ _ looks => looks.seesVariableModifier) (fun s s' seen => ?_) s s'
  apply look guide.toGuide
  intro s' looks
  unfold variableModifier
  rw [looks.seesAnnotationUse]
  split
  · rename_i annotated
    exact annotationUse guide (sees_iff.1 (Bool.and_eq_true_iff.1 annotated).1)
  · rename_i plain
    have final : s.sees (.keyword .final) := by simpa [seesVariableModifier, plain] using seen
    exact guide.bump (sees_iff.1 final) rfl

omit hs guide

theorem skipDims (guide : Guide x safe) (s s' : State) :
    Mirrors x safe True Ended s s' (skipDims s) (skipDims s') := by
  refine whileSeen guide dims_advance (fun _ _ looks => looks.seesDims) (fun s s' seen => ?_) s s'
  obtain ⟨first, second⟩ := Bool.and_eq_true_iff.1 seen
  refine advance (seesAt_iff.1 second) fun hs => ?_
  have behind := guide.pass (sees_iff.1 first) rfl hs
  exact guide.pass (s := s.advance 1) (by simpa [State.peek] using seesAt_iff.1 second) rfl behind

include hs guide

theorem typeArguments (h : s.peek = some .lt) :
    Mirrors x safe True Ended s s' (typeArguments inner s) (typeArguments inner s') := by
  refine (guide.bump h rfl).trans ((repeatWhile (typeArgumentTurn_advances hs)
    (fun count s s' => ?_) 0 _ _).mono (fun _ => trivial) id)
  apply TurnMirrors.look guide.toGuide
  intro s' looks
  unfold typeArgumentTurn
  rw [looks.peek, looks.joinsTypes]
  split
  · rename_i hpeek
    exact .goOn (guide.bump hpeek rfl) _
  · rename_i hpeek
    split
    · exact .stop (guide.bump hpeek rfl) _
    · exact .goOn (guide.bump hpeek rfl) _
  · rename_i hpeek
    exact .goOn (reference guide.toGuide hpeek) _
  · rename_i hpeek
    exact .goOn (annotationUse guide hpeek) _
  · split
    · rename_i joins
      obtain ⟨kind, hpeek, skimmed⟩ := peek_of_joinsTypes joins
      exact .goOn (guide.bump hpeek skimmed) _
    · exact .stop (refl s s') _

theorem typeArgumentsIfSeen (s s' : State) :
    Mirrors x safe True Ended s s' (typeArgumentsIfSeen inner s) (typeArgumentsIfSeen inner s') :=
  ifSees guide.toGuide (fun h => typeArguments hs guide h) (refl s s')

theorem classType (s s' : State) :
    Mirrors x safe True Ended s s' (classType inner s) (classType inner s') :=
  dotted guide.toGuide (.typeArgumentsIfSeen hs) (typeArgumentsIfSeen hs guide) s s'

/-- A type is found on both sides or on neither. -/
theorem bareType (s s' : State) :
    Mirrors x safe ((bareType inner s').1 = (bareType inner s).1) Ended s s'
      (bareType inner s).2 (bareType inner s').2 := by
  apply lookSame guide.toGuide
    fun s' => (Grammar.bareType inner s').1 = (Grammar.bareType inner s).1
  intro s' looks
  unfold Grammar.bareType
  rw [looks.peek]
  split
  · rename_i k hpeek
    split
    · rename_i word
      have skimmed : isSkimmed (.keyword k) := by
        obtain primitive | void := Bool.or_eq_true_iff.1 word
        · exact isSkimmed_of_isPrimitive primitive
        · rw [of_decide_eq_true void]
          rfl
      exact ((guide.bump hpeek skimmed).trans (skipDims guide.toGuide _ _)).mono (fun _ => rfl) id
    · exact (refl s s').mono (fun _ => rfl) id
  · rename_i hpeek
    have word : s'.seesWord 0 "var" = s.seesWord 0 "var" := looks.spells ..
    rw [word, (looks.behind hpeek rfl).2.1]
    split
    · exact ((guide.bump hpeek rfl).trans (skipDims guide.toGuide _ _)).mono (fun _ => rfl) id
    · exact ((classType hs guide s s').trans (skipDims guide.toGuide _ _)).mono (fun _ => rfl) id
  · exact (refl s s').mono (fun _ => rfl) id

theorem typeName (s s' : State) :
    Mirrors x safe ((typeName inner s').1 = (typeName inner s).1) Ended s s'
      (typeName inner s).2 (typeName inner s').2 :=
  (typeAnnotations hs guide s s').trans (bareType hs guide _ _)

theorem typeList (s s' : State) :
    Mirrors x safe True Ended s s' (typeList inner s) (typeList inner s') := by
  refine (repeatWhile (typeListTurn_advances hs) (fun _ s s' => ?_) () s s').mono
    (fun _ => trivial) id
  have comma := TurnMirrors.separator guide.toGuide .comma rfl (Grammar.typeName inner s).1
  exact .behindSame (typeName hs guide s s') (comma _ _) fun same => by
    rw [← same]
    rfl

end Mirrors

/-! ## Where types end -/

/-- The reading goes on from `s` to `t`, and unless it has reported something or stands still, the
last token it has passed completes nothing. -/
structure Unfinished (s t : State) : Prop extends Grows s t where
  last : Reported s t ∨ t.cursor = s.cursor ∨ ∃ token ∈ t.previous?, completes token.kind = false

namespace Unfinished

variable {u : State}

theorem refl (s : State) : Unfinished s s := ⟨.refl s, .inr (.inl rfl)⟩

theorem trans (h : Unfinished s t) (k : Unfinished t u) : Unfinished s u := by
  refine ⟨h.toGrows.trans k.toGrows, ?_⟩
  obtain reported | still | ⟨token, before, goesOn⟩ := k.last
  · exact .inl (h.toGrows.reported reported)
  · obtain reported | still' | ⟨token, before, goesOn⟩ := h.last
    · exact .inl (reported.grows k.toGrows)
    · exact .inr (.inl (still.trans still'))
    · refine .inr (.inr ⟨token, ?_, goesOn⟩)
      simpa only [State.previous?, still, k.tokens] using before
  · exact .inr (.inr ⟨token, before, goesOn⟩)

theorem ite {c : Prop} [Decidable c] (yes : c → Unfinished s t) (no : Unfinished s u) :
    Unfinished s (if c then t else u) := by
  split
  · exact yes ‹c›
  · exact no

/-- A token is passed that completes nothing. -/
theorem of_passed (grows : Grows s t) (hpeek : s.peek = some kind) (goesOn : completes kind = false)
    (cursor : t.cursor = s.cursor + 1) : Unfinished s t := by
  refine ⟨grows, .inr (.inr ⟨tokenAt s.tokens s.cursor, ?_, ?_⟩)⟩
  · rw [previous?_eq cursor (grows.tokens ▸ lt_size_of_peek hpeek), grows.tokens]
    rfl
  · obtain ⟨token, htoken, rfl⟩ := Option.map_eq_some_iff.1 hpeek
    have : tokenAt s.tokens s.cursor = token := by
      rw [tokenAt, ← Nat.add_zero s.cursor, show s.tokens[s.cursor + 0]? = some token from htoken]
      rfl
    rw [this, goesOn]

theorem bump (hpeek : s.peek = some kind) (goesOn : completes kind = false) :
    Unfinished s s.bump := by
  rw [bump_eq hpeek]
  exact of_passed ⟨rfl, Nat.le_add_right .., Nat.le_refl _⟩ hpeek goesOn rfl

theorem reference (s : State) : Unfinished s s.reference := by
  unfold State.reference
  split
  · rename_i hname
    obtain ⟨hpeek, _, rfl⟩ := identifier?_eq_some_iff.1 hname
    exact of_passed ⟨rfl, Nat.le_add_right .., Nat.le_refl _⟩ hpeek rfl rfl
  · exact refl s

/-- A token is passed at the end that completes nothing, or it is reported missing. -/
theorem behindExpect (h : Grows s t) (goesOn : completes kind = false) (symbol : Missing)
    (construct : Construct) : Unfinished s (t.expect kind symbol construct) := by
  unfold State.expect
  split
  · rename_i seen
    have passed := bump (sees_iff.1 seen) goesOn
    have moved := cursor_lt_bump (sees_iff.1 seen)
    exact ⟨h.trans passed.toGrows, passed.last.imp h.reported (.imp_left fun still => by omega)⟩
  · have reported := reported_report (s := t) (.missing symbol construct) t.previousSpan
    exact ⟨h.trans ⟨rfl, Nat.le_refl _, Nat.le_of_lt reported⟩, .inl (h.reported reported)⟩

theorem whileSeen {condition : State → Bool} {step : State → State}
    (h : ∀ s, condition s → Unfinished s (step s)) (s : State) :
    Unfinished s (whileSeen condition step s) :=
  whileSeen_rel Unfinished (fun _ _ _ => trans) (fun s => ite (h s) (refl s)) s

variable (grows : ∀ stops s, Grows s (inner.expression stops s))

include grows

theorem annotationUse (h : s.peek = some .atSign) : Unfinished s (annotationUse inner s) := by
  have name (s : State) : Unfinished s (if s.sees .ident then Grammar.dotted id s else s) := by
    refine ite (fun _ => ?_) (refl s)
    have turn (_ : Unit) (s : State) : Unfinished s (dottedTurn id () s).state := by
      unfold dottedTurn
      rw [apply_ite Turn.state]
      refine (reference s).trans (ite (fun dot => ?_) (refl _))
      exact bump (sees_iff.1 (Bool.and_eq_true_iff.1 dot).1) rfl
    exact repeatWhile_rel Unfinished (fun _ _ _ => trans) turn (turn () s)
  refine (bump h rfl).trans ((name _).trans (ite (fun hopen => ?_) (refl _)))
  exact behindExpect ((bump (sees_iff.1 hopen) rfl).toGrows.trans (grows [] _)) rfl _ _

theorem typeAnnotations (s : State) :
    Unfinished s (Grammar.whileSeen seesAnnotationUse (Grammar.annotationUse inner) s) :=
  whileSeen (fun _ seen => annotationUse grows (sees_iff.1 (Bool.and_eq_true_iff.1 seen).1)) s

theorem typeArguments (h : s.peek = some .lt) : Unfinished s (typeArguments inner s) := by
  have turn (count : Nat) (s : State) : Unfinished s (typeArgumentTurn inner count s).state := by
    unfold typeArgumentTurn
    split
    · exact bump ‹_› rfl
    · rename_i hpeek
      rw [apply_ite Turn.state]
      exact ite (fun _ => bump hpeek rfl) (bump hpeek rfl)
    · exact reference s
    · exact annotationUse grows ‹_›
    · rw [apply_ite Turn.state]
      refine ite (fun joins => ?_) (refl s)
      obtain ⟨kind, hpeek, skimmed⟩ := peek_of_joinsTypes joins
      exact bump hpeek (completes_of_isSkimmed skimmed)
  exact (bump h rfl).trans (repeatWhile_rel Unfinished (fun _ _ _ => trans) turn (turn 0 _))

end Unfinished

/-- A reading that starts at a token and comes to the end of the first list, where the second goes
on, ends with a token that completes a construct. So it has reported something if it is
unfinished. -/
theorem Mirrors.of_unfinished {u u' : State} {same : Prop} (k : Unfinished s t)
    (bounded : Onward s t) (grows : Grows t u)
    (h : Mirrors x x.kept same (fun _ => Ended t) s s' u u') :
    Mirrors x x.kept same (fun _ => Ended s) s s' u u' := by
  refine ⟨h.grows, fun tandem => (h.outcome tandem).imp_right fun ⟨uneven, parted⟩ => ?_⟩
  refine ⟨uneven, parted.elim .inl fun ended => ?_⟩
  obtain reported | still | ⟨token, before, goesOn⟩ := k.last
  · exact .inl (reported.grows grows)
  · exact .inr (by rwa [Ended, peek_eq_none_iff, ← still, ← k.tokens, ← peek_eq_none_iff])
  · refine absurd (x.closed.resolve_left uneven token ?_) (by simp [goesOn])
    have htokens := k.tokens.trans tandem.here
    have hcursor : t.cursor = x.here.size := by
      have := peek_eq_none_iff.1 ended
      have := bounded.bounded
      have := tandem.bounded
      rw [htokens] at *
      rw [tandem.here] at *
      omega
    cases hsize : x.here.size with
    | zero => simp [State.previous?, hcursor, hsize] at before
    | succ n =>
      rw [List.getLast?_eq_getElem?, Array.length_toList, hsize, Array.getElem?_toList]
      simpa [State.previous?, hcursor, hsize, htokens] using before

end JavaLens.Grammar
