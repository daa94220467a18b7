import JavaLens.Proofs.Grammar.Mirrors.Member
import JavaLens.Proofs.Grammar.Mirrors.Trial
import JavaLens.Proofs.Grammar.Statement

/-!
# Statements side by side

What a statement is, is decided by trials. A trial that succeeds is what is kept, and one that fails
has gone no further than the expression that is kept in its place. So the same statements are found
in both token lists, unless one of them is cut short, which the block around it reports.

## Main definitions

* `trialType`, `declaresLocals`, `declaresType` — what the trials find.

## Main statements

* `Mirrors.otherStatement` — trials are decided alike.
* `Mirrors.block` — blocks are read side by side.
-/

namespace JavaLens.Grammar

variable {x : Overlay} {safe : State → Prop} {s t s' t' : State} {inner : Inner}
  {kind : Token.Kind} {n : Nat} {skim : Nat → State → State}

/-! ## Trials -/

/-- The type at the start of a declaration of local variables, and whether there is one. -/
def trialType (inner : Inner) (s : State) : Bool × State :=
  typeName inner (skipVariableModifiers inner s)

/-- Whether local variables are declared at the cursor. -/
def declaresLocals (inner : Inner) (s : State) : Bool :=
  (trialType inner s).1 && seesDeclarator (trialType inner s).2

/-- Whether a type starts at the cursor, its modifiers apart. -/
def seesType (s : State) : Bool :=
  (typeFlavor? s).isSome || (s.sees .atSign && s.seesAt 1 (.keyword .interface))

/-- Whether a local type is declared at the cursor. -/
def declaresType (inner : Inner) (s : State) : Bool := seesType (skipModifiers inner s)

theorem Reads.trialType (sound : inner.Sound n) (s : State) : Reads n s (trialType inner s).2 :=
  (skipVariableModifiers sound s).trans (typeName sound _).toReads

theorem localVariables_eq (sound : inner.Sound n) (s : State) :
    localVariables inner s = if declaresLocals inner s then
      (true, declarators inner .localVariable (trialType inner s).2) else (false, s) := by
  have same : (trialType inner s).2.rewind s.mark = s := (Reads.trialType sound s).rewind_eq
  have trial : localVariables inner s = if declaresLocals inner s then
      (true, declarators inner .localVariable (trialType inner s).2)
      else (false, (trialType inner s).2.rewind s.mark) := rfl
  rw [trial, same]

theorem variablesOrExpression_eq (sound : inner.Sound n) (s : State) :
    variablesOrExpression inner s =
      if declaresLocals inner s then declarators inner .localVariable (trialType inner s).2
      else inner.expression [] s := by
  rw [variablesOrExpression, localVariables_eq sound]
  cases declaresLocals inner s <;> rfl

theorem otherStatement_eq (sound : inner.Sound n) (s : State) :
    otherStatement inner s =
      if declaresType inner s then member inner s
      else (variablesOrExpression inner s).eat .semi := by
  have same := seesLocalType_snd sound s
  unfold otherStatement
  dsimp only
  rw [same]
  rfl

namespace Looks

theorem seesDeclarator (h : Looks s s') : seesDeclarator s' = seesDeclarator s :=
  h.sees_and .ident fun hpeek => by rw [(h.behind hpeek rfl).1]

theorem seesYield (h : Looks s s') : seesYield s' = seesYield s := by
  unfold Grammar.seesYield State.seesWord
  rw [h.spells]
  cases word : s.spells 0 .ident "yield" with
  | false => rfl
  | true => rw [(h.behind (peekAt_of_spells word) rfl).1]

theorem seesType (h : Looks s s') : seesType s' = seesType s := by
  unfold Grammar.seesType
  rw [h.typeFlavor?, h.sees_and .atSign fun hpeek => (h.behind hpeek rfl).2.1 _]

end Looks

theorem peek_of_seesType (h : seesType s) : ∃ kind, s.peek = some kind := by
  obtain flavored | sign := Bool.or_eq_true_iff.1 h
  · obtain ⟨flavor, hflavor⟩ := Option.isSome_iff_exists.1 flavored
    obtain ⟨kind, hpeek, -⟩ := peek_of_typeFlavor? (n := 0) hflavor
    exact ⟨kind, hpeek⟩
  · exact ⟨_, sees_iff.1 (Bool.and_eq_true_iff.1 sign).1⟩

theorem trialType_mirrors (hs : inner.Steady) (guide : inner.Guided x safe) (s s' : State) :
    Mirrors x safe ((trialType inner s').1 = (trialType inner s).1) Ended s s'
      (trialType inner s).2 (trialType inner s').2 :=
  (Mirrors.skipVariableModifiers hs guide s s').trans (Mirrors.typeName hs guide _ _)

/-- From safe states trials are decided alike. -/
theorem declaresLocals_eq (hs : inner.Steady) (guide : inner.Guided x safe) (hsafe : safe s)
    (tandem : Tandem x s s') : declaresLocals inner s' = declaresLocals inner s := by
  obtain ⟨parallel, same, keeps⟩ | ⟨hazard, -⟩ := (trialType_mirrors hs guide s s').outcome tandem
  · have looks := parallel.tandem.looks (guide.seen (keeps hsafe))
    exact congrArg₂ (· && ·) same looks.seesDeclarator
  · exact absurd hsafe hazard

theorem declaresType_eq (hs : inner.Steady) (guide : inner.Guided x safe) (hsafe : safe s)
    (tandem : Tandem x s s') : declaresType inner s' = declaresType inner s := by
  obtain ⟨parallel, -, keeps⟩ | ⟨hazard, -⟩ :=
    (Mirrors.skipModifiers hs guide s s').outcome tandem
  · exact (parallel.tandem.looks (guide.seen (keeps hsafe))).seesType
  · exact absurd hsafe hazard

/-! ## Modifiers of variables -/

/-- A loop that starts with the steps of another one. -/
theorem whileSeen_whileSeen {condition other : State → Bool} {step next : State → State}
    (advances : Advances (whileTurn condition step)) (advances' : Advances (whileTurn other next))
    (h : ∀ s, condition s → other s ∧ next s = step s) (s : State) :
    whileSeen other next (whileSeen condition step s) = whileSeen other next s := by
  induction hr : s.remaining using Nat.strongRecOn generalizing s with
  | _ r ih =>
    by_cases seen : condition s
    · obtain ⟨seen', same⟩ := h s seen
      rw [whileSeen_of_seen advances seen, whileSeen_of_seen advances' seen', same]
      have again : whileTurn condition step () s = .again () (step s) := if_pos seen
      exact ih _ (hr ▸ advances.remaining_lt again) _ rfl
    · rw [whileSeen_of_not_seen advances (by simpa using seen)]

/-- A word that is a modifier only in front of others is followed by a keyword or an operator. -/
theorem peekAt_of_modifierSize (hname : s.peek = some .ident) (h : modifierSize s ≠ 0) :
    s.peekAt 1 = some .operator ∨ ∃ k, s.peekAt 1 = some (.keyword k) := by
  simp only [modifierSize, hname] at h
  split at h
  · rename_i word
    obtain ⟨kind, hnext, hkind⟩ := (Option.any_eq_true ..).1 (Bool.and_eq_true_iff.1 word).2
    split at hkind
    · exact .inr ⟨_, hnext⟩
    · simp at hkind
  · split at h
    · rename_i spelled
      simp only [Bool.and_eq_true] at spelled
      exact .inl (peekAt_of_spells spelled.1.2)
    · exact absurd rfl h

/-- An identifier that is followed by neither a dot nor brackets is a type of its own. -/
theorem classType_of_plain (hs : inner.Steady) (hname : s.peek = some .ident)
    (hnext : s.peekAt 1 = some kind) (plain : kind ≠ .lt ∧ kind ≠ .dot ∧ kind ≠ .lbracket) :
    skipDims (classType inner s) = s.reference := by
  have passed := Passed.reference hname
  have hpeek : s.reference.peek = some kind := by
    rw [← hnext]
    simp [State.peek, State.peekAt, State.tokenAt?, passed.tokens, passed.cursor]
  have arguments : typeArgumentsIfSeen inner s.reference = s.reference :=
    if_neg (by simp [State.sees, hpeek, plain.1])
  have named : classType inner s = s.reference := by
    unfold classType dotted
    rw [(dottedTurn_advances (.typeArgumentsIfSeen hs)).repeatWhile_eq, dottedTurn, arguments]
    simp [State.sees, hpeek, plain.2.1]
  rw [named]
  exact whileSeen_of_not_seen dims_advance (by simp [seesDims, State.sees, hpeek, plain.2.2])

/-- Where local variables are declared, no modifier follows those of variables. -/
theorem unmodified_of_declaresLocals (hs : inner.Steady) (h : declaresLocals inner s) :
    seesModifier (skipVariableModifiers inner s) = false := by
  have exit : seesVariableModifier (skipVariableModifiers inner s) = false :=
    whileSeen_exit (variableModifiers_advance hs) s
  obtain ⟨found, declares⟩ := Bool.and_eq_true_iff.1 h
  unfold trialType at found declares
  generalize skipVariableModifiers inner s = t at *
  obtain ⟨plain, -⟩ := Bool.or_eq_false_iff.1 exit
  have annotations : whileSeen seesAnnotationUse (annotationUse inner) t = t :=
    whileSeen_of_not_seen (typeAnnotations_advance hs) plain
  rw [seesModifier, plain, Bool.false_or, decide_eq_false_iff_not, not_not]
  rw [show typeName inner t = bareType inner _ from rfl, annotations] at found declares
  by_contra modified
  unfold bareType at found declares
  split at found
  · rename_i k hpeek
    split at found
    · rename_i word
      refine modified ?_
      simp only [modifierSize, hpeek]
      revert word
      cases k <;> decide
    · cases found
  · rename_i hname
    obtain ⟨kind, hnext, other⟩ : ∃ kind, t.peekAt 1 = some kind ∧ kind ≠ .ident ∧ kind ≠ .lt ∧
        kind ≠ .dot ∧ kind ≠ .lbracket := by
      obtain hnext | ⟨k, hnext⟩ := peekAt_of_modifierSize hname modified
      · exact ⟨_, hnext, by simp⟩
      · exact ⟨_, hnext, by simp⟩
    have passed := Passed.reference hname
    rw [hname] at declares
    dsimp only at declares
    rw [if_neg (by simp [State.seesAt, hnext, other.1]), classType_of_plain hs hname hnext other.2]
      at declares
    have hpeek : t.reference.peek = some .ident :=
      sees_iff.1 (Bool.and_eq_true_iff.1 declares).1
    refine other.1 (Option.some.inj ?_)
    rw [← hnext, ← hpeek]
    simp [State.peek, State.peekAt, State.tokenAt?, passed.tokens, passed.cursor]
  · cases found

/-- Where local variables are declared, their modifiers are all there are. -/
theorem skipModifiers_of_declaresLocals (hs : inner.Steady) (h : declaresLocals inner s) :
    skipModifiers inner s = skipVariableModifiers inner s := by
  have same := whileSeen_whileSeen (variableModifiers_advance hs) (modifiers_advance hs)
    (fun s seen => ?_) s
  · exact same.symm.trans (whileSeen_of_not_seen (modifiers_advance hs)
      (unmodified_of_declaresLocals hs h))
  · unfold seesModifier modifier variableModifier
    cases annotated : seesAnnotationUse s with
    | true => exact ⟨rfl, rfl⟩
    | false =>
      have final : s.peek = some (.keyword .final) := by
        simpa [seesVariableModifier, annotated, State.sees] using seen
      have size : modifierSize s = 1 := by
        simp only [modifierSize, final]
        rfl
      simp [size, bump_eq final]

/-- What is asked of the regions one level deeper, so that trials can be compared. -/
structure Inner.Followed (inner : Inner) : Prop where
  steady : inner.Steady
  sound : ∃ n, inner.Sound n
  mirrored : ∀ x, inner.Mirrored x
  skims : ∃ skim, Skims skim ∧ inner.expression [] = skim 0

/-- An expression that starts where nothing is clear reports something or gets stuck. -/
theorem reported_or_stuck (h : ¬Clear skim s) : Reported s (skim 0 s) ∨ Stuck (skim 0 s) := by
  by_contra silent
  exact h ⟨0, mt .inl silent, mt .inr silent⟩

/-- Where local variables are declared and nothing is reported, no type is declared on either
side. -/
theorem declaresType_eq_of_locals (hs : inner.Steady) (hi : inner.Mirrored x)
    (locals : declaresLocals inner s) (silent : ¬Reported s (trialType inner s).2)
    (tandem : Tandem x s s') : declaresType inner s' = declaresType inner s := by
  have modifiers := Mirrors.skipModifiers hs hi.guided s s'
  have typed := (Mirrors.typeName hs hi.guided (skipVariableModifiers inner s) s).grows
  have hpeek := sees_iff.1 (Bool.and_eq_true_iff.1 (Bool.and_eq_true_iff.1 locals).2).1
  have seen : ¬Ended (skipVariableModifiers inner s) := fun ended => by
    have ended : (trialType inner s).2.peek = none := typed.ended ended
    simp [hpeek] at ended
  have same := skipModifiers_of_declaresLocals hs locals
  unfold declaresType
  rw [same] at modifiers ⊢
  obtain ⟨parallel, -, -⟩ | ⟨-, reported | ended⟩ := modifiers.outcome tandem
  · exact (parallel.tandem.looks fun ended => absurd ended seen).seesType
  · exact absurd (reported.grows typed) silent
  · exact absurd ended seen

namespace Mirrors

variable (followed : inner.Followed)

include followed

/-- Local variables are found on both sides or on neither, unless the expression that is read
instead gets stuck. -/
theorem variablesOrExpression (s s' : State) :
    Mirrors x x.kept True Stuck s s' (variablesOrExpression inner s)
      (variablesOrExpression inner s') := by
  have hs := followed.steady
  have hi := followed.mirrored x
  obtain ⟨n, sound⟩ := followed.sound
  obtain ⟨skim, skims, hskim⟩ := followed.skims
  rw [variablesOrExpression_eq sound, variablesOrExpression_eq sound]
  cases found : declaresLocals inner s with
  | true =>
    have typed := trialType_mirrors hs hi.guided s s'
    obtain ⟨-, declares⟩ := Bool.and_eq_true_iff.1 found
    have hpeek := sees_iff.1 (Bool.and_eq_true_iff.1 declares).1
    have seen (ended : Ended (trialType inner s).2) : False := by simp [Ended, hpeek] at ended
    have names : Mirrors x x.kept True Stuck (trialType inner s).2 (trialType inner s').2
        (Grammar.declarators inner .localVariable (trialType inner s).2)
        (if (trialType inner s).1 && Grammar.seesDeclarator (trialType inner s').2 then
          Grammar.declarators inner .localVariable (trialType inner s').2
          else inner.expression [] s') := by
      refine lookAt x.guide_kept ((declarators hs hi .localVariable _ _).mono id .inl)
        (fun ended => (seen ended).elim) fun _ looks => ?_
      rw [looks.seesDeclarator]
      exact (if_pos found).symm
    refine ((typed.chain names fun ended => (seen ended).elim).resolve fun both => ?_).mono
      (fun _ => trivial) id
    rw [declaresLocals, both.1]
  | false =>
    have expression : Mirrors x x.kept True Stuck s s' _ _ := (hi.expression [] s s').mono id .inl
    by_cases settled : x.Even ∨ Clear skim s
    · refine expression.congr fun tandem => ?_
      have same : declaresLocals inner s' = declaresLocals inner s := settled.elim
        (fun even => declaresLocals_eq hs hi.guided even tandem)
        (fun clear => declaresLocals_eq hs (skims.guided hskim hi) clear tandem)
      rw [same, found]
      rfl
    · refine ⟨expression.grows, fun _ => .inr ⟨mt .inl settled, ?_⟩⟩
      have := reported_or_stuck (mt .inr settled)
      rwa [← hskim] at this

omit followed

theorem sees_of_stuck (h : Stuck s) (other : kind ≠ .rbracket) : s.sees kind = false := by
  obtain hpeek | hpeek := h <;> simp [State.sees, hpeek, other.symm]

theorem stuck_eat (h : Stuck s) : Stuck (s.eat .semi) := by
  rwa [State.eat, sees_of_stuck h (by decide)]

include followed

/-- What is declared behind the modifiers comes after them. -/
theorem grows_member (h : s.peek = some kind) {kind' : Token.Kind}
    (hpeek : (Grammar.skipModifiers inner s).peek = some kind') :
    Grows (Grammar.skipModifiers inner s) (Grammar.member inner s) := by
  have hs := followed.steady
  have hi := followed.mirrored (.self s.tokens)
  obtain ⟨n, sound⟩ := followed.sound
  have tandem : Tandem (.self s.tokens) s s :=
    ⟨rfl, rfl, rfl, rfl, Nat.le_of_lt (lt_size_of_peek h)⟩
  have placed := (tandem.starts h).later (skipModifiers hs hi.guided s s).grows.le
  have whole : Mirrors (.self s.tokens) _ True Never (Grammar.skipModifiers inner s) s _ _ :=
    memberAt hs hi sound s.cursor s.cursor placed (whileSeen_exit (modifiers_advance hs) s) hpeek
  exact whole.grows

/-- A local type is found on both sides or on neither, unless what is read gets stuck. -/
theorem otherStatement (h : s.peek = some kind) :
    Mirrors x x.kept True Stuck s s' (otherStatement inner s) (otherStatement inner s') := by
  have hs := followed.steady
  have hi := followed.mirrored x
  obtain ⟨n, sound⟩ := followed.sound
  obtain ⟨skim, skims, hskim⟩ := followed.skims
  have modifiers := skipModifiers hs hi.guided s s'
  rw [otherStatement_eq sound, otherStatement_eq sound]
  cases declared : declaresType inner s with
  | true =>
    obtain ⟨kind', hpeek⟩ := peek_of_seesType declared
    have whole : Mirrors x x.kept True Stuck s s' (Grammar.member inner s)
        (Grammar.member inner s') :=
      (member hs hi sound h).mono id False.elim
    by_cases settled : x.Even ∨ ¬Reported s (Grammar.skipModifiers inner s)
    · refine whole.congr fun tandem => ?_
      have same : declaresType inner s' = declaresType inner s := by
        obtain ⟨parallel, -, -⟩ | ⟨uneven, reported | ended⟩ := modifiers.outcome tandem
        · exact (parallel.tandem.looks fun ended => by simp [hpeek] at ended).seesType
        · exact absurd reported (settled.resolve_left uneven)
        · simp [Ended, hpeek] at ended
      rw [same, declared]
      rfl
    · have reported : Reported s (Grammar.skipModifiers inner s) :=
        by_contra fun silent => settled (.inr silent)
      exact ⟨whole.grows, fun _ => .inr ⟨mt .inl settled,
        .inl (reported.grows (grows_member followed h hpeek))⟩⟩
  | false =>
    have statement : Mirrors x x.kept True Stuck s s'
        ((Grammar.variablesOrExpression inner s).eat .semi)
        ((Grammar.variablesOrExpression inner s').eat .semi) :=
      ((variablesOrExpression followed s s').chain ((eat _ _ .semi).mono id .inl)
        fun stuck => .inr (stuck_eat stuck)).mono (fun _ => trivial) id
    -- Either what is read decides that no type is declared, or it leaves a trace.
    by_cases settled : x.Even ∨ Clear skim s ∨
      (declaresLocals inner s ∧ ¬Reported s (trialType inner s).2)
    · refine statement.congr fun tandem => ?_
      have same : declaresType inner s' = declaresType inner s := by
        obtain even | clear | ⟨locals, silent⟩ := settled
        · exact declaresType_eq hs hi.guided even tandem
        · exact declaresType_eq hs (skims.guided hskim hi) clear tandem
        · exact declaresType_eq_of_locals hs hi locals silent tandem
      rw [same, declared]
      rfl
    · refine ⟨statement.grows, fun _ => .inr ⟨mt .inl settled, ?_⟩⟩
      rw [variablesOrExpression_eq sound]
      cases locals : declaresLocals inner s with
      | true =>
        have reported : Reported s (trialType inner s).2 :=
          by_contra fun silent => settled (.inr (.inr ⟨locals, silent⟩))
        exact .inl
          (reported.grows ((declarators hs hi .localVariable _ s').grows.trans (.eat _ .semi)))
      | false =>
        have := reported_or_stuck (mt (.inr ∘ .inl) settled)
        rw [← hskim] at this
        exact this.imp (fun reported => reported.grows (.eat _ .semi)) stuck_eat

/-- A bracket that has not been opened starts neither variables nor an expression. -/
theorem reported_of_bracket (hpeek : s.peek = some .rbracket) :
    Reported s (Grammar.guarded (Grammar.variablesOrExpression inner) s) := by
  obtain ⟨n, sound⟩ := followed.sound
  obtain ⟨skim, skims, hskim⟩ := followed.skims
  have modifiers : Grammar.skipVariableModifiers inner s = s :=
    whileSeen_of_not_seen (variableModifiers_advance followed.steady)
      (by simp [seesVariableModifier, seesAnnotationUse, State.sees, hpeek])
  have annotations : Grammar.whileSeen seesAnnotationUse (Grammar.annotationUse inner) s = s :=
    whileSeen_of_not_seen (typeAnnotations_advance followed.steady)
      (by simp [seesAnnotationUse, State.sees, hpeek])
  have untyped : declaresLocals inner s = false := by
    rw [declaresLocals, trialType, modifiers,
      show Grammar.typeName inner s = Grammar.bareType inner _ from rfl, annotations,
      Grammar.bareType, hpeek]
    rfl
  have still : Grammar.variablesOrExpression inner s = s := by
    rw [variablesOrExpression_eq sound, untyped, hskim]
    exact skims.bracket hpeek
  rw [guarded_eq, still, if_pos rfl]
  exact reported_junk hpeek

theorem forHeader (h : s.peek = some .lparen) :
    Mirrors x x.kept True Never s s' (forHeader inner s) (forHeader inner s') := by
  have hi := followed.mirrored x
  have opening (s s' : State) : Mirrors x x.kept True Stuck s s'
      (if s.sees .semi then s else Grammar.variablesOrExpression inner s)
      (if s'.sees .semi then s' else Grammar.variablesOrExpression inner s') :=
    have read := variablesOrExpression followed s s'
    ifSeesOr x.guide_kept (fun _ => refl s s') read
      fun ended => .inr (.inl (read.grows.ended ended))
  have rest (s s' : State) : Mirrors x x.kept True Ended s s'
      (if s.sees .colon then inner.expression [] s.bump
        else if s.sees .semi then inner.expression [] ((inner.expression [] s.bump).eat .semi)
        else s)
      (if s'.sees .colon then inner.expression [] s'.bump
        else if s'.sees .semi then inner.expression [] ((inner.expression [] s'.bump).eat .semi)
        else s') := by
    refine ifSees x.guide_kept (behindWord hi []) (ifSees x.guide_kept (fun h => ?_) (refl s s'))
    exact (behindWord hi [] h).trans ((eat _ _ .semi).trans (hi.expression [] _ _))
  have ends (t : State) (stuck : Stuck t) : Reported t
      ((if t.sees .colon then inner.expression [] t.bump
        else if t.sees .semi then inner.expression [] ((inner.expression [] t.bump).eat .semi)
        else t).expect .rparen .closingParen .forStatement) := by
    rw [sees_of_stuck stuck (by decide), sees_of_stuck stuck (by decide), if_neg Bool.false_ne_true,
      if_neg Bool.false_ne_true, State.expect, sees_of_stuck stuck (by decide)]
    exact reported_report ..
  have first := behindBump h (opening s.bump s'.bump)
  have moved := Nat.lt_of_lt_of_le (cursor_lt_bump h) (opening s.bump s'.bump).grows.le
  refine (first.chain ((rest _ _).thenExpect .rparen .closingParen .forStatement ?_)
    fun stuck => .inl ?_).mono (fun _ => trivial) id
  · exact Nat.zero_lt_of_lt moved
  · exact ends _ stuck

theorem resources (h : s.peek = some .lparen) :
    Mirrors x x.kept True Never s s' (resources inner s) (resources inner s') := by
  have first : Mirrors x x.kept True Stuck s s' s.bump s'.bump := bump h
  refine closing (resourceTurn_advances followed.steady) (fun _ s s' moved looks => ?_)
    (fun _ t stuck => ?_) (fun _ => .inl) first (Nat.zero_lt_of_lt (cursor_lt_bump h))
  · unfold resourceTurn
    rw [looks.peek]
    split
    case h_1 hpeek => exact .stop (bump hpeek) ()
    case h_5 hpeek => exact .goOn (bump hpeek) ()
    case h_6 hpeek => exact .goOn (guarded hpeek (variablesOrExpression followed s s')) ()
    all_goals exact .stop (expect .rparen .closingParen .resourceSpecification moved) ()
  · obtain hpeek | hpeek := stuck
    · rw [resourceTurn, hpeek]
      exact reported_ifSees hpeek (reported_report ..)
    · rw [resourceTurn, hpeek]
      exact reported_of_bracket followed hpeek

theorem alternativeTypes (s s' : State) :
    Mirrors x x.kept True Ended s s' (alternativeTypes inner s) (alternativeTypes inner s') :=
  whileSeen x.guide_kept (alternatives_advance followed.steady)
    (fun _ _ looks => looks.spells .operator "|")
    (fun _ _ seen => behindBump (peekAt_of_spells seen)
      ((typeName followed.steady (followed.mirrored x).guided _ _).mono (fun _ => trivial) id)) s s'

theorem catchParameter (h : s.peek = some .lparen) :
    Mirrors x x.kept True Never s s' (catchParameter inner s) (catchParameter inner s') := by
  have hs := followed.steady
  have hi := followed.mirrored x
  obtain ⟨n, sound⟩ := followed.sound
  refine of_grows (Reads.catchParameter sound h).grows fun tandem => behindBump h ?_
  have behind : Tandem x s.bump s'.bump := by
    rw [bump_eq h, bump_eq (tandem.peek h)]
    exact tandem.advance h
  have typed :=
    (skipVariableModifiers hs hi.guided s.bump s'.bump).trans (typeName hs hi.guided _ _)
  unfold Grammar.catchParameter
  dsimp only
  generalize Grammar.typeName inner (Grammar.skipVariableModifiers inner s.bump) = a at *
  generalize Grammar.typeName inner (Grammar.skipVariableModifiers inner s'.bump) = b at *
  refine (ifFound typed (fun _ => (alternativeTypes followed a.2 b.2).trans ?_)
    fun _ => refl a.2 b.2).thenExpect .rparen .closingParen .catchClause
    (Nat.zero_lt_of_lt (cursor_lt_bump h))
  have later := typed.grows.trans (alternativeTypes (x := x) followed a.2 b.2).grows
  by_cases hname : (Grammar.alternativeTypes inner a.2).peek = some .ident
  · obtain ⟨kind, hpeek⟩ : ∃ kind, s.bump.peek = some kind := by
      cases hpeek : s.bump.peek with
      | some kind => exact ⟨kind, rfl⟩
      | none =>
        have ended : _ = none := later.ended hpeek
        simp [hname] at ended
    rw [identifier?_of_peek hname]
    refine lookAt x.guide_kept (declaration .parameter
      (fun _ => (behind.starts hpeek).later later.le) hname (refl _ _) id)
      (fun ended => absurd ended (by simp [Ended, hname])) fun _ looks => ?_
    rw [identifier?_of_peek (looks.peek.trans hname)]
    rfl
  · have moved : 0 < (Grammar.alternativeTypes inner a.2).cursor :=
      Nat.lt_of_lt_of_le (Nat.zero_lt_of_lt (cursor_lt_bump h)) later.le
    rw [identifier?_of_ne hname]
    refine lookAt x.guide_kept (Mirrors.missingDeclaratorId moved)
      (fun _ => .inl (reported_report ..)) fun _ looks => ?_
    rw [identifier?_of_ne (looks.peek ▸ hname)]

theorem caseLabel (h : s.peek = some (.keyword .case)) :
    Mirrors x x.kept True Ended s s' (caseLabel inner s) (caseLabel inner s') :=
  (behindWord (followed.mirrored x) [.colon, .arrow] h).trans
    (ifSees x.guide_kept (fun h => bump h) (eat _ _ .arrow))

theorem wordAndExpression (h : s.peek = some kind) :
    Mirrors x x.kept True Ended s s' (wordAndExpression inner s) (wordAndExpression inner s') :=
  (behindWord (followed.mirrored x) [] h).trans (eat _ _ .semi)

omit followed

/-- A word and what may stand in parentheses behind it. -/
theorem header {f : State → State} (h : s.peek = some kind)
    (hf : s.bump.peek = some .lparen →
      Mirrors x x.kept True Never s.bump s'.bump (f s.bump) (f s'.bump)) :
    Mirrors x x.kept True Stuck s s' (if s.bump.sees .lparen then f s.bump else s.bump)
      (if s'.bump.sees .lparen then f s'.bump else s'.bump) :=
  behindBump h (ifSeesOr x.guide_kept (fun hopen => (hf hopen).mono id False.elim) (refl _ _)
    fun ended => .inr (.inl ended))

include followed

/-- A step through a block is taken side by side. -/
theorem statement (h : s.peek = some kind) :
    Mirrors x x.kept True Stuck s s' (statement inner s) (statement inner s') := by
  have hi := followed.mirrored x
  refine lookFor (f := Grammar.statement inner) x.guide_kept (fun _ => True)
    (fun ended => absurd ended (by simp [Ended, h])) fun s' looks => ?_
  unfold Grammar.statement
  rw [looks.peek]
  split
  case h_1 => exact refl s s'
  case h_2 hpeek => exact (hi.block s s' hpeek).mono id False.elim
  case h_3 hpeek => exact bump hpeek
  case h_4 hpeek | h_5 hpeek => exact (junk hpeek).mono id False.elim
  case h_6 hpeek | h_7 hpeek | h_8 hpeek | h_9 hpeek =>
    exact behindBump hpeek ((parenthesizedIfSeen hi.guided .statement _ _).mono id .inl)
  case h_10 hpeek | h_11 hpeek | h_12 hpeek => exact bump hpeek
  case h_13 hpeek => exact header hpeek (resources followed)
  case h_14 hpeek => exact header hpeek (catchParameter followed)
  case h_15 hpeek => exact header hpeek (forHeader followed)
  case h_16 hpeek => exact (caseLabel followed hpeek).mono id .inl
  case h_17 hpeek =>
    rw [(looks.behind hpeek rfl).2.1, (looks.behind hpeek rfl).2.1]
    split
    · rename_i separated
      rcases Bool.or_eq_true_iff.1 separated with next | next
      · exact advance (seesAt_iff.1 next) id
      · exact advance (seesAt_iff.1 next) id
    · exact otherStatement followed hpeek
  case h_18 hpeek | h_19 hpeek | h_20 hpeek | h_21 hpeek | h_22 hpeek =>
    exact (wordAndExpression followed hpeek).mono id .inl
  case h_23 hpeek =>
    rw [(looks.behind hpeek rfl).2.1, looks.seesYield]
    split
    · rename_i colon
      exact advance (seesAt_iff.1 colon) id
    · split
      · exact (wordAndExpression followed hpeek).mono id .inl
      · exact otherStatement followed hpeek
  case h_24 hpeek => exact otherStatement followed hpeek

/-- A block is read side by side. -/
theorem block (h : s.peek = some .lbrace) :
    Mirrors x x.kept True Never s s' (block inner s) (block inner s') := by
  have first : Mirrors x x.kept True Stuck s s' s.bump s'.bump := bump h
  refine closing (blockTurn_advances followed.steady) (fun _ s s' moved looks => ?_)
    (fun _ t stuck => ?_) (fun _ => .inl) first (Nat.zero_lt_of_lt (cursor_lt_bump h))
  · unfold blockTurn
    rw [looks.peek]
    split
    · exact .stop (reportBefore x.guide_kept moved fun _ => rfl) ()
    · exact .stop (bump ‹_›) ()
    · rename_i hpeek
      exact .goOn (guarded hpeek (statement followed hpeek)) ()
  · obtain hpeek | hpeek := stuck
    · rw [blockTurn, hpeek]
      exact reported_report ..
    · -- A bracket that has not been opened is stray.
      have moved := cursor_lt_junk hpeek
      rw [blockTurn, hpeek]
      change Reported t (Grammar.guarded (Grammar.statement inner) t)
      have step : Grammar.statement inner t = t.junk := by rw [Grammar.statement, hpeek]
      rw [guarded_eq, step, if_neg (by omega)]
      exact reported_junk hpeek

end Mirrors

end JavaLens.Grammar
