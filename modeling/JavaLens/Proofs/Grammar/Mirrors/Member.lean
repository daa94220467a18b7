import JavaLens.Proofs.Grammar.Member
import JavaLens.Proofs.Grammar.Mirrors.Expression

/-!
# Members side by side

A member that is cut short reports what is missing, so two readings of a member never part without
a trace.

## Main statements

* `Mirrors.member`, `Mirrors.body` — members and the bodies of types are read side by side.
-/

namespace JavaLens.Grammar

variable {x : Overlay} {s t s' t' : State} {inner : Inner} {kind : Token.Kind} {n : Nat}

theorem previousText_bump (h : s.peek = some kind) : s.bump.previousText = s.currentText := by
  rw [bump_eq h]
  rfl

theorem identifier?_of_peek (h : s.peek = some .ident) :
    s.identifier? = some (identifierAt s.tokens s.cursor, s.advance 1) :=
  identifier?_eq_some_iff.2 ⟨h, rfl, rfl⟩

theorem identifier?_of_ne (h : s.peek ≠ some .ident) : s.identifier? = none := by
  cases hname : s.identifier? with
  | none => rfl
  | some named => exact absurd (identifier?_eq_some_iff.1 hname).1 h

/-- Whether a constructor starts at the cursor. -/
def seesConstructor (s : State) : Bool :=
  s.sees .ident && (s.seesAt 1 .lparen || s.seesAt 1 .lbrace)

theorem fieldOrMethod_eq (inner : Inner) (start : Nat) (s : State) :
    fieldOrMethod inner start s =
      if seesConstructor s then
        methodRest inner start .constructor (identifierAt s.tokens s.cursor) (s.advance 1)
      else if (typeName inner s).1 then typedMember inner start (typeName inner s).2
      else (typeName inner s).2.junk := by
  unfold fieldOrMethod
  split
  case h_1 hname hnext | h_2 hname hnext =>
    obtain ⟨hpeek, rfl, rfl⟩ := identifier?_eq_some_iff.1 hname
    rw [if_pos]
    simp [seesConstructor, State.sees, State.seesAt, hpeek, hnext]
  case h_3 hparen hbrace =>
    rw [if_neg]
    simp only [seesConstructor, Bool.and_eq_true, Bool.or_eq_true, sees_iff, seesAt_iff]
    rintro ⟨hpeek, hnext | hnext⟩
    · exact hparen _ _ (identifier?_of_peek hpeek) hnext
    · exact hbrace _ _ (identifier?_of_peek hpeek) hnext

/-- A member behind its modifiers, which start at `start`, the token `before`. -/
def memberAt (inner : Inner) (start before : Nat) (s : State) : State :=
  match typeFlavor? s, s.peek with
  | some flavor, _ => typeDeclaration inner start flavor s
  | none, none =>
    if before < s.cursor then s.report (.strayToken s.previousText) s.previousSpan else s
  | none, some .lbrace => inner.block s
  | none, some .atSign =>
    if s.seesAt 1 (.keyword .interface) then typeDeclaration inner start .annotationType s.bump
    else fieldOrMethod inner start s
  | none, some .lt => fieldOrMethod inner start (typeArguments inner s)
  | none, some _ => fieldOrMethod inner start s

theorem member_eq (inner : Inner) (s : State) :
    member inner s = memberAt inner s.currentStart s.cursor (skipModifiers inner s) := rfl

theorem typeFlavor?_of_ended (ended : Ended s) : typeFlavor? s = none := by
  cases hflavor : typeFlavor? s with
  | none => rfl
  | some flavor =>
    obtain ⟨kind, hpeek, -⟩ := peek_of_typeFlavor? (n := 0) hflavor
    simp [Ended, hpeek] at ended

/-- What is no type, initializer or generic method is a field or method. -/
theorem memberAt_eq (inner : Inner) (start before : Nat) (hflavor : typeFlavor? s = none)
    (hpeek : s.peek = some kind) (other : kind ≠ .lbrace ∧ kind ≠ .atSign ∧ kind ≠ .lt) :
    memberAt inner start before s = fieldOrMethod inner start s := by
  unfold memberAt
  rw [hflavor, hpeek]
  split
  all_goals simp_all

/-- A constant of an enum behind its annotations. -/
def constantAt (inner : Inner) (s : State) : Turn Unit :=
  match s.identifier? with
  | none => .stop () s
  | some (name, s) =>
    let (index, s) := s.openDeclaration .enumConstant name name.span.start
    let s := bodyIfSeen inner (parenthesizedIfSeen inner .enumConstant s)
    let s := s.closeDeclaration index
    if s.sees .comma then .again () s.bump else .stop () s

/-- If there is no type, only annotations have been passed. -/
theorem snd_typeName (h : (typeName inner s).1 = false) :
    (typeName inner s).2 = whileSeen seesAnnotationUse (annotationUse inner) s := by
  revert h
  unfold typeName
  dsimp only
  split
  · split
    · exact nofun
    · exact fun _ => rfl
  · split <;> exact nofun
  · exact fun _ => rfl

/-- That a field or method has no name is reported. -/
theorem reported_typedMember {start : Nat} (ended : Ended s) :
    Reported s (typedMember inner start s) := by
  rw [typedMember, identifier?_of_ne (by simp [show s.peek = none from ended])]
  exact (reported_report ..).grows (.eat _ .semi)

namespace Looks

theorem seesConstructor (h : Looks s s') : seesConstructor s' = seesConstructor s :=
  h.sees_and .ident fun hpeek => by
    rw [(h.behind hpeek rfl).2.1, (h.behind hpeek rfl).2.1]

theorem seesRecord (h : Looks s s') : seesRecord s' = seesRecord s := by
  unfold Grammar.seesRecord State.seesWord
  rw [h.spells]
  cases word : s.spells 0 .ident "record" with
  | false => rfl
  | true =>
    have first := h.behind (peekAt_of_spells word) rfl
    rw [first.2.1]
    cases name : s.seesAt 1 .ident with
    | false => rfl
    | true => rw [(h.behind (seesAt_iff.1 name) rfl).2.1, (h.behind (seesAt_iff.1 name) rfl).2.1]

theorem typeFlavor? (h : Looks s s') : typeFlavor? s' = typeFlavor? s := by
  unfold Grammar.typeFlavor?
  rw [h.peek, h.seesRecord]

end Looks

namespace Mirrors

/-- Stray tokens are passed on both sides, if there are any. -/
theorem junkIfAny (s s' : State) :
    Mirrors x x.kept True (fun _ => Ended s) s s' s.junk s'.junk := by
  cases hpeek : s.peek with
  | some kind => exact (junk hpeek).mono id False.elim
  | none =>
    rw [junk_of_ended hpeek]
    refine lookAt x.guide_kept (refl s s') .inr fun _ looks => ?_
    exact (junk_of_ended (looks.peek.trans hpeek)).symm

variable (hs : inner.Steady) (hi : inner.Mirrored x)

include hs hi

theorem declarators (flavor : Flavor) (s s' : State) :
    Mirrors x x.kept True Ended s s' (declarators inner flavor s)
      (declarators inner flavor s') := by
  refine (repeatWhile (declaratorTurn_advances hs flavor) (fun _ s s' => ?_) () s s').mono
    (fun _ => trivial) id
  apply TurnMirrors.look x.guide_kept
  intro s' looks
  unfold declaratorTurn
  by_cases hname : s.peek = some .ident
  · have hname' := looks.peek.trans hname
    have initial (s s' : State) : Mirrors x x.kept True Ended s s'
        (if s.sees .assign then inner.expression [.comma] s.bump else s)
        (if s'.sees .assign then inner.expression [.comma] s'.bump else s') :=
      ifSees x.guide_kept (behindWord hi [.comma]) (refl s s')
    rw [identifier?_of_peek hname, identifier?_of_peek hname']
    dsimp only
    rw [start_of_identifier? (identifier?_of_peek hname),
      start_of_identifier? (identifier?_of_peek hname')]
    exact .behind (declaration flavor (fun tandem => tandem.starts hname) hname
      ((skipDims x.guide_kept _ _).trans (initial _ _)) (·.closeDeclaration _))
      (.separator x.guide_kept .comma rfl true _ _)
  · rw [identifier?_of_ne hname, identifier?_of_ne (looks.peek ▸ hname)]
    exact .stop (refl s s') ()

variable (sound : inner.Sound n)

include sound

theorem formalParameter (flavor : Flavor) (h : s.peek = some kind) :
    Mirrors x x.kept True Ended s s' (formalParameter inner flavor s)
      (formalParameter inner flavor s') := by
  refine of_grows (Reads.formalParameter sound flavor s).grows fun tandem => ?_
  have placed := tandem.starts h
  have typed := (skipVariableModifiers hs hi.guided s s').trans (typeName hs hi.guided _ _)
  have moved := (Onward.typeName hs (Grammar.skipVariableModifiers inner s)).2
  unfold Grammar.formalParameter
  dsimp only
  generalize Grammar.typeName inner (Grammar.skipVariableModifiers inner s) = a at *
  generalize Grammar.typeName inner (Grammar.skipVariableModifiers inner s') = b at *
  have missing := (junkIfAny (x := x) a.2 b.2).mono id fun ended => junk_of_ended ended ▸ ended
  refine ifFound (typed.mono (congrArg (! ·)) id) (fun _ => missing) fun found => ?_
  have found : a.1 = true := by simpa using found
  have dots := eat (x := x) a.2 b.2 .ellipsis
  have later := typed.grows.trans dots.grows
  have moved : 0 < (a.2.eat .ellipsis).cursor :=
    Nat.lt_of_lt_of_le (Nat.zero_lt_of_lt (moved found)) dots.grows.le
  refine dots.trans (ifSees x.guide_kept (fun h => bump h) ?_)
  by_cases hname : (a.2.eat .ellipsis).peek = some .ident
  · rw [identifier?_of_peek hname]
    refine lookAt x.guide_kept (declaration flavor (fun _ => placed.later later.le) hname
      (skipDims x.guide_kept _ _) (·.closeDeclaration _))
      (fun ended => absurd ended (by simp [Ended, hname])) fun _ looks => ?_
    rw [identifier?_of_peek (looks.peek.trans hname)]
    rfl
  · rw [identifier?_of_ne hname]
    refine lookAt x.guide_kept (Mirrors.missingDeclaratorId moved) (fun _ => .inl ?_)
      fun _ looks => ?_
    · exact reported_report ..
    · rw [identifier?_of_ne (looks.peek ▸ hname)]

theorem formalParameters (flavor : Flavor) (construct : Construct) (h : s.peek = some .lparen) :
    Mirrors x x.kept True Never s s' (formalParameters inner flavor construct s)
      (formalParameters inner flavor construct s') := by
  refine closing (parameterTurn_advances hs flavor construct) (fun _ s s' moved looks => ?_)
    (fun _ t ended => ?_) (fun _ => id) (bump h) (Nat.zero_lt_of_lt (cursor_lt_bump h))
  · unfold parameterTurn
    rw [looks.peek]
    split
    case h_1 hpeek => exact .stop (bump hpeek) ()
    case h_6 hpeek => exact .goOn (bump hpeek) ()
    case h_7 hpeek => exact .goOn (formalParameter hs hi sound flavor hpeek) ()
    all_goals exact .stop (expect .rparen .closingParen construct moved) ()
  · rw [parameterTurn, show t.peek = none from ended]
    exact reported_ifSees ended (reported_report ..)

theorem typeHeader (flavor : Flavor) (s s' : State) :
    Mirrors x x.kept True Ended s s' (typeHeader inner flavor s) (typeHeader inner flavor s') := by
  refine (repeatWhile (headerTurn_advances hs flavor) (fun _ s s' => ?_) () s s').mono
    (fun _ => trivial) id
  apply TurnMirrors.look x.guide_kept
  intro s' looks
  unfold headerTurn
  rw [looks.peek, State.seesWord, State.seesWord, looks.spells]
  split
  · rename_i hpeek
    exact .goOn (typeArguments hs hi.guided hpeek) ()
  · rename_i hpeek
    split
    · exact .goOn ((formalParameters hs hi sound .field .recordHeader hpeek).mono id False.elim) ()
    · exact .stop (refl s s') ()
  · exact .goOn ((bump ‹_›).trans (typeList hs hi.guided _ _)) ()
  · exact .goOn ((bump ‹_›).trans (typeList hs hi.guided _ _)) ()
  · rename_i hpeek
    split
    · exact .goOn ((bump hpeek).trans (typeList hs hi.guided _ _)) ()
    · exact .stop (refl s s') ()
  · exact .stop (refl s s') ()

/-- A type is read side by side from the word that introduces it. -/
theorem typeDeclaration (flavor : Flavor) {start start' : Nat} (placed : x.Starts s start start')
    (h : s.peek = some kind) :
    Mirrors x x.kept True Never s s' (typeDeclaration inner start flavor s)
      (typeDeclaration inner start' flavor s') := by
  have moved := cursor_lt_bump h
  unfold Grammar.typeDeclaration
  dsimp only
  by_cases hname : s.bump.peek = some .ident
  · have braces (s s' : State) (moved : 0 < s.cursor) : Mirrors x x.kept True Never s s'
        (if s.sees .lbrace then inner.body (flavor = .enum) s
          else s.report (.missing .classBody .typeDeclaration) s.previousSpan)
        (if s'.sees .lbrace then inner.body (flavor = .enum) s'
          else s'.report (.missing .classBody .typeDeclaration) s'.previousSpan) :=
      ifSeesOr x.guide_kept (hi.body _ s s') (reportBefore x.guide_kept moved fun _ => rfl)
        fun _ => .inl (reported_report ..)
    rw [identifier?_of_peek hname]
    have header := typeHeader hs hi sound flavor
      ((s.bump.advance 1).openDeclaration flavor (identifierAt s.bump.tokens s.bump.cursor) start).2
      ((s'.bump.advance 1).openDeclaration flavor (identifierAt s'.bump.tokens s'.bump.cursor)
        start').2
    have behind := Nat.lt_of_lt_of_le (Nat.succ_pos s.bump.cursor) header.grows.le
    have rest := header.chain (braces _ _ behind) fun ended =>
      .inl (reported_ifSees ended (reported_report ..))
    refine behindBump h (lookAt x.guide_kept (declaration flavor
      (fun _ => placed.later (Nat.le_of_lt moved)) hname (rest.mono (fun _ => trivial) id)
      False.elim)
      (fun ended => absurd ended (by simp [Ended, hname])) fun _ looks => ?_)
    rw [identifier?_of_peek (looks.peek.trans hname)]
    rfl
  · -- The word is reported, and no name is looked for any more.
    have later := Nat.zero_lt_of_lt moved
    have told : Mirrors x x.kept True Ended s.bump s'.bump
        (s.bump.report (.expected .identifier s.bump.previousText) s.bump.previousSpan)
        (s'.bump.report (.expected .identifier s'.bump.previousText) s'.bump.previousSpan) :=
      reportBefore x.guide_kept later fun tandem => by rw [tandem.previousText later]
    have rest := ifSees (x := x) (s := s.bump.report (.expected .identifier s.bump.previousText)
      s.bump.previousSpan) x.guide_kept
      (fun h => (hi.body (flavor = .enum) _ _ h).mono id False.elim)
      (refl _ (s'.bump.report (.expected .identifier s'.bump.previousText) s'.bump.previousSpan))
    have reported := (reported_report (.expected .identifier s.bump.previousText)
      s.bump.previousSpan).grows rest.grows
    rw [identifier?_of_ne hname, ← previousText_bump h, ← previousSpan_bump h]
    refine of_grows ((Grows.bump s).trans (told.trans rest).grows) fun tandem => ?_
    rw [← previousText_bump (tandem.peek h), ← previousSpan_bump (tandem.peek h)]
    refine behindBump h (lookAt x.guide_kept ((told.trans rest).of_reported reported)
      (fun _ => .inl reported) fun _ looks => ?_)
    rw [identifier?_of_ne (looks.peek ▸ hname)]

/-- A method is read side by side from its name on. -/
theorem methodRest (flavor : Flavor) {start start' : Nat} (placed : x.Starts s start start')
    (hname : s.peek = some .ident) :
    Mirrors x x.kept True Never s s'
      (methodRest inner start flavor (identifierAt s.tokens s.cursor) (s.advance 1))
      (methodRest inner start' flavor (identifierAt s'.tokens s'.cursor) (s'.advance 1)) := by
  have parameters (s s' : State) : Mirrors x x.kept True Ended s s'
      (if s.sees .lparen then
        Grammar.formalParameters inner .parameter .methodDeclaration s else s)
      (if s'.sees .lparen then
        Grammar.formalParameters inner .parameter .methodDeclaration s' else s') :=
    ifSees x.guide_kept (fun h => (formalParameters hs hi sound .parameter .methodDeclaration
      h).mono id False.elim) (refl s s')
  have thrown (s s' : State) : Mirrors x x.kept True Ended s s'
      (if s.sees (.keyword .throws) then Grammar.typeList inner s.bump else s)
      (if s'.sees (.keyword .throws) then Grammar.typeList inner s'.bump else s') :=
    ifSees x.guide_kept (fun h => behindBump h (typeList hs hi.guided _ _)) (refl s s')
  have value (s s' : State) : Mirrors x x.kept True Ended s s'
      (if s.sees (.keyword .default) then inner.expression [] s.bump else s)
      (if s'.sees (.keyword .default) then inner.expression [] s'.bump else s') :=
    ifSees x.guide_kept (behindWord hi []) (refl s s')
  have braces (s s' : State) (moved : 0 < s.cursor) : Mirrors x x.kept True Never s s'
      (if s.sees .lbrace then inner.block s else s.expectSemicolon .methodDeclaration)
      (if s'.sees .lbrace then inner.block s' else s'.expectSemicolon .methodDeclaration) :=
    ifSeesOr x.guide_kept (hi.block s s') (expect .semi .semicolon .methodDeclaration moved)
      fun ended => .inl (reported_ifSees ended (reported_report ..))
  have head := (parameters
    ((s.advance 1).openDeclaration flavor (identifierAt s.tokens s.cursor) start).2
    ((s'.advance 1).openDeclaration flavor (identifierAt s'.tokens s'.cursor) start').2).trans
    ((skipDims x.guide_kept _ _).trans ((thrown _ _).trans (value _ _)))
  have moved := Nat.lt_of_lt_of_le (Nat.succ_pos s.cursor) head.grows.le
  have rest := (head.chain (braces _ _ moved) fun ended =>
    .inl (reported_ifSees ended (reported_ifSees ended (reported_report ..)))).mono
    (fun _ => trivial) id
  exact declaration flavor (fun _ => placed) hname rest False.elim

theorem typedMember {start start' : Nat} (placed : x.Starts s start start') (moved : 0 < s.cursor) :
    Mirrors x x.kept True Never s s' (typedMember inner start s) (typedMember inner start' s') := by
  unfold Grammar.typedMember
  by_cases hname : s.peek = some .ident
  · rw [identifier?_of_peek hname]
    dsimp only
    by_cases hopen : s.seesAt 1 .lparen
    · rw [if_pos hopen]
      refine lookAt x.guide_kept (methodRest hs hi sound .method placed hname)
        (fun ended => absurd ended (by simp [Ended, hname])) fun _ looks => ?_
      rw [identifier?_of_peek (looks.peek.trans hname)]
      exact (if_pos (((looks.behind hname rfl).2.1 .lparen).trans hopen)).symm
    · rw [if_neg hopen]
      refine lookAt x.guide_kept ((declarators hs hi .field s s').thenExpect .semi .semicolon
        .fieldDeclaration moved) (fun ended => absurd ended (by simp [Ended, hname]))
        fun _ looks => ?_
      rw [identifier?_of_peek (looks.peek.trans hname)]
      exact (if_neg ((looks.behind hname rfl).2.1 .lparen ▸ hopen)).symm
  · have rest := (Mirrors.missingDeclaratorId (x := x) (s := s) moved).trans
      (eat _ s'.missingDeclaratorId .semi)
    have reported : Reported s (s.missingDeclaratorId.eat .semi) :=
      (reported_report ..).grows (.eat _ .semi)
    rw [identifier?_of_ne hname]
    refine lookAt x.guide_kept (rest.of_reported reported) (fun _ => .inl reported)
      fun _ looks => ?_
    rw [identifier?_of_ne (looks.peek ▸ hname)]

theorem fieldOrMethod {start start' : Nat} (placed : x.Starts s start start') :
    Mirrors x x.kept True (fun _ => Ended s) s s' (fieldOrMethod inner start s)
      (fieldOrMethod inner start' s') := by
  rw [fieldOrMethod_eq, fieldOrMethod_eq]
  by_cases hconstructor : seesConstructor s
  · have hname := sees_iff.1 (Bool.and_eq_true_iff.1 hconstructor).1
    rw [if_pos hconstructor]
    refine lookAt x.guide_kept
      ((methodRest hs hi sound .constructor placed hname).mono id False.elim) .inr fun _ looks => ?_
    rw [if_pos (looks.seesConstructor.trans hconstructor)]
  · rw [if_neg hconstructor]
    refine lookAt x.guide_kept ?_ .inr
      fun _ looks => (if_neg (looks.seesConstructor ▸ hconstructor)).symm
    have typed := typeName hs hi.guided s s'
    obtain ⟨onward, taken⟩ := Onward.typeName hs s
    cases found : (Grammar.typeName inner s).1 with
    | true =>
      rw [found] at typed
      refine ((typed.chain (typedMember hs hi sound (placed.later onward.le)
        (Nat.zero_lt_of_lt (taken found))) fun ended => .inl (reported_typedMember ended)).resolve
        fun both => ?_).mono (fun _ => trivial) False.elim
      rw [both.1]
      rfl
    | false =>
      rw [found] at typed
      have stray := junkIfAny (x := x) (Grammar.typeName inner s).2 (Grammar.typeName inner s').2
      have unfinished : Unfinished s (Grammar.typeName inner s).2 := by
        rw [snd_typeName found]
        exact .typeAnnotations (fun stops s => (hi.expression stops s s).grows) s
      refine of_unfinished unfinished onward stray.grows
        (((typed.chain stray .inr).resolve fun both => ?_).mono (fun _ => trivial) id)
      rw [both.1]
      rfl

/-- What follows the modifiers of a member is read side by side. -/
theorem memberAt {start start' : Nat} (before before' : Nat) (placed : x.Starts s start start')
    (unmodified : seesModifier s = false) (hpeek : s.peek = some kind) :
    Mirrors x x.kept True Never s s' (memberAt inner start before s)
      (memberAt inner start' before' s') := by
  have seen (ended : Ended s) : False := by simp [Ended, hpeek] at ended
  cases hflavor : typeFlavor? s with
  | some flavor =>
    rw [Grammar.memberAt, hflavor]
    refine lookAt x.guide_kept (typeDeclaration hs hi sound flavor placed hpeek)
      (fun ended => (seen ended).elim) fun _ looks => ?_
    rw [Grammar.memberAt, looks.typeFlavor?, hflavor]
  | none =>
    by_cases hbrace : kind = .lbrace
    · subst hbrace
      rw [Grammar.memberAt, hflavor, hpeek]
      refine lookAt x.guide_kept (hi.block s s' hpeek) (fun ended => (seen ended).elim)
        fun _ looks => ?_
      rw [Grammar.memberAt, looks.typeFlavor?, hflavor, looks.peek, hpeek]
    by_cases hsign : kind = .atSign
    · subst hsign
      -- The sign starts no annotation, so an annotation type follows.
      have hword : s.seesAt 1 (.keyword .interface) := by
        have := (Bool.or_eq_false_iff.1 unmodified).1
        simpa [seesAnnotationUse, State.sees, hpeek] using this
      have hbump : s.bump.peek = some (.keyword .interface) := by
        rw [bump_eq hpeek, State.peek, peekAt_advance]
        exact seesAt_iff.1 hword
      have here : Grammar.memberAt inner start before s =
          Grammar.typeDeclaration inner start .annotationType s.bump := by
        rw [Grammar.memberAt, hflavor, hpeek]
        exact if_pos hword
      rw [here]
      refine lookAt x.guide_kept (behindBump hpeek (typeDeclaration hs hi sound .annotationType
        (placed.later (cursor_le_bump s)) hbump)) (fun ended => (seen ended).elim) fun _ looks => ?_
      rw [Grammar.memberAt, looks.typeFlavor?, hflavor, looks.peek, hpeek]
      exact (if_pos (((looks.behind hpeek rfl).2.1 _).trans hword)).symm
    by_cases hlt : kind = .lt
    · subst hlt
      have arguments : Mirrors x x.kept True Ended s s' _ _ := typeArguments hs hi.guided hpeek
      have rest : Mirrors x x.kept True _ _ (Grammar.typeArguments inner s') _ _ :=
        fieldOrMethod hs hi sound (placed.later arguments.grows.le)
      have unfinished :=
        Unfinished.typeArguments (fun stops s => (hi.expression stops s s).grows) hpeek
      rw [Grammar.memberAt, hflavor, hpeek]
      refine lookAt x.guide_kept ((of_unfinished unfinished ((Onward.bump s).trans
        (.typeArguments hs s)) rest.grows (arguments.chain rest .inr)).mono (fun _ => trivial) seen)
        (fun ended => (seen ended).elim) fun _ looks => ?_
      rw [Grammar.memberAt, looks.typeFlavor?, hflavor, looks.peek, hpeek]
    · have other : kind ≠ .lbrace ∧ kind ≠ .atSign ∧ kind ≠ .lt := ⟨hbrace, hsign, hlt⟩
      rw [memberAt_eq inner _ _ hflavor hpeek other]
      refine lookAt x.guide_kept ((fieldOrMethod hs hi sound placed).mono id seen)
        (fun ended => (seen ended).elim) fun _ looks => ?_
      rw [memberAt_eq inner _ _ (looks.typeFlavor?.trans hflavor) (looks.peek.trans hpeek) other]

/-- A member that starts at a token is read side by side. -/
theorem member (h : s.peek = some kind) :
    Mirrors x x.kept True Never s s' (member inner s) (member inner s') := by
  refine of_grows (Reads.member sound s).grows fun tandem => ?_
  have modifiers := skipModifiers hs hi.guided s s'
  have placed := (tandem.starts h).later modifiers.grows.le
  have moved (ended : Ended (Grammar.skipModifiers inner s)) :
      s.cursor < (Grammar.skipModifiers inner s).cursor := by
    have := lt_size_of_peek h
    have := peek_eq_none_iff.1 ended
    rw [modifiers.grows.tokens] at this
    omega
  have unmodified : seesModifier (Grammar.skipModifiers inner s) = false :=
    whileSeen_exit (modifiers_advance hs) s
  rw [member_eq, member_eq]
  generalize Grammar.skipModifiers inner s = t at *
  generalize Grammar.skipModifiers inner s' = t' at *
  have stray (ended : Ended t) : Grammar.memberAt inner s.currentStart s.cursor t =
      t.report (.strayToken t.previousText) t.previousSpan := by
    simp only [Grammar.memberAt, typeFlavor?_of_ended ended, show t.peek = none from ended,
      if_pos (moved ended)]
  refine (modifiers.chain ?_ fun ended => .inl (stray ended ▸ reported_report ..)).mono And.right id
  cases hpeek : t.peek with
  | some kind => exact memberAt hs hi sound _ _ placed unmodified hpeek
  | none =>
    have later := Nat.zero_lt_of_lt (moved hpeek)
    have told : Mirrors x x.kept True Never t t'
        (t.report (.strayToken t.previousText) t.previousSpan)
        (t'.report (.strayToken t'.previousText) t'.previousSpan) :=
      reportBefore x.guide_kept later fun behind => by rw [behind.previousText later]
    rw [stray hpeek]
    refine lookAt x.guide_kept told (fun _ => .inl (reported_report ..)) fun behind looks => ?_
    have := tandem.cursor
    have := behind.cursor
    have := moved hpeek
    simp only [Grammar.memberAt, looks.typeFlavor?, typeFlavor?_of_ended hpeek, looks.peek, hpeek]
    rw [if_pos (by omega)]

omit sound

theorem enumConstants (s s' : State) :
    Mirrors x x.kept True Ended s s' (enumConstants inner s) (enumConstants inner s') := by
  refine .trans (repeatWhile (constantTurn_advances hs) (fun _ s s' => ?_) () s s') (eat _ _ .semi)
  refine .behind (annotations hs hi.guided s s') (.look (f := constantAt inner) x.guide_kept ?_)
  generalize Grammar.whileSeen (·.sees .atSign) (Grammar.annotationUse inner) s = t
  intro t' looks
  unfold constantAt
  by_cases hname : t.peek = some .ident
  · have hname' := looks.peek.trans hname
    rw [identifier?_of_peek hname, identifier?_of_peek hname']
    dsimp only
    rw [start_of_identifier? (identifier?_of_peek hname),
      start_of_identifier? (identifier?_of_peek hname')]
    exact .behind (declaration .enumConstant (fun tandem => tandem.starts hname) hname
      ((parenthesizedIfSeen hi.guided .enumConstant _ _).trans (bodyIfSeen hi _ _))
      (·.closeDeclaration _))
      (.separator x.guide_kept .comma rfl true _ _)
  · rw [identifier?_of_ne hname, identifier?_of_ne (looks.peek ▸ hname)]
    exact .stop (refl t t') ()

include sound

/-- The body of a type is read side by side. -/
theorem body (isEnum : Bool) (h : s.peek = some .lbrace) :
    Mirrors x x.kept True Never s s' (body inner isEnum s) (body inner isEnum s') := by
  have constants : Mirrors x x.kept True Ended s.bump s'.bump
      (if isEnum then Grammar.enumConstants inner s.bump else s.bump)
      (if isEnum then Grammar.enumConstants inner s'.bump else s'.bump) := by
    split
    · exact enumConstants hs hi _ _
    · exact refl _ _
  refine closing (bodyTurn_advances hs) (fun _ s s' moved looks => ?_) (fun _ t ended => ?_)
    (fun _ => id) (behindBump h constants)
    (Nat.le_trans (Nat.zero_lt_of_lt (cursor_lt_bump h)) constants.grows.le)
  · unfold bodyTurn
    rw [looks.peek]
    split
    · exact .stop (reportBefore x.guide_kept moved fun _ => rfl) ()
    · exact .stop (bump ‹_›) ()
    · exact .goOn (bump ‹_›) ()
    · rename_i hpeek
      exact .goOn ((guarded hpeek (member hs hi sound hpeek)).mono id False.elim) ()
  · rw [bodyTurn, show t.peek = none from ended]
    exact reported_report ..

end Mirrors

end JavaLens.Grammar
