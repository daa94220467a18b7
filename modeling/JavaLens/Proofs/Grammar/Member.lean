import JavaLens.Grammar.Member
import JavaLens.Proofs.Grammar.Expression

/-!
# Members are readings

A declaration covers everything from where its first modifier stands, so each part of a member is a
reading from that place on.
-/

namespace JavaLens.Grammar

variable {n : Nat} {s t u : State} {inner : Inner} {name : Identifier} {kind : Token.Kind}

theorem start_of_identifier? (h : s.identifier? = some (name, t)) :
    name.span.start = s.currentStart := by
  obtain ⟨hpeek, rfl, _⟩ := identifier?_eq_some_iff.1 h
  rw [currentStart_eq (lt_size_of_peek hpeek)]
  rfl

namespace Reads

/-- A name being declared, with its dimensions and initial value. -/
theorem declarator (hi : inner.Sound n) (flavor : Flavor) (hname : s.identifier? = some (name, u)) :
    let opened := u.openDeclaration flavor name s.currentStart
    let s' := Grammar.skipDims opened.2
    Reads n s ((if s'.sees .assign then inner.expression [.comma] s'.bump else s').closeDeclaration
      opened.1) := by
  refine declaration flavor (refl n s) hname ((skipDims n _).trans ?_)
  exact ifSees (fun h => (bump h rfl).trans (hi.expression [.comma] _)) (refl n _)

theorem declarators (hi : inner.Sound n) (flavor : Flavor) (s : State) :
    Reads n s (declarators inner flavor s) := by
  refine repeatWhile (fun _ s => ?_) () s
  unfold declaratorTurn
  split
  · exact refl n s
  · rename_i name u hname
    rw [start_of_identifier? hname]
    exact (declarator hi flavor hname).trans (separator rfl)

theorem formalParameter (hi : inner.Sound n) (flavor : Flavor) (s : State) :
    Reads n s (formalParameter inner flavor s) := by
  have typed := (skipVariableModifiers hi s).trans (typeName hi _).toReads
  unfold Grammar.formalParameter
  dsimp only
  split
  · rename_i hnone
    exact typed.trans (junk (peek_of_typeName hi (by simpa using hnone)))
  have dots := typed.trans (eat (show isPlain .ellipsis from rfl))
  split
  · rename_i h
    exact dots.trans (bump (sees_iff.1 h) rfl)
  split
  · exact dots.trans (missingDeclaratorId n _)
  · rename_i hname
    exact declaration flavor dots hname (skipDims n _)

theorem formalParameters (hi : inner.Sound n) (flavor : Flavor) (construct : Construct)
    (h : s.peek = some .lparen) : Reads n s (formalParameters inner flavor construct s) := by
  refine (bump h rfl).trans (repeatWhile (fun _ s => ?_) () _)
  unfold parameterTurn
  split
  · rename_i hpeek
    exact bump hpeek rfl
  case h_6 hpeek => exact bump hpeek rfl
  case h_7 => exact formalParameter hi flavor s
  all_goals exact expectCloseParen construct

theorem typeHeader (hi : inner.Sound n) (flavor : Flavor) (s : State) :
    Reads n s (typeHeader inner flavor s) := by
  refine repeatWhile (fun _ s => ?_) () s
  unfold headerTurn
  split
  · rename_i hpeek
    exact typeArguments hi hpeek
  · rename_i hpeek
    split
    · exact formalParameters hi .field .recordHeader hpeek
    · exact refl n s
  · rename_i hpeek
    exact (bump hpeek rfl).trans (typeList hi _)
  · rename_i hpeek
    exact (bump hpeek rfl).trans (typeList hi _)
  · split
    · rename_i hword
      exact (bumpWord hword (by decide)).trans (typeList hi _)
    · exact refl n s
  · exact refl n s

/-- A type is read from where its modifiers start. -/
theorem typeDeclaration (hi : inner.Sound n) (flavor : Flavor) (modifiers : Reads n s t)
    (hword : t.peek = some kind) (word : Reads n t t.bump) :
    Takes n s t (typeDeclaration inner s.currentStart flavor t) := by
  have moved := cursor_lt_bump hword
  unfold Grammar.typeDeclaration
  dsimp only
  split
  · rw [← previousSpan_bump hword]
    have told : Reads n t.bump
        (t.bump.report (.expected .identifier t.currentText) t.bump.previousSpan) := report rfl
    have rest := told.trans (ifSees (hi.body (flavor = .enum) _) (refl n _))
    exact .of_lt (modifiers.trans (word.trans rest)) (Nat.lt_of_lt_of_le moved rest.cursor_le)
  · rename_i name u hname
    have braces (s : State) : Reads n s (if s.sees .lbrace then inner.body (flavor = .enum) s
        else s.report (.missing .classBody .typeDeclaration) s.previousSpan) :=
      ifSees (hi.body _ s) (report rfl)
    have rest := (typeHeader hi flavor (u.openDeclaration flavor name s.currentStart).2).trans
      (braces _)
    exact .of_lt (declaration flavor (modifiers.trans word) hname rest)
      (Nat.lt_trans moved (cursor_lt_declaration hname rest))

/-- A method is read from where its modifiers start. -/
theorem methodRest (hi : inner.Sound n) (flavor : Flavor) (head : Reads n s t)
    (hname : t.identifier? = some (name, u)) :
    Takes n s t (methodRest inner s.currentStart flavor name u) := by
  have parameters (s : State) :=
    ifSees (formalParameters hi .parameter .methodDeclaration) (refl n s)
  have thrown (s : State) := ifSees
    (fun h : s.peek = some (.keyword .throws) => (bump h rfl).trans (typeList hi _)) (refl n s)
  have value (s : State) := ifSees
    (fun h : s.peek = some (.keyword .default) => (bump h rfl).trans (hi.expression [] _))
    (refl n s)
  have rest := (parameters (u.openDeclaration flavor name s.currentStart).2).trans
    ((skipDims n _).trans ((thrown _).trans ((value _).trans
      (ifSees (hi.block _) (expectSemicolon .methodDeclaration)))))
  exact .of_lt (declaration flavor head hname rest) (cursor_lt_declaration hname rest)

theorem typedMember (hi : inner.Sound n) (head : Reads n s t) :
    Reads n s (typedMember inner s.currentStart t) ∧
      t.cursor ≤ (Grammar.typedMember inner s.currentStart t).cursor := by
  unfold Grammar.typedMember
  split
  · have rest := (missingDeclaratorId n t).trans (eat (show isPlain .semi from rfl))
    exact ⟨head.trans rest, rest.cursor_le⟩
  · rename_i hname
    split
    · have method := methodRest hi .method head hname
      exact ⟨method.toReads, method.le⟩
    · have rest := (declarators hi .field t).trans (expectSemicolon .fieldDeclaration)
      exact ⟨head.trans rest, rest.cursor_le⟩

/-- A field, method or constructor is read from where its modifiers start. -/
theorem fieldOrMethod (hi : inner.Sound n) (head : Reads n s t) :
    Takes n s t (fieldOrMethod inner s.currentStart t) := by
  unfold Grammar.fieldOrMethod
  split
  · rename_i hname _
    exact methodRest hi .constructor head hname
  · rename_i hname _
    exact methodRest hi .constructor head hname
  · have typed := typeName hi t
    dsimp only
    split
    · obtain ⟨rest, hle⟩ := typedMember hi (head.trans typed.toReads)
      exact ⟨rest, Nat.le_trans typed.le hle, fun h => Nat.lt_of_lt_of_le (typed.taken h) hle⟩
    · rename_i missing
      have hpeek := peek_of_typeName hi (by simpa using missing)
      have whole := typed.trans (junk hpeek)
      exact ⟨head.trans whole.toReads, whole.le, whole.taken⟩

end Reads

theorem peek_of_typeFlavor? {flavor : Flavor} (h : typeFlavor? s = some flavor) :
    ∃ kind, s.peek = some kind ∧ Reads n s s.bump := by
  unfold typeFlavor? at h
  split at h
  case h_4 =>
    have word : s.seesWord 0 "record" := by
      simp only [Option.ite_none_right_eq_some, seesRecord, Bool.and_eq_true] at h
      exact h.1.1.1
    exact ⟨.ident, peekAt_of_spells word, .bumpWord word (by decide)⟩
  all_goals
    rename_i hpeek
    exact ⟨_, hpeek, .bump hpeek rfl⟩

namespace Reads

/-- A member is read, and an identifier it starts with is taken. -/
theorem member (hi : inner.Sound n) (s : State) : Takes n s s (member inner s) := by
  have modifiers := skipModifiers hi s
  unfold Grammar.member
  dsimp only
  generalize Grammar.skipModifiers inner s = t at modifiers
  refine .from_start ?_ modifiers
  split
  · rename_i flavor hflavor
    obtain ⟨kind, hpeek, word⟩ := peek_of_typeFlavor? hflavor
    exact typeDeclaration hi flavor modifiers hpeek word
  · rename_i hpeek
    refine .of_peek_ne modifiers ?_ (by simp [hpeek])
    split
    · exact report rfl
    · exact refl n t
  · rename_i hpeek
    exact .of_peek_ne modifiers (hi.block t hpeek) (by simp [hpeek])
  · rename_i hpeek
    split
    · rename_i hword
      have sign : Reads n t t.bump := bump hpeek rfl
      have hword : t.bump.peek = some (.keyword .interface) := by
        rw [bump_eq hpeek, State.peek, peekAt_advance]
        exact seesAt_iff.1 hword
      have read := typeDeclaration hi .annotationType (modifiers.trans sign) hword (bump hword rfl)
      exact read.from_earlier sign (by simp [hpeek])
    · exact fieldOrMethod hi modifiers
  · rename_i hpeek
    have arguments := typeArguments hi hpeek
    exact (fieldOrMethod hi (modifiers.trans arguments)).from_earlier arguments (by simp [hpeek])
  · exact fieldOrMethod hi modifiers

theorem enumConstants (hi : inner.Sound n) (s : State) : Reads n s (enumConstants inner s) := by
  refine .trans (repeatWhile (fun _ s => ?_) () s) (eat rfl)
  have annotations := whileSeen (n := n) (fun s hs => annotationUse hi (sees_iff.1 hs)) s
  refine annotations.trans ?_
  dsimp only [constantTurn]
  generalize Grammar.whileSeen (·.sees .atSign) (Grammar.annotationUse inner) s = t
  split
  · exact refl n t
  · rename_i name u hname
    rw [start_of_identifier? hname]
    refine (declaration .enumConstant (refl n t) hname ?_).trans (separator rfl)
    exact (parenthesizedIfSeen hi .enumConstant _).trans (bodyIfSeen hi _)

/-- The body of a type is a region whose inside is read one level deeper. -/
theorem body (hi : inner.Sound n) (isEnum : Bool) (h : s.peek = some .lbrace) :
    Reads (n + 1) s (body inner isEnum s) := by
  have constants :
      Reads n s.bump (if isEnum then Grammar.enumConstants inner s.bump else s.bump) := by
    split
    · exact enumConstants hi _
    · exact refl n _
  refine braces .classBody h constants (fun u hpeek => by simp [bodyTurn, hpeek])
    (fun u hpeek => by simp [bodyTurn, hpeek]) (fun u kind hpeek hkind => ?_)
  by_cases hsemi : kind = .semi
  · subst hsemi
    exact ⟨u.bump, by simp [bodyTurn, hpeek], bump hpeek rfl, cursor_lt_bump hpeek⟩
  · have read := member hi u
    exact ⟨Grammar.guarded (Grammar.member inner) u, by simp [bodyTurn, hpeek], .guarded read,
      cursor_lt_guarded read.toReads hpeek⟩

end Reads

end JavaLens.Grammar
