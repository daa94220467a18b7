import JavaLens.Proofs.Program.Types

/-!
# Reading members

What the grammar does at the words of a member: it tells types, fields, methods and constructors
apart by the words ahead, reads just these words, and declares what the member declares. How the
regions of the member are read is assumed here, for regions that nest less deep.

## Main definitions

* `Recovers` — the expressions, blocks and bodies of programs are read.

## Main statements

* `records_member` — a member is read, and declares what it should.
* `records_body` — so is the body of a type.
-/

namespace JavaLens.Program

open Grammar

/-- The words of a block. -/
def blockWords (body : List Statement) : List Word := lbrace :: (statementWords body ++ [rbrace])

/-- The words of the body of a type. -/
def bodyWords (head : Head) (members : List Member) : List Word :=
  lbrace :: (head.constantWords ++ (memberWords members ++ [rbrace]))

theorem TypeDecl.words_mk (modifiers : List Modifier) (head : Head) (members : List Member) :
    (TypeDecl.mk modifiers head members).words = modifierWords modifiers ++ (head.introduction ++
      head.name.word :: (head.componentWords ++ bodyWords head members)) := by
  simp [TypeDecl.words, bodyWords]

/-- The words of the expressions in programs: values, names and assignments. -/
def isOperand (w : Word) : Bool := w.kind = .literal ∨ w.kind = .ident ∨ w.kind = .assign

/-- At a depth, expressions are read, and so are the blocks and bodies of programs that nest at most
`levels` deep. -/
structure Recovers (inner : Inner) (levels depth : Nat) : Prop where
  steady : inner.Steady
  sound : inner.Sound levels
  expression : ∀ (ws : List Word) {s : State} {stops : List Token.Kind} {w : Word}
    {rest : List Word}, s.depth = depth → s.ahead = ws ++ w :: rest →
    (∀ v ∈ ws, isOperand v ∧ v.kind ∉ stops) → w.kind = .semi ∨ w.kind = .rparen →
    Records ws [] s (inner.expression stops s)
  block : ∀ (body : List Statement) {s : State} {rest : List Word}, s.depth = depth →
    nestingOfStatements body < levels → s.ahead = blockWords body ++ rest →
    Records (blockWords body) (declaredByStatements body) s (inner.block s)
  body : ∀ (head : Head) (members : List Member) {s : State} {rest : List Word}, s.depth = depth →
    nestingOfMembers members < levels → s.ahead = bodyWords head members ++ rest →
    Records (bodyWords head members) (head.declaredConstants ++ declaredByMembers members) s
      (inner.body (head.flavor = .enum) s)

variable {inner : Inner} {levels depth : Nat} {s t : State} {w : Word} {ws rest : List Word}
  {x : Name} {parameters : List Parameter} {members : List Member}

/-! ## Expressions and variables -/

/-- Operands are skimmed over up to the token that ends the expression. -/
theorem records_skimWith {block creation choice : State → State} {stops : List Token.Kind}
    (h : Advances (skimTurn block creation choice stops)) (hs : s.ahead = ws ++ w :: rest)
    (operands : ∀ v ∈ ws, isOperand v ∧ v.kind ∉ stops) (hw : w.kind = .semi ∨ w.kind = .rparen) :
    Records ws [] s (skimWith block creation choice stops s) := by
  induction ws generalizing s with
  | nil =>
    refine (Records.refl s).stop h 0 ?_
    rw [skimTurn, peek_of_ahead hs]
    obtain hw | hw := hw <;> simp [hw]
  | cons v ws ih =>
    obtain ⟨⟨operand, inside⟩, operands⟩ := List.forall_mem_cons.1 operands
    have hpeek := peek_of_ahead hs
    obtain ⟨t, hturn, first⟩ : ∃ t, skimTurn block creation choice stops 0 s = .again 0 t ∧
        Records [v] [] s t := by
      simp only [isOperand, decide_eq_true_eq] at operand
      obtain hv | hv | hv := operand <;> rw [hv] at inside
      · exact ⟨s.bump, by simp [skimTurn, hpeek, hv, inside], .bump hs⟩
      · exact ⟨s.reference, by simp [skimTurn, hpeek, hv, inside], .reference hs hv⟩
      · exact ⟨s.bump, by simp [skimTurn, hpeek, hv, inside], .bump hs⟩
    exact first.again h 0 hturn (ih (first.rest_cons hs) operands)

theorem skipDims_of_value {value : Option Literal}
    (h : s.ahead = valueWords value ++ semi :: rest) : skipDims s = s := by
  cases value with
  | none => exact skipDims_of_ahead h (by simp)
  | some value => exact skipDims_of_ahead h (by simp)

/-- The initial value behind a name, if there is one. -/
theorem records_value (hi : Recovers inner levels depth) (hdepth : s.depth = depth)
    (value : Option Literal) (h : s.ahead = valueWords value ++ semi :: rest) :
    Records (valueWords value) [] s
      (if s.sees .assign then inner.expression [.comma] s.bump else s) := by
  cases value with
  | none =>
    rw [if_neg (not_sees_of_ahead h (by simp))]
    exact .refl s
  | some value =>
    have assigned := Records.bump h
    rw [if_pos (sees_head h)]
    exact assigned.trans (hi.expression [value.word] (assigned.depth.trans hdepth)
      (assigned.rest_cons h) (by simp [isOperand]) (.inl rfl))

/-- A name with its initial value is declared. -/
theorem records_declarators (hi : Recovers inner levels depth) (hdepth : s.depth = depth)
    (flavor : Flavor) (value : Option Literal)
    (h : s.ahead = x.word :: (valueWords value ++ semi :: rest)) :
    Records (x.word :: valueWords value) [(flavor, x.text)] s (declarators inner flavor s) := by
  have opened := (Records.refl s).openDeclaration h flavor
  have hopened := opened.rest_cons h
  have noDims := skipDims_of_value hopened
  have valued := opened.trans (records_value hi (opened.depth.trans hdepth) value hopened)
  have closed := valued.trans (.closeDeclaration _ s.nodes.size)
  have hclosed := closed.rest (show s.ahead = _ ++ semi :: rest by simpa using h)
  refine (closed.cast (by simp) rfl).stop (declaratorTurn_advances hi.steady flavor) () ?_
  simp only [declaratorTurn, identifier?_of_ahead h rfl, start_identifierAt h, noDims]
  exact if_neg (not_sees_of_ahead hclosed (by simp))

/-! ## Types -/

theorem records_typeHeader (hi : inner.Steady) (head : Head)
    (h : s.ahead = head.componentWords ++ lbrace :: rest) :
    Records head.componentWords head.declaredComponents s (typeHeader inner head.flavor s) := by
  have ending {flavor : Flavor} {t : State} (ht : t.ahead = lbrace :: rest) :
      Records [] [] t (typeHeader inner flavor t) := by
    refine (Records.refl t).stop (headerTurn_advances hi flavor) () ?_
    rw [headerTurn, peek_of_ahead ht]
  cases head with
  | record name components =>
    have read := records_formalParameters hi .field .recordHeader components h
    refine (read.again (headerTurn_advances hi .record) () ?_ (ending (read.rest h))).cast
      (by simp [Head.componentWords]) (by simp [Head.declaredComponents])
    rw [headerTurn, peek_of_ahead h]
    rfl
  | «class» | interface | annotationType | enum => exact ending h

/-- A type from the word that introduces it is declared from `s` on. -/
theorem records_typeDeclaration (hi : Recovers inner levels depth) (hdepth : s.depth = depth)
    (head : Head) (members : List Member) (hmembers : nestingOfMembers members < levels)
    (before : Records ws [] s t)
    (h : t.ahead =
      w :: head.name.word :: (head.componentWords ++ (bodyWords head members ++ rest))) :
    Records (ws ++ w :: head.name.word :: (head.componentWords ++ bodyWords head members))
      ((head.flavor, head.name.text) ::
        (head.declaredComponents ++ head.declaredConstants ++ declaredByMembers members)) s
      (typeDeclaration inner s.currentStart head.flavor t) := by
  have introduced := before.trans (.bump h)
  have hname := (Records.bump h).rest_cons h
  have opened := introduced.openDeclaration hname head.flavor
  have hopened := opened.rest
    (show s.ahead = _ ++ (head.componentWords ++ (bodyWords head members ++ rest)) by
      rw [before.ahead, h]; simp)
  have headed := records_typeHeader hi.steady head hopened
  have hheaded := headed.rest hopened
  have bodied := hi.body head members (headed.depth.trans (opened.depth.trans hdepth)) hmembers
    hheaded
  have closed := (opened.trans (headed.trans bodied)).trans (.closeDeclaration _ t.bump.nodes.size)
  simp only [typeDeclaration, identifier?_of_ahead hname rfl]
  rw [if_pos (sees_head hheaded)]
  exact closed.cast (by simp) (by simp)

/-- A type is introduced by one word that tells its flavor, or by the sign of an annotation type. -/
theorem typeFlavor?_of_head (head : Head) (h : s.ahead = head.introduction ++
      head.name.word :: (head.componentWords ++ (bodyWords head members ++ rest))) :
    (∃ w, head.introduction = [w] ∧ typeFlavor? s = some head.flavor) ∨
      head.introduction = [atSign, keyword .interface] ∧ head.flavor = .annotationType ∧
        typeFlavor? s = none := by
  cases head with
  | record name components =>
    have record : seesRecord s := by
      simp [seesRecord, seesWord_of_ahead h, State.seesAt, peekAt_eq, h, Head.introduction,
        recordWord, Head.name, Head.componentWords, parameterWords]
    exact .inl ⟨_, rfl, by simp [typeFlavor?, peek_of_ahead h, recordWord, record, Head.flavor]⟩
  | annotationType name =>
    refine .inr ⟨rfl, rfl, ?_⟩
    simp [typeFlavor?, peek_of_ahead h, seesRecord, seesWord_of_ahead h]
  | «class» | interface | enum => exact .inl ⟨_, rfl, by rw [typeFlavor?, peek_of_ahead h]; rfl⟩

theorem seesModifier_of_head (head : Head)
    (h : s.ahead = head.introduction ++ head.name.word :: rest) : seesModifier s = false := by
  cases head with
  | record => exact seesModifier_of_ident h rfl (by decide) (by decide)
  | annotationType =>
    have unused : seesAnnotationUse s = false := by
      simp [seesAnnotationUse, seesAt_one_of_ahead h]
    simp [seesModifier, unused, modifierSize, peek_of_ahead h]
  | «class» | interface | enum => exact seesModifier_of_keyword h

theorem member_of_flavor {flavor : Flavor}
    (h : typeFlavor? (skipModifiers inner s) = some flavor) :
    member inner s = typeDeclaration inner s.currentStart flavor (skipModifiers inner s) := by
  simp only [member, h]

theorem member_of_annotationType (h : (skipModifiers inner s).ahead =
      atSign :: keyword .interface :: rest) (hnone : typeFlavor? (skipModifiers inner s) = none) :
    member inner s =
      typeDeclaration inner s.currentStart .annotationType (skipModifiers inner s).bump := by
  simp [member, hnone, peek_of_ahead h, seesAt_one_of_ahead h]

/-- A type among the members is read, and declares what it should. -/
theorem records_typeMember (hi : Recovers inner levels depth) (hdepth : s.depth = depth)
    (declaration : TypeDecl) (hn : declaration.nesting ≤ levels)
    (h : s.ahead = declaration.words ++ rest) :
    Records declaration.words declaration.declared s (member inner s) := by
  obtain ⟨modifiers, head, members⟩ := declaration
  have hs : s.ahead = modifierWords modifiers ++ (head.introduction ++
      head.name.word :: (head.componentWords ++ (bodyWords head members ++ rest))) := by
    simpa [TypeDecl.words_mk] using h
  have skipped := records_skipModifiers hi.steady modifiers hs fun t ht =>
    seesModifier_of_head head ht
  have ht := skipped.rest hs
  -- The sign of an annotation type is read before the word that `typeDeclaration` starts with.
  obtain ⟨w, hw, hflavor⟩ | ⟨hintroduction, hflavor, hnone⟩ := typeFlavor?_of_head head ht
  · rw [hw] at ht
    rw [member_of_flavor hflavor]
    exact (records_typeDeclaration hi hdepth head members hn skipped ht).cast
      (by simp [TypeDecl.words_mk, hw]) (by simp [TypeDecl.declared])
  · rw [hintroduction] at ht
    have signed := Records.bump ht
    rw [member_of_annotationType ht hnone, ← hflavor]
    exact (records_typeDeclaration hi hdepth head members hn (skipped.trans signed)
      (signed.rest_cons ht)).cast
      (by simp [TypeDecl.words_mk, hintroduction]) (by simp [TypeDecl.declared])

/-! ## Fields, methods and constructors -/

/-- What may stand behind the modifiers of a field or method introduces no type. -/
theorem typeFlavor?_of_result (hw : StartsType w ∨ w = keyword .void) (h : s.ahead = w :: rest) :
    typeFlavor? s = none := by
  have unreserved : w ≠ ⟨.ident, "record"⟩ := by
    obtain (⟨x, rfl⟩ | ⟨k, _, rfl⟩) | rfl := hw
    · exact x.word_ne (by decide)
    · simp [keyword]
    · simp [keyword]
  have hrecord : seesRecord s = false := by simp [seesRecord, seesWord_of_ahead h, unreserved]
  rw [typeFlavor?, peek_of_ahead h, hrecord]
  obtain (⟨x, rfl⟩ | ⟨k, hk, rfl⟩) | rfl := hw
  · rfl
  · cases k <;> simp_all [Keyword.isPrimitive]
  · rfl

theorem member_of_fieldOrMethod (h : (skipModifiers inner s).ahead = w :: rest)
    (hw : StartsType w ∨ w = keyword .void) :
    member inner s = fieldOrMethod inner s.currentStart (skipModifiers inner s) := by
  simp only [member, typeFlavor?_of_result hw h, peek_of_ahead h]
  obtain (⟨x, rfl⟩ | ⟨k, hk, rfl⟩) | rfl := hw <;> rfl

/-- A type in front of a name that is being declared is no constructor. -/
theorem fieldOrMethod_of_result (hi : inner.Steady) (start : Nat) (result : Option TypeExpr)
    (h : s.ahead = resultWords result ++ x.word :: rest) :
    fieldOrMethod inner start s = typedMember inner start (typeName inner s).2 := by
  have found := (typeName_of_result hi result h).1
  cases result with
  | none =>
    simp [fieldOrMethod, identifier?_eq_none h (by simp), found]
  | some type =>
    obtain ⟨w, v, rest', hwords, hw, hv⟩ := type.exists_second x.word rest (.inl rfl)
    have hs : s.ahead = w :: v :: rest' := h.trans hwords
    have hpeek : s.peekAt 1 = some v.kind := by simp [peekAt_eq, hs]
    -- A constructor would have a parenthesis or a brace as its second word.
    obtain hv | hv | hv := hv <;> simp [fieldOrMethod, hpeek, hv, found]

/-- The modifiers and the type of a field or method are read, and its name is to come. -/
theorem member_of_result (hi : inner.Steady) (modifiers : List Modifier) (result : Option TypeExpr)
    (h : s.ahead = modifierWords modifiers ++ (resultWords result ++ x.word :: rest)) :
    ∃ t, Records (modifierWords modifiers ++ resultWords result) [] s t ∧
      member inner s = typedMember inner s.currentStart t := by
  obtain ⟨w, ws, hwords, hw⟩ : ∃ w ws, resultWords result = w :: ws ∧
      (StartsType w ∨ w = keyword .void) := by
    cases result with
    | none => exact ⟨_, _, rfl, .inr rfl⟩
    | some type =>
      obtain ⟨w, ws, hwords, hw⟩ := type.exists_head
      exact ⟨w, ws, hwords, .inl hw⟩
  have skipped := records_skipModifiers hi modifiers h fun t ht => by
    rw [hwords, List.cons_append] at ht
    obtain hw | rfl := hw
    · exact hw.seesModifier ht
    · exact seesModifier_of_keyword ht
  have ht := skipped.rest h
  refine ⟨_, skipped.trans (typeName_of_result hi result ht).2, ?_⟩
  rw [← fieldOrMethod_of_result hi s.currentStart result ht]
  rw [hwords, List.cons_append] at ht
  exact member_of_fieldOrMethod ht hw

/-- A method or constructor from its name on is declared from `s` on. -/
theorem records_methodRest {ws' : List Word} {ds : List (Flavor × String)} (hi : inner.Steady)
    (flavor : Flavor) (parameters : List Parameter) (before : Records ws [] s t)
    (h : t.ahead = x.word :: (parameterWords parameters ++ w :: rest))
    (hw : w.kind = .lbrace ∨ w.kind = .semi)
    (ending : ∀ u : State, u.depth = s.depth → u.ahead = w :: rest → Records ws' ds u
      (if u.sees .lbrace then inner.block u else u.expectSemicolon .methodDeclaration)) :
    Records (ws ++ x.word :: (parameterWords parameters ++ ws'))
      ((flavor, x.text) :: (declaredParameters .parameter parameters ++ ds)) s
      (methodRest inner s.currentStart flavor (identifierAt t.tokens t.cursor) (t.advance 1)) := by
  have opened := before.openDeclaration h flavor
  have hopened := opened.rest
    (show s.ahead = _ ++ (parameterWords parameters ++ w :: rest) by rw [before.ahead, h]; simp)
  have read := records_formalParameters hi .parameter .methodDeclaration parameters hopened
  have hread := read.rest hopened
  have ended := ending _ (read.depth.trans opened.depth) hread
  have other {kind : Token.Kind} (h : kind ≠ .lbrace ∧ kind ≠ .semi) : w.kind ≠ kind := by
    obtain hw | hw := hw
    · exact hw ▸ h.1.symm
    · exact hw ▸ h.2.symm
  have closed := (opened.trans (read.trans ended)).trans
    (.closeDeclaration _ (t.advance 1).nodes.size)
  simp only [methodRest]
  rw [if_pos (sees_head hopened), skipDims_of_ahead hread (other (by simp)),
    if_neg (not_sees_of_ahead hread (other (by simp))),
    if_neg (not_sees_of_ahead hread (other (by simp)))]
  exact closed.cast (by simp) (by simp)

/-- The body of a method or constructor. -/
theorem records_methodBody (hi : Recovers inner levels depth) (hdepth : s.depth = depth)
    (body : List Statement) (hn : nestingOfStatements body < levels)
    (h : s.ahead = blockWords body ++ rest) :
    Records (blockWords body) (declaredByStatements body) s
      (if s.sees .lbrace then inner.block s else s.expectSemicolon .methodDeclaration) := by
  rw [if_pos (sees_head h)]
  exact hi.block body hdepth hn h

/-- A method from its name on. -/
theorem typedMember_of_method (start : Nat)
    (h : s.ahead = x.word :: (parameterWords parameters ++ rest)) :
    typedMember inner start s =
      methodRest inner start .method (identifierAt s.tokens s.cursor) (s.advance 1) := by
  rw [typedMember, identifier?_of_ahead h rfl]
  exact if_pos (by rw [seesAt_one_of_ahead h]; rfl)

/-- A field from its name on. -/
theorem records_field (hi : Recovers inner levels depth) (hdepth : s.depth = depth) (start : Nat)
    (value : Option Literal) (h : s.ahead = x.word :: (valueWords value ++ semi :: rest)) :
    Records (x.word :: (valueWords value ++ [semi])) [(.field, x.text)] s
      (typedMember inner start s) := by
  have noMethod : s.seesAt 1 .lparen = false := by
    cases value with
    | none => exact seesAt_one_of_ahead h .lparen
    | some => exact seesAt_one_of_ahead h .lparen
  have declared := records_declarators hi hdepth .field value h
  have ended := declared.trans (.expect (declared.rest h) .semicolon .fieldDeclaration)
  rw [typedMember, identifier?_of_ahead h rfl]
  simp only [noMethod, Bool.false_eq_true, if_false]
  exact ended.cast (by simp) rfl

theorem records_constructor (hi : Recovers inner levels depth) (hdepth : s.depth = depth)
    (modifiers : List Modifier) (parameters : List Parameter) (body : List Statement)
    (hn : nestingOfStatements body < levels)
    (h : s.ahead = modifierWords modifiers ++
      x.word :: (parameterWords parameters ++ (blockWords body ++ rest))) :
    Records (modifierWords modifiers ++ x.word :: (parameterWords parameters ++ blockWords body))
      ((.constructor, x.text) ::
        (declaredParameters .parameter parameters ++ declaredByStatements body)) s
      (member inner s) := by
  have skipped := records_skipModifiers hi.steady modifiers h fun t ht => seesModifier_of_name ht
  have ht := skipped.rest h
  have hpeek : (skipModifiers inner s).peekAt 1 = some .lparen := by
    rw [peekAt_eq, ht]
    rfl
  rw [member_of_fieldOrMethod ht (.inl (.inl ⟨x, rfl⟩)), fieldOrMethod, hpeek,
    identifier?_of_ahead ht rfl]
  exact records_methodRest hi.steady .constructor parameters skipped ht (.inl rfl)
    fun u hu hahead => records_methodBody hi (hu.trans hdepth) body hn hahead

/-- A member is read, and declares what it should. -/
theorem records_member (hi : Recovers inner levels depth) (hdepth : s.depth = depth) (m : Member)
    (hn : m.nesting ≤ levels) (h : s.ahead = m.words ++ rest) :
    Records m.words m.declared s (member inner s) := by
  cases m with
  | type declaration => exact records_typeMember hi hdepth declaration hn h
  | field modifiers type name value =>
    have hs : s.ahead = modifierWords modifiers ++ (resultWords (some type) ++
        name.word :: (valueWords value ++ semi :: rest)) := by
      simpa [Member.words, resultWords] using h
    obtain ⟨t, before, hmember⟩ := member_of_result hi.steady modifiers (some type) hs
    have ht := before.rest (hs.trans (List.append_assoc ..).symm)
    rw [hmember]
    exact (before.trans (records_field hi (before.depth.trans hdepth) _ value ht)).cast
      (by simp [Member.words, resultWords]) rfl
  | method modifiers result name parameters body =>
    have hs : s.ahead = modifierWords modifiers ++ (resultWords result ++
        name.word :: (parameterWords parameters ++ (blockWords body ++ rest))) := by
      simpa [Member.words, blockWords] using h
    obtain ⟨t, before, hmember⟩ := member_of_result hi.steady modifiers result hs
    have ht := before.rest (hs.trans (List.append_assoc ..).symm)
    rw [hmember, typedMember_of_method _ ht]
    exact (records_methodRest hi.steady .method parameters before ht (.inl rfl) fun u hu hahead =>
      records_methodBody hi (hu.trans hdepth) body hn hahead).cast
      (by simp [Member.words, blockWords]) (by simp [Member.declared])
  | abstractMethod modifiers result name parameters =>
    have hs : s.ahead = modifierWords modifiers ++ (resultWords result ++
        name.word :: (parameterWords parameters ++ semi :: rest)) := by
      simpa [Member.words] using h
    obtain ⟨t, before, hmember⟩ := member_of_result hi.steady modifiers result hs
    have ht := before.rest (hs.trans (List.append_assoc ..).symm)
    have ending (u : State) (hu : u.ahead = semi :: rest) : Records [semi] [] u
        (if u.sees .lbrace then inner.block u else u.expectSemicolon .methodDeclaration) := by
      rw [if_neg (not_sees_of_ahead hu (by simp))]
      exact .expect hu ..
    rw [hmember, typedMember_of_method _ ht]
    exact (records_methodRest hi.steady .method parameters before ht (.inr rfl) fun u _ hahead =>
      ending u hahead).cast (by simp [Member.words]) (by simp [Member.declared])
  | constructor modifiers name parameters body =>
    have hs : s.ahead = modifierWords modifiers ++
        name.word :: (parameterWords parameters ++ (blockWords body ++ rest)) := by
      simpa [Member.words, blockWords] using h
    exact (records_constructor hi hdepth modifiers parameters body hn hs).cast
      (by simp [Member.words, blockWords]) (by simp [Member.declared])

/-! ## Bodies -/

/-- No annotation stands before a constant. -/
theorem skipSigns_of_ahead (hi : inner.Steady) (h : s.ahead = w :: rest) (hw : w.kind ≠ .atSign) :
    whileSeen (·.sees .atSign) (annotationUse inner) s = s :=
  whileSeen_of_not_seen (annotations_advance hi) (by simpa [sees_of_ahead h] using hw)

/-- A constant of an enum is declared, and a comma leads to another one. -/
theorem exists_constantTurn (hi : inner.Steady) (h : s.ahead = x.word :: w :: rest)
    (hw : w.kind = .comma ∨ w.kind = .semi) :
    ∃ t, Records [x.word] [(.enumConstant, x.text)] s t ∧ constantTurn inner () s =
      if t.sees .comma then .again () t.bump else .stop () t := by
  have opened := (Records.refl s).openDeclaration h .enumConstant
  have hopened := opened.rest_cons h
  refine ⟨_, opened.trans (.closeDeclaration _ (s.advance 1).nodes.size), ?_⟩
  simp only [constantTurn, skipSigns_of_ahead hi h (by simp), identifier?_of_ahead h rfl,
    start_identifierAt h]
  rw [parenthesizedIfSeen,
    if_neg (not_sees_of_ahead hopened (by obtain hw | hw := hw <;> simp [hw])), bodyIfSeen,
    if_neg (not_sees_of_ahead hopened (by obtain hw | hw := hw <;> simp [hw]))]
  rfl

/-- The constants of an enum are declared in their order. -/
theorem records_constants (hi : inner.Steady) :
    (constants : List Name) → {s : State} → {rest : List Word} →
    s.ahead = commaSeparated (constants.map fun x => [x.word]) ++ semi :: rest →
    Records (commaSeparated (constants.map fun x => [x.word]))
      (constants.map fun x => (.enumConstant, x.text)) s (repeatWhile (constantTurn inner) () s).2
  | [], s, rest, h => by
    have hs : s.ahead = semi :: rest := h
    refine (Records.refl s).stop (constantTurn_advances hi) () ?_
    simp [constantTurn, skipSigns_of_ahead hi hs, identifier?_eq_none hs]
  | [x], s, rest, h => by
    obtain ⟨t, read, hturn⟩ := exists_constantTurn hi h (.inr rfl)
    refine read.stop (constantTurn_advances hi) () ?_
    rw [hturn, if_neg (not_sees_of_ahead (read.rest_cons h) (by simp))]
  | x :: y :: constants, s, rest, h => by
    have hs : s.ahead = x.word :: comma ::
        (commaSeparated ((y :: constants).map fun x => [x.word]) ++ semi :: rest) := by
      simpa [commaSeparated] using h
    obtain ⟨t, read, hturn⟩ := exists_constantTurn hi hs (.inl rfl)
    have ht := read.rest_cons hs
    have passed := Records.bump ht
    rw [if_pos (sees_head ht)] at hturn
    exact ((read.trans passed).again (constantTurn_advances hi) () hturn
      (records_constants hi (y :: constants) (passed.rest_cons ht))).cast
      (by simp [commaSeparated]) (by simp)

/-- What stands between the brace and the first member. -/
theorem records_enumConstants (hi : inner.Steady) (head : Head)
    (h : s.ahead = head.constantWords ++ rest) :
    Records head.constantWords head.declaredConstants s
      (if head.flavor = .enum then enumConstants inner s else s) := by
  cases head with
  | enum name constants =>
    have hs : s.ahead = commaSeparated (constants.map fun x => [x.word]) ++ semi :: rest := by
      simpa [Head.constantWords] using h
    have read := records_constants hi constants hs
    exact (read.trans (.eat (read.rest hs))).cast rfl (List.append_nil _)
  | «class» | interface | annotationType | record => exact .refl s

/-- The words that may stand first where a type is declared. -/
def StartsTypeDecl (w : Word) (ws : List Word) : Prop :=
  (∃ k ∈ [Keyword.public, .static, .final, .class, .interface, .enum], w = keyword k) ∨
    w = atSign ∨ w = recordWord ∧ ∃ x : Name, ∃ ws', ws = x.word :: ws'

theorem exists_head_of_modifiers (modifiers : List Modifier) {P : Word → List Word → Prop}
    (hmodifier : ∀ q : Modifier, ∀ ws, P (keyword q.keyword) ws)
    (h : ∃ w ws', ws = w :: ws' ∧ P w ws') :
    ∃ w ws', modifierWords modifiers ++ ws = w :: ws' ∧ P w ws' := by
  cases modifiers with
  | nil => exact h
  | cons q modifiers => exact ⟨_, _, rfl, hmodifier q _⟩

theorem TypeDecl.exists_head (declaration : TypeDecl) :
    ∃ w ws, declaration.words = w :: ws ∧ StartsTypeDecl w ws := by
  obtain ⟨modifiers, head, members⟩ := declaration
  rw [TypeDecl.words_mk]
  refine exists_head_of_modifiers modifiers (fun q ws => .inl ⟨q.keyword, ?_, rfl⟩) ?_
  · cases q <;> decide
  · cases head with
    | annotationType => exact ⟨_, _, rfl, .inr (.inl rfl)⟩
    | record name => exact ⟨_, _, rfl, .inr (.inr ⟨rfl, name, _, rfl⟩)⟩
    | «class» | interface | enum => exact ⟨_, _, rfl, .inl ⟨_, by decide, rfl⟩⟩

/-- A word that may stand first in a member: a name, a reserved word or the sign of an annotation
type. -/
def StartsMember (w : Word) : Prop :=
  w.kind = .ident ∨ w.kind = .atSign ∨ ∃ k, w.kind = .keyword k

theorem exists_head_of_result (result : Option TypeExpr) (ws : List Word) :
    ∃ w ws', resultWords result ++ ws = w :: ws' ∧ StartsMember w := by
  cases result with
  | none => exact ⟨_, _, rfl, .inr (.inr ⟨_, rfl⟩)⟩
  | some type =>
    obtain ⟨w, ws', hwords, hw⟩ := type.exists_head
    refine ⟨w, _, by rw [resultWords, hwords, List.cons_append], ?_⟩
    obtain ⟨x, rfl⟩ | ⟨k, _, rfl⟩ := hw
    · exact .inl rfl
    · exact .inr (.inr ⟨k, rfl⟩)

theorem Member.exists_head (m : Member) : ∃ w ws, m.words = w :: ws ∧ StartsMember w := by
  have modified (modifiers : List Modifier) (ws : List Word)
      (h : ∃ w ws', ws = w :: ws' ∧ StartsMember w) :
      ∃ w ws', modifierWords modifiers ++ ws = w :: ws' ∧ StartsMember w :=
    exists_head_of_modifiers modifiers (fun q _ => .inr (.inr ⟨q.keyword, rfl⟩)) h
  cases m with
  | type declaration =>
    obtain ⟨w, ws, hwords, hw⟩ := declaration.exists_head
    refine ⟨w, ws, hwords, ?_⟩
    obtain ⟨k, _, rfl⟩ | rfl | ⟨rfl, _⟩ := hw
    · exact .inr (.inr ⟨k, rfl⟩)
    · exact .inr (.inl rfl)
    · exact .inl rfl
  | field modifiers type =>
    simp only [Member.words, List.append_assoc]
    exact modified modifiers _ (exists_head_of_result (some type) _)
  | method modifiers result | abstractMethod modifiers result =>
    simp only [Member.words, List.append_assoc]
    exact modified modifiers _ (exists_head_of_result result _)
  | constructor modifiers =>
    simp only [Member.words, List.append_assoc]
    exact modified modifiers _ ⟨_, _, rfl, .inl rfl⟩

/-- Members are read up to the brace behind them. -/
theorem records_members (hi : Recovers inner levels depth) (members : List Member)
    (hdepth : s.depth = depth) (hn : nestingOfMembers members ≤ levels)
    (h : s.ahead = memberWords members ++ rbrace :: rest) :
    Records (memberWords members ++ [rbrace]) (declaredByMembers members) s
      (repeatWhile (bodyTurn inner) () s).2 := by
  induction members generalizing s with
  | nil =>
    refine (Records.bump h).stop (bodyTurn_advances hi.steady) () ?_
    rw [bodyTurn, peek_of_ahead h]
  | cons m members ih =>
    rw [memberWords, List.append_assoc] at h ⊢
    rw [nestingOfMembers, Nat.max_le] at hn
    have read := records_member hi hdepth m hn.1 h
    refine read.again (bodyTurn_advances hi.steady) () ?_
      (ih (read.depth.trans hdepth) hn.2 (read.rest h))
    obtain ⟨w, ws, hwords, hw⟩ := m.exists_head
    rw [hwords] at read h
    rw [bodyTurn, peek_of_ahead h, read.guarded_eq_step]
    obtain hw | hw | ⟨k, hw⟩ := hw <;> rw [hw]

/-- The body of a type is read, and declares what it should. -/
theorem records_body (hi : Recovers inner levels depth) (head : Head) (members : List Member)
    (hdepth : s.depth = depth) (hn : nestingOfMembers members ≤ levels)
    (h : s.ahead = bodyWords head members ++ rest) :
    Records (bodyWords head members) (head.declaredConstants ++ declaredByMembers members) s
      (body inner (head.flavor = .enum) s) := by
  have hs : s.ahead =
      lbrace :: (head.constantWords ++ (memberWords members ++ rbrace :: rest)) := by
    simpa [bodyWords] using h
  have opened := Records.bump hs
  have hopened := opened.rest_cons hs
  have constants := records_enumConstants hi.steady head hopened
  have read := records_members hi members
    (constants.depth.trans (opened.depth.trans hdepth)) hn (constants.rest hopened)
  simp only [body, decide_eq_true_eq]
  exact opened.trans (constants.trans read)

end JavaLens.Program
