import JavaLens.Proofs.Grammar.Recording
import JavaLens.Proofs.Program.Syntax

/-!
# Reading modifiers, types and parameters

What the grammar does at the words of modifiers, types and parameters: it reads just these words,
and declares the parameters.

## Main statements

* `records_skipModifiers`, `typeName_of_ahead` — modifiers and types are read.
* `records_formalParameters` — parameters are read, and declared in their order.
-/

namespace JavaLens.Program

open Grammar

variable {inner : Inner} {s t : State} {w : Word} {ws rest : List Word} {x : Name}

/-! ## The words ahead -/

@[simp] theorem Name.kind_word (x : Name) : x.word.kind = .ident := rfl

@[simp] theorem Name.text_word (x : Name) : x.word.text = x.text := rfl

@[simp] theorem Literal.kind_word (v : Literal) : v.word.kind = .literal := rfl

@[simp] theorem kind_keyword (k : Keyword) : (keyword k).kind = .keyword k := rfl

/-- A name is none of the words that are reserved in some places. -/
theorem Name.word_ne (x : Name) {text : String} (h : text ∈ contextualWords) :
    x.word ≠ ⟨.ident, text⟩ := by
  intro heq
  have : x.text = text := congrArg Word.text heq
  exact x.unreserved (this ▸ h)

theorem seesAt_one_of_ahead {v : Word} (h : s.ahead = v :: w :: rest) (kind : Token.Kind) :
    s.seesAt 1 kind = (w.kind == kind) := by
  rw [State.seesAt, peekAt_eq, h]
  rfl

theorem seesWord_of_ahead (h : s.ahead = w :: rest) (text : String) :
    s.seesWord 0 text = (w == ⟨.ident, text⟩) := by
  rw [State.seesWord, spells_eq, h]
  rfl

theorem eat_of_ahead (h : s.ahead = w :: rest) {kind : Token.Kind} (hw : w.kind ≠ kind) :
    s.eat kind = s := by
  rw [State.eat, if_neg (not_sees_of_ahead h hw)]

theorem seesAnnotationUse_of_ahead (h : s.ahead = w :: rest) (hw : w.kind ≠ .atSign) :
    seesAnnotationUse s = false := by
  simp [seesAnnotationUse, sees_of_ahead h, hw]

/-- The first word of a type: a name or a primitive type. -/
def StartsType (w : Word) : Prop :=
  (∃ x : Name, w = x.word) ∨ ∃ k : Keyword, k.isPrimitive ∧ w = keyword k

theorem TypeExpr.exists_head : (type : TypeExpr) → ∃ w ws, type.words = w :: ws ∧ StartsType w
  | .primitive k hk => ⟨_, _, rfl, .inr ⟨k, hk, rfl⟩⟩
  | .named name => ⟨_, _, rfl, .inl ⟨name, rfl⟩⟩
  | .generic name _ _ => ⟨_, _, rfl, .inl ⟨name, rfl⟩⟩
  | .array element => by
    obtain ⟨w, ws, hwords, hw⟩ := element.exists_head
    exact ⟨w, _, by rw [TypeExpr.words, hwords, List.cons_append], hw⟩

/-- The second word from the start of a type on, where a name or a dimension follows the type. -/
theorem TypeExpr.exists_second : (type : TypeExpr) → (v : Word) → (rest : List Word) →
    v.kind = .ident ∨ v.kind = .lbracket →
    ∃ w v' rest', type.words ++ v :: rest = w :: v' :: rest' ∧ StartsType w ∧
      (v'.kind = .ident ∨ v'.kind = .lt ∨ v'.kind = .lbracket)
  | .primitive k hk, _, _, hv => ⟨_, _, _, rfl, .inr ⟨k, hk, rfl⟩, hv.imp_right .inr⟩
  | .named name, _, _, hv => ⟨_, _, _, rfl, .inl ⟨name, rfl⟩, hv.imp_right .inr⟩
  | .generic name _ _, _, _, _ => ⟨_, _, _, rfl, .inl ⟨name, rfl⟩, .inr (.inl rfl)⟩
  | .array element, v, rest, _ => by
    obtain ⟨w, v', rest', hwords, hw⟩ := element.exists_second lbracket
      (rbracket :: v :: rest) (.inr rfl)
    exact ⟨w, v', rest', by rw [← hwords]; simp [TypeExpr.words], hw⟩

theorem StartsType.kind_ne (h : StartsType w) {kind : Token.Kind} (hident : kind ≠ .ident)
    (hkeyword : ∀ k : Keyword, k.isPrimitive → kind ≠ .keyword k) : w.kind ≠ kind := by
  obtain ⟨x, rfl⟩ | ⟨k, hk, rfl⟩ := h
  · exact hident.symm
  · exact (hkeyword k hk).symm

/-! ## Modifiers -/

theorem seesModifier_of_keyword {k : Keyword} (h : s.ahead = keyword k :: rest) :
    seesModifier s = k.isModifier := by
  have none := seesAnnotationUse_of_ahead h (by simp)
  rw [seesModifier, none, modifierSize, peek_of_ahead h]
  cases hk : k.isModifier <;> simp [hk]

theorem seesModifier_of_ident (h : s.ahead = w :: rest) (hw : w.kind = .ident)
    (hsealed : w ≠ ⟨.ident, "sealed"⟩) (hnon : w ≠ ⟨.ident, "non"⟩) : seesModifier s = false := by
  have none := seesAnnotationUse_of_ahead h (by simp [hw])
  rw [seesModifier, none, modifierSize, peek_of_ahead h]
  simp [hw, seesWord_of_ahead h, hsealed, hnon]

theorem seesModifier_of_name (h : s.ahead = x.word :: rest) : seesModifier s = false :=
  seesModifier_of_ident h rfl (x.word_ne (by decide)) (x.word_ne (by decide))

theorem StartsType.seesModifier (hw : StartsType w) (h : s.ahead = w :: rest) :
    seesModifier s = false := by
  obtain ⟨x, rfl⟩ | ⟨k, hk, rfl⟩ := hw
  · exact seesModifier_of_name h
  · rw [seesModifier_of_keyword h]
    cases k <;> simp_all [Keyword.isPrimitive, Keyword.isModifier]

/-- Modifiers are passed over, up to the first word that is none. -/
theorem records_skipModifiers (hi : inner.Steady) (modifiers : List Modifier)
    (h : s.ahead = modifierWords modifiers ++ rest)
    (stop : ∀ t : State, t.ahead = rest → seesModifier t = false) :
    Records (modifierWords modifiers) [] s (skipModifiers inner s) := by
  induction modifiers generalizing s with
  | nil =>
    rw [skipModifiers, whileSeen_of_not_seen (modifiers_advance hi) (stop s h)]
    exact .refl s
  | cons q modifiers ih =>
    have hs : s.ahead = keyword q.keyword :: (modifierWords modifiers ++ rest) := h
    have isModifier : q.keyword.isModifier := by cases q <;> rfl
    have none := seesAnnotationUse_of_ahead hs (by simp)
    have size : modifierSize s = 1 := by simp [modifierSize, peek_of_ahead hs, isModifier]
    have first : Records [keyword q.keyword] [] s (modifier inner s) := by
      rw [modifier, none, if_neg Bool.false_ne_true, size]
      exact .advance [_] hs
    rw [skipModifiers, whileSeen_of_seen (modifiers_advance hi)
      (by rw [seesModifier_of_keyword hs, isModifier])]
    exact first.trans (ih (first.rest_cons hs))

/-! ## Types -/

section TypeArguments

variable {count : Nat}

/-- One token among type arguments, and what is read behind it. -/
theorem records_typeArgument {count' : Nat} (hi : inner.Steady) (h : s.ahead = w :: rest)
    (hturn : typeArgumentTurn inner count s = .again count' t) (first : Records [w] [] s t)
    (behind : ∀ t : State, t.ahead = rest →
      Records ws [] t (repeatWhile (typeArgumentTurn inner) count' t).2) :
    Records (w :: ws) [] s (repeatWhile (typeArgumentTurn inner) count s).2 :=
  first.again (typeArgumentTurn_advances hi) count' hturn (behind t (first.rest_cons h))

/-- A token that is only passed over. -/
theorem records_passedArgument (hi : inner.Steady) (h : s.ahead = w :: rest)
    (hw : w.kind = .comma ∨ w.kind = .lbracket ∨ w.kind = .rbracket ∨
      ∃ k : Keyword, k.isPrimitive ∧ w.kind = .keyword k)
    (behind : ∀ t : State, t.ahead = rest →
      Records ws [] t (repeatWhile (typeArgumentTurn inner) count t).2) :
    Records (w :: ws) [] s (repeatWhile (typeArgumentTurn inner) count s).2 := by
  refine records_typeArgument hi h ?_ (.bump h) behind
  have hpeek := peek_of_ahead h
  obtain hw | hw | hw | ⟨k, hk, hw⟩ := hw <;>
    simp [typeArgumentTurn, joinsTypes, hpeek, hw]
  simp [hk]

theorem records_namedArgument (hi : inner.Steady) (h : s.ahead = x.word :: rest)
    (behind : ∀ t : State, t.ahead = rest →
      Records ws [] t (repeatWhile (typeArgumentTurn inner) count t).2) :
    Records (x.word :: ws) [] s (repeatWhile (typeArgumentTurn inner) count s).2 :=
  records_typeArgument hi h (by rw [typeArgumentTurn, peek_of_ahead h]; rfl) (.reference h rfl)
    behind

theorem records_openedArguments (hi : inner.Steady) (h : s.ahead = lt :: rest)
    (behind : ∀ t : State, t.ahead = rest →
      Records ws [] t (repeatWhile (typeArgumentTurn inner) (count + 1) t).2) :
    Records (lt :: ws) [] s (repeatWhile (typeArgumentTurn inner) count s).2 :=
  records_typeArgument hi h (by rw [typeArgumentTurn, peek_of_ahead h]) (.bump h) behind

theorem records_closedArguments (hi : inner.Steady) (h : s.ahead = gt :: rest)
    (behind : ∀ t : State, t.ahead = rest →
      Records ws [] t (repeatWhile (typeArgumentTurn inner) count t).2) :
    Records (gt :: ws) [] s (repeatWhile (typeArgumentTurn inner) (count + 1) s).2 :=
  records_typeArgument hi h (by rw [typeArgumentTurn, peek_of_ahead h]; rfl) (.bump h) behind

mutual

/-- A type among type arguments, and what is read behind it. -/
theorem records_innerType (hi : inner.Steady) :
    (type : TypeExpr) → {count : Nat} → {s : State} → {rest ws : List Word} →
    s.ahead = type.words ++ rest →
    (∀ t : State, t.ahead = rest →
      Records ws [] t (repeatWhile (typeArgumentTurn inner) count t).2) →
    Records (type.words ++ ws) [] s (repeatWhile (typeArgumentTurn inner) count s).2
  | .primitive k hk, _, _, _, _, h, behind =>
    records_passedArgument hi h (.inr (.inr (.inr ⟨k, hk, rfl⟩))) behind
  | .named _, _, _, _, _, h, behind => records_namedArgument hi h behind
  | .generic name first further, _, _, _, ws, h, behind => by
    simp only [TypeExpr.words, List.cons_append, List.append_assoc, List.nil_append] at h ⊢
    refine records_namedArgument hi h fun t ht => records_openedArguments hi ht fun t ht => ?_
    refine records_innerType hi first ht fun t ht => ?_
    refine records_furtherTypes hi further ht fun t ht => ?_
    exact records_closedArguments hi ht behind
  | .array element, _, _, _, ws, h, behind => by
    simp only [TypeExpr.words, List.cons_append, List.append_assoc, List.nil_append] at h ⊢
    refine records_innerType hi element h fun t ht => ?_
    refine records_passedArgument hi ht (by simp) fun t ht => ?_
    exact records_passedArgument hi ht (by simp) behind

/-- Further types among type arguments, and what is read behind them. -/
theorem records_furtherTypes (hi : inner.Steady) :
    (types : List TypeExpr) → {count : Nat} → {s : State} → {rest ws : List Word} →
    s.ahead = TypeExpr.furtherWords types ++ rest →
    (∀ t : State, t.ahead = rest →
      Records ws [] t (repeatWhile (typeArgumentTurn inner) count t).2) →
    Records (TypeExpr.furtherWords types ++ ws) [] s
      (repeatWhile (typeArgumentTurn inner) count s).2
  | [], _, s, _, _, h, behind => behind s h
  | type :: types, _, _, _, _, h, behind => by
    simp only [TypeExpr.furtherWords, List.cons_append, List.append_assoc] at h ⊢
    refine records_passedArgument hi h (by simp) fun t ht => ?_
    refine records_innerType hi type ht fun t ht => ?_
    exact records_furtherTypes hi types ht behind

end

/-- Type arguments from bracket to bracket. -/
theorem records_typeArguments (hi : inner.Steady) (first : TypeExpr) (further : List TypeExpr)
    (h : s.ahead = lt :: (first.words ++ TypeExpr.furtherWords further ++ gt :: rest)) :
    Records (lt :: (first.words ++ TypeExpr.furtherWords further ++ [gt])) [] s
      (typeArguments inner s) := by
  have opened := Records.bump h
  have ht := opened.rest_cons h
  rw [List.append_assoc] at ht ⊢
  refine opened.trans (records_innerType hi first ht fun t ht => ?_)
  refine records_furtherTypes hi further ht fun t ht => ?_
  refine (Records.bump ht).stop (typeArgumentTurn_advances hi) 0 ?_
  rw [typeArgumentTurn, peek_of_ahead ht]
  rfl

end TypeArguments

/-- An identifier and what stands behind it, where no dot follows. -/
theorem records_dotted {after : State → State} (steady : ∀ s, Onward s (after s))
    (h : s.ahead = x.word :: (ws ++ w :: rest)) (hw : w.kind ≠ .dot)
    (hafter : ∀ t : State, t.ahead = ws ++ w :: rest → Records ws [] t (after t)) :
    Records (x.word :: ws) [] s (dotted after s) := by
  have named := Records.reference h rfl
  have read := named.trans (hafter _ (named.rest h))
  refine read.stop (dottedTurn_advances steady) () ?_
  have ht : (after s.reference).ahead = w :: rest := read.rest (by simpa using h)
  simp [dottedTurn, sees_of_ahead ht, hw]

theorem skipDims_of_ahead (h : s.ahead = w :: rest) (hw : w.kind ≠ .lbracket) : skipDims s = s :=
  whileSeen_of_not_seen dims_advance (by simp [seesDims, sees_of_ahead h, hw])

theorem skipDims_of_dims (h : s.ahead = lbracket :: rbracket :: rest) :
    skipDims s = skipDims (s.advance 2) :=
  whileSeen_of_seen dims_advance
    (by simp [seesDims, sees_of_ahead h, seesAt_one_of_ahead h])

/-- No annotation stands before a type. -/
theorem skipAnnotations_of_ahead (hi : inner.Steady) (h : s.ahead = w :: rest)
    (hw : w.kind ≠ .atSign) : whileSeen seesAnnotationUse (annotationUse inner) s = s :=
  whileSeen_of_not_seen (typeAnnotations_advance hi) (seesAnnotationUse_of_ahead h hw)

/-- A class type is read as one. -/
theorem typeName_of_name (hi : inner.Steady) (h : s.ahead = x.word :: rest) :
    typeName inner s = (true, skipDims (classType inner s)) := by
  have unreserved : s.seesWord 0 "var" = false := by
    simpa [seesWord_of_ahead h] using x.word_ne (by decide)
  rw [typeName, skipAnnotations_of_ahead hi h (by simp)]
  simp [peek_of_ahead h, unreserved]

theorem typeName_of_keyword (hi : inner.Steady) {k : Keyword} (h : s.ahead = keyword k :: rest)
    (hk : k.isPrimitive ∨ k = .void) : typeName inner s = (true, skipDims s.bump) := by
  rw [typeName, skipAnnotations_of_ahead hi h (by simp)]
  simp [peek_of_ahead h, hk]

/-- A type is read up to its dimensions, and they are read behind it. -/
theorem exists_typeName (hi : inner.Steady) :
    (type : TypeExpr) → {s : State} → {w : Word} → {rest : List Word} →
    s.ahead = type.words ++ w :: rest → w.kind ≠ .dot → w.kind ≠ .lt →
    ∃ t, Records type.words [] s t ∧ typeName inner s = (true, skipDims t)
  | .primitive k hk, s, _, _, h, _, _ => ⟨s.bump, .bump h, typeName_of_keyword hi h (.inl hk)⟩
  | .named name, s, w, rest, h, hdot, hlt => by
    refine ⟨classType inner s, ?_, typeName_of_name hi h⟩
    refine records_dotted (.typeArgumentsIfSeen hi) h hdot fun t ht => ?_
    rw [typeArgumentsIfSeen, if_neg (not_sees_of_ahead ht hlt)]
    exact .refl t
  | .generic name first further, s, w, rest, h, hdot, _ => by
    refine ⟨classType inner s, ?_, typeName_of_name hi h⟩
    refine records_dotted (.typeArgumentsIfSeen hi) (by simpa [TypeExpr.words] using h) hdot
      fun t ht => ?_
    rw [List.cons_append, List.append_assoc] at ht
    rw [typeArgumentsIfSeen, if_pos (sees_head ht)]
    exact records_typeArguments hi first further ht
  | .array element, s, w, rest, h, _, _ => by
    have hs : s.ahead = element.words ++ lbracket :: rbracket :: w :: rest := by
      simpa [TypeExpr.words] using h
    obtain ⟨t, read, htype⟩ := exists_typeName hi element hs (by simp) (by simp)
    have ht := read.rest hs
    refine ⟨t.advance 2, read.trans (.advance [_, _] ht), ?_⟩
    rw [htype, skipDims_of_dims ht]

/-- A type is read, whatever it stands in front of. -/
theorem typeName_of_ahead (hi : inner.Steady) (type : TypeExpr)
    (h : s.ahead = type.words ++ w :: rest)
    (hw : w.kind ≠ .dot ∧ w.kind ≠ .lt ∧ w.kind ≠ .lbracket) :
    (typeName inner s).1 = true ∧ Records type.words [] s (typeName inner s).2 := by
  obtain ⟨t, read, htype⟩ := exists_typeName hi type h hw.1 hw.2.1
  rw [htype, skipDims_of_ahead (read.rest h) hw.2.2]
  exact ⟨rfl, read⟩

/-- So is what a method gives back. -/
theorem typeName_of_result (hi : inner.Steady) (result : Option TypeExpr)
    (h : s.ahead = resultWords result ++ x.word :: rest) :
    (typeName inner s).1 = true ∧ Records (resultWords result) [] s (typeName inner s).2 := by
  cases result with
  | some type => exact typeName_of_ahead hi type h (by simp)
  | none =>
    have read := Records.bump h
    rw [typeName_of_keyword hi h (.inr rfl), skipDims_of_ahead (read.rest h) (by simp)]
    exact ⟨rfl, read⟩

/-! ## Parameters -/

/-- No modifier of a variable stands before a type. -/
theorem skipVariableModifiers_of_ahead (hi : inner.Steady) (hw : StartsType w)
    (h : s.ahead = w :: rest) : skipVariableModifiers inner s = s := by
  refine whileSeen_of_not_seen (variableModifiers_advance hi) ?_
  have notAt : w.kind ≠ .atSign := hw.kind_ne (by simp) (by simp)
  have notFinal : w.kind ≠ .keyword .final :=
    hw.kind_ne (by simp) (by rintro k hk heq; cases heq; cases hk)
  simp [seesVariableModifier, seesAnnotationUse_of_ahead h notAt, sees_of_ahead h, notFinal]

theorem records_formalParameter (hi : inner.Steady) (flavor : Flavor) (p : Parameter)
    (h : s.ahead = p.words ++ w :: rest) (hw : w.kind ≠ .lbracket) :
    Records p.words [(flavor, p.name.text)] s (formalParameter inner flavor s) := by
  have hs : s.ahead = p.type.words ++ p.name.word :: w :: rest := by
    simpa [Parameter.words] using h
  obtain ⟨first, others, hwords, hfirst⟩ := p.type.exists_head
  have noModifier := skipVariableModifiers_of_ahead hi hfirst
    (hs.trans (by rw [hwords, List.cons_append]))
  obtain ⟨found, typed⟩ := typeName_of_ahead hi p.type hs (by simp)
  have ht := typed.rest hs
  have opened := typed.openDeclaration ht flavor
  rw [formalParameter]
  simp only [noModifier, found, Bool.not_true, Bool.false_eq_true, if_false,
    eat_of_ahead ht (show p.name.word.kind ≠ .ellipsis by simp)]
  rw [if_neg (not_sees_of_ahead ht (by simp)), identifier?_of_ahead ht rfl]
  dsimp only
  rw [skipDims_of_ahead (opened.rest h) hw]
  exact (opened.trans (.closeDeclaration ..)).cast (by simp [Parameter.words]) rfl

section Parameters

variable {flavor : Flavor} {construct : Construct}

/-- The words of further parameters up to the end, each behind a comma. -/
def furtherParameterWords (parameters : List Parameter) : List Word :=
  (parameters.map Parameter.words).flatMap (comma :: ·) ++ [rparen]

/-- A parameter and what is read behind it, which starts with a comma or ends the parameters. -/
theorem records_parameter {ds : List (Flavor × String)} (hi : inner.Steady) (p : Parameter)
    {parameters : List Parameter}
    (h : s.ahead = p.words ++ (furtherParameterWords parameters ++ rest))
    (behind : ∀ t : State, t.ahead = furtherParameterWords parameters ++ rest →
      Records ws ds t (repeatWhile (parameterTurn inner flavor construct) () t).2) :
    Records (p.words ++ ws) ((flavor, p.name.text) :: ds) s
      (repeatWhile (parameterTurn inner flavor construct) () s).2 := by
  have read : Records p.words [(flavor, p.name.text)] s (formalParameter inner flavor s) := by
    cases parameters with
    | nil => exact records_formalParameter hi flavor p h (by simp)
    | cons => exact records_formalParameter hi flavor p h (by simp)
  refine read.again (parameterTurn_advances hi flavor construct) () ?_
    (behind _ (read.rest h))
  obtain ⟨first, others, hwords, hfirst⟩ := p.type.exists_head
  have hpeek : s.peek = some first.kind :=
    peek_of_ahead (h.trans (by rw [Parameter.words, hwords]; rfl))
  rw [parameterTurn, hpeek]
  obtain ⟨x, rfl⟩ | ⟨k, hk, rfl⟩ := hfirst <;> rfl

theorem records_parametersEnd (hi : inner.Steady) (h : s.ahead = rparen :: rest) :
    Records [rparen] [] s (repeatWhile (parameterTurn inner flavor construct) () s).2 := by
  refine (Records.bump h).stop (parameterTurn_advances hi flavor construct) () ?_
  rw [parameterTurn, peek_of_ahead h]

theorem records_furtherParameters (hi : inner.Steady) (parameters : List Parameter)
    (h : s.ahead = furtherParameterWords parameters ++ rest) :
    Records (furtherParameterWords parameters) (declaredParameters flavor parameters) s
      (repeatWhile (parameterTurn inner flavor construct) () s).2 := by
  induction parameters generalizing s with
  | nil => exact records_parametersEnd hi h
  | cons p parameters ih =>
    have hwords : furtherParameterWords (p :: parameters) =
        comma :: (p.words ++ furtherParameterWords parameters) := by
      simp [furtherParameterWords]
    rw [hwords, List.cons_append, List.append_assoc] at h
    rw [hwords]
    have passed := Records.bump h
    refine passed.again (parameterTurn_advances hi flavor construct) ()
      (by rw [parameterTurn, peek_of_ahead h]) ?_
    exact records_parameter hi p (passed.rest_cons h) fun t ht => ih ht

/-- Parameters in parentheses are declared in their order. -/
theorem records_formalParameters (hi : inner.Steady) (flavor : Flavor) (construct : Construct)
    (parameters : List Parameter)
    (h : s.ahead = parameterWords parameters ++ rest) :
    Records (parameterWords parameters) (declaredParameters flavor parameters) s
      (formalParameters inner flavor construct s) := by
  cases parameters with
  | nil =>
    have opened := Records.bump h
    exact opened.trans (records_parametersEnd hi (opened.rest_cons h))
  | cons p parameters =>
    have hwords : parameterWords (p :: parameters) =
        lparen :: (p.words ++ furtherParameterWords parameters) := by
      simp [parameterWords, commaSeparated, furtherParameterWords]
    rw [hwords, List.cons_append, List.append_assoc] at h
    rw [hwords]
    have opened := Records.bump h
    exact opened.trans (records_parameter hi p (opened.rest_cons h) fun t ht =>
      records_furtherParameters hi parameters ht)

end Parameters

end JavaLens.Program
