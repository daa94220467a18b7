import JavaLens.Proofs.Grammar.CompilationUnit
import JavaLens.Proofs.Program.Members

/-!
# Reading statements

What the grammar does at the words of a statement: it tells local types, local variables and
expressions apart by the words ahead, where it tries one of them and comes back. Blocks are read one
level deeper than the statement they stand in, and so every level reads what the levels below allow.

## Main statements

* `records_block` — a block is read, and declares what it should.
* `nested_recovers` — the regions of programs that nest no deeper than the levels left are read.
* `records_compilationUnit` — the types of a program are read.
-/

namespace JavaLens.Program

open Grammar

variable {inner : Inner} {levels depth : Nat} {s t : State} {w : Word} {ws rest : List Word}
  {x : Name}

/-! ## Local types -/

theorem statement_of_keyword {k : Keyword} (h : s.ahead = keyword k :: rest)
    (hk : k ∈ [Keyword.public, .static, .final, .class, .interface, .enum] ∨ k.isPrimitive) :
    statement inner s = otherStatement inner s := by
  rw [statement, peek_of_ahead h]
  cases k <;> simp_all [Keyword.isPrimitive]

theorem statement_of_ident {v : Word} (h : s.ahead = w :: v :: rest) (hw : w.kind = .ident)
    (hyield : w ≠ ⟨.ident, "yield"⟩) (hv : v.kind ≠ .colon) :
    statement inner s = otherStatement inner s := by
  have unreserved : seesYield s = false := by
    simp [seesYield, seesWord_of_ahead h, hyield]
  rw [statement, peek_of_ahead h, hw]
  simp [seesAt_one_of_ahead h, hv, unreserved]

/-- A type is declared by a statement that is none of those with a word of their own. -/
theorem statement_of_typeDecl (declaration : TypeDecl) (h : s.ahead = declaration.words ++ rest) :
    statement inner s = otherStatement inner s := by
  obtain ⟨w, ws, hwords, hw⟩ := declaration.exists_head
  rw [hwords, List.cons_append] at h
  obtain ⟨k, hk, rfl⟩ | rfl | ⟨rfl, x, ws', rfl⟩ := hw
  · exact statement_of_keyword h (.inl hk)
  · rw [statement, peek_of_ahead h]
  · exact statement_of_ident h rfl (by decide) (by simp)

/-- The declaration of a type is seen behind its modifiers. -/
theorem seesLocalType_of_typeDecl (hi : inner.Steady) (declaration : TypeDecl)
    (h : s.ahead = declaration.words ++ rest) : (seesLocalType inner s).1 = true := by
  obtain ⟨modifiers, head, members⟩ := declaration
  have hs : s.ahead = modifierWords modifiers ++ (head.introduction ++
      head.name.word :: (head.componentWords ++ (bodyWords head members ++ rest))) := by
    simpa [TypeDecl.words_mk] using h
  have skipped := records_skipModifiers hi modifiers hs fun t ht => seesModifier_of_head head ht
  have ht := skipped.rest hs
  obtain ⟨w, _, hflavor⟩ | ⟨hintroduction, _, _⟩ := typeFlavor?_of_head head ht
  · simp [seesLocalType, hflavor]
  · rw [hintroduction] at ht
    simp [seesLocalType, sees_of_ahead ht, seesAt_one_of_ahead ht]

/-- A local type is read as a member. -/
theorem records_localType (hi : Recovers inner levels depth) (hdepth : s.depth = depth)
    (declaration : TypeDecl) (hn : declaration.nesting ≤ levels)
    (h : s.ahead = declaration.words ++ rest) :
    Records declaration.words declaration.declared s (statement inner s) := by
  rw [statement_of_typeDecl declaration h, otherStatement]
  simp only [seesLocalType_of_typeDecl hi.steady declaration h, seesLocalType_snd hi.sound, if_true]
  exact records_typeMember hi hdepth declaration hn h

/-! ## Local variables and expressions -/

/-- No type is declared where a type is only used. -/
theorem otherStatement_of_type (hi : Recovers inner levels depth) (hw : StartsType w)
    (h : s.ahead = w :: rest) :
    otherStatement inner s = (variablesOrExpression inner s).eat .semi := by
  have unmodified : skipModifiers inner s = s :=
    whileSeen_of_not_seen (modifiers_advance hi.steady) (hw.seesModifier h)
  have hnone : typeFlavor? s = none := typeFlavor?_of_result (.inl hw) h
  have notAt : s.sees .atSign = false := by
    simpa [sees_of_ahead h] using hw.kind_ne (by simp) (by simp)
  have unseen : (seesLocalType inner s).1 = false := by
    simp [seesLocalType, unmodified, hnone, notAt]
  simp only [otherStatement, unseen, seesLocalType_snd hi.sound, Bool.false_eq_true, if_false]

/-- A type in front of a name that is being declared starts local variables. -/
theorem records_localVariable (hi : Recovers inner levels depth) (hdepth : s.depth = depth)
    (type : TypeExpr) (value : Option Literal)
    (h : s.ahead = type.words ++ x.word :: (valueWords value ++ semi :: rest)) :
    Records (type.words ++ x.word :: (valueWords value ++ [semi])) [(.localVariable, x.text)] s
      (statement inner s) := by
  obtain ⟨w, v, rest', hwords, hw, hv⟩ := type.exists_second x.word
    (valueWords value ++ semi :: rest) (.inl rfl)
  have hs : s.ahead = w :: v :: rest' := h.trans hwords
  have hstatement : statement inner s = otherStatement inner s := by
    obtain ⟨y, rfl⟩ | ⟨k, hk, rfl⟩ := hw
    · exact statement_of_ident hs rfl (y.word_ne (by decide))
        (by obtain hv | hv | hv := hv <;> simp [hv])
    · exact statement_of_keyword hs (.inr hk)
  have unmodified := skipVariableModifiers_of_ahead hi.steady hw hs
  obtain ⟨found, typed⟩ := typeName_of_ahead hi.steady type h (by simp)
  have ht := typed.rest h
  have declares : seesDeclarator (typeName inner s).2 := by
    cases value <;> simp [seesDeclarator, sees_of_ahead ht, peekAt_eq, ht, valueWords]
  have declared := records_declarators hi (typed.depth.trans hdepth) .localVariable value ht
  have read := typed.trans declared
  rw [hstatement, otherStatement_of_type hi hw hs]
  simp only [variablesOrExpression, localVariables, unmodified, found, declares, Bool.and_self,
    if_true]
  exact (read.trans (.eat (declared.rest ht))).cast (by simp) rfl

/-- An assignment looks like local variables up to its first name, and is read as an expression. -/
theorem records_assignment (hi : Recovers inner levels depth) (hdepth : s.depth = depth) {y : Name}
    (h : s.ahead = x.word :: assign :: y.word :: semi :: rest) :
    Records [x.word, assign, y.word, semi] [] s (statement inner s) := by
  have hw : StartsType x.word := .inl ⟨x, rfl⟩
  have unmodified := skipVariableModifiers_of_ahead hi.steady hw h
  have typed := (typeName_of_ahead hi.steady (.named x) h (by simp)).2
  have ht := typed.rest h
  have undeclared : seesDeclarator (typeName inner s).2 = false := by
    simp [seesDeclarator, sees_of_ahead ht]
  -- The first name is read as a type, but what is behind it is no name: all is taken back.
  have rewound : localVariables inner s = (false, s) := by
    obtain ⟨found, _⟩ | ⟨missing, same⟩ := Reads.localVariables_cases hi.sound s
    · simp [localVariables, unmodified, undeclared] at found
    · exact Prod.ext missing same
  have read : Records [x.word, assign, y.word] [] s (inner.expression [] s) :=
    hi.expression _ hdepth h (by simp [isOperand]) (.inl rfl)
  rw [statement_of_ident h rfl (x.word_ne (by decide)) (by simp), otherStatement_of_type hi hw h,
    variablesOrExpression]
  simp only [rewound, Bool.false_eq_true, if_false]
  exact read.trans (.eat (read.rest h))

theorem records_return (hi : Recovers inner levels depth) (hdepth : s.depth = depth)
    (value : Literal) (h : s.ahead = keyword .return :: value.word :: semi :: rest) :
    Records [keyword .return, value.word, semi] [] s (statement inner s) := by
  have word := Records.bump h
  have hword := word.rest_cons h
  have read : Records [value.word] [] s.bump (inner.expression [] s.bump) :=
    hi.expression _ (word.depth.trans hdepth) hword (by simp [isOperand]) (.inl rfl)
  rw [statement, peek_of_ahead h]
  exact word.trans (read.trans (.eat (read.rest_cons hword)))

/-- The head of an `if` statement, without the block it governs. -/
theorem records_condition (hi : Recovers inner levels depth) (hdepth : s.depth = depth)
    (h : s.ahead = keyword .if :: lparen :: x.word :: rparen :: rest) :
    Records [keyword .if, lparen, x.word, rparen] [] s (statement inner s) := by
  have word := Records.bump h
  have hword := word.rest_cons h
  have opened := Records.bump hword
  have hopened := opened.rest_cons hword
  have read : Records [x.word] [] s.bump.bump (inner.expression [] s.bump.bump) :=
    hi.expression _ (opened.depth.trans (word.depth.trans hdepth)) hopened (by simp [isOperand])
      (.inr rfl)
  have closed := read.trans (.expect (read.rest_cons hopened) .closingParen .statement)
  rw [statement, peek_of_ahead h]
  simp only [kind_keyword, parenthesizedIfSeen]
  rw [if_pos (sees_head hword)]
  exact word.trans (opened.trans closed)

/-! ## Blocks -/

section Blocks

variable {ws' : List Word} {ds ds' : List (Flavor × String)}

/-- A step through a block, and what is read behind it. -/
theorem records_step (hi : inner.Steady) (step : Records ws ds s (statement inner s))
    (h : s.ahead = ws ++ rest) (first : ∃ w ws', ws = w :: ws' ∧ w.kind ≠ .rbrace)
    (behind : ∀ t : State, t.depth = s.depth → t.ahead = rest →
      Records ws' ds' t (repeatWhile (blockTurn inner) () t).2) :
    Records (ws ++ ws') (ds ++ ds') s (repeatWhile (blockTurn inner) () s).2 := by
  refine step.again (blockTurn_advances hi) () ?_ (behind _ step.depth (step.rest h))
  obtain ⟨w, ws, rfl, hw⟩ := first
  rw [blockTurn, peek_of_ahead h, step.guarded_eq_step]
  split
  · contradiction
  · rename_i heq
    exact absurd (Option.some_inj.1 heq) hw
  · rfl

/-- A block inside a block, and what is read behind it. -/
theorem records_innerBlock (hi : Recovers inner levels depth) (hdepth : s.depth = depth)
    (body : List Statement) (hn : nestingOfStatements body < levels)
    (h : s.ahead = blockWords body ++ rest)
    (behind : ∀ t : State, t.depth = s.depth → t.ahead = rest →
      Records ws' ds' t (repeatWhile (blockTurn inner) () t).2) :
    Records (blockWords body ++ ws') (declaredByStatements body ++ ds') s
      (repeatWhile (blockTurn inner) () s).2 := by
  have read : Records (blockWords body) (declaredByStatements body) s (statement inner s) := by
    rw [statement, peek_of_ahead h]
    exact hi.block body hdepth hn h
  exact records_step hi.steady read h ⟨_, _, rfl, by simp⟩ behind

/-- A statement in a block, and what is read behind it. An `if` statement takes two steps. -/
theorem records_statement (hi : Recovers inner levels depth) (hdepth : s.depth = depth)
    (statement : Statement) (hn : statement.nesting ≤ levels)
    (h : s.ahead = statement.words ++ rest)
    (behind : ∀ t : State, t.depth = s.depth → t.ahead = rest →
      Records ws' ds' t (repeatWhile (blockTurn inner) () t).2) :
    Records (statement.words ++ ws') (statement.declared ++ ds') s
      (repeatWhile (blockTurn inner) () s).2 := by
  cases statement with
  | localVariable type name value =>
    have hwords : (Statement.localVariable type name value).words =
        type.words ++ name.word :: (valueWords value ++ [semi]) := by simp [Statement.words]
    have read := records_localVariable (x := name) hi hdepth type value (by simpa [hwords] using h)
    rw [← hwords] at read
    refine records_step hi.steady read h ?_ behind
    obtain ⟨w, ws, hhead, hw⟩ := type.exists_head
    exact ⟨w, _, by rw [hwords, hhead, List.cons_append], hw.kind_ne (by simp) (by simp)⟩
  | assignment target source =>
    exact records_step hi.steady (records_assignment hi hdepth h) h ⟨_, _, rfl, by simp⟩ behind
  | «return» value =>
    exact records_step hi.steady (records_return hi hdepth value h) h ⟨_, _, rfl, by simp⟩ behind
  | block body =>
    exact records_innerBlock hi hdepth body hn (by simpa [Statement.words, blockWords] using h)
      behind |>.cast (by simp [Statement.words, blockWords]) rfl
  | «if» condition body =>
    have hs : s.ahead =
        [keyword .if, lparen, condition.word, rparen] ++ (blockWords body ++ rest) := by
      simpa [Statement.words, blockWords] using h
    have governed := records_step hi.steady (records_condition hi hdepth hs) hs
      ⟨_, _, rfl, by simp⟩ fun t ht hahead =>
        records_innerBlock hi (ht.trans hdepth) body hn hahead fun u hu => behind u (hu.trans ht)
    exact governed.cast (by simp [Statement.words, blockWords]) rfl
  | type declaration =>
    refine records_step hi.steady (records_localType hi hdepth declaration hn h) h ?_ behind
    obtain ⟨w, ws, hwords, hw⟩ := declaration.exists_head
    refine ⟨w, ws, hwords, ?_⟩
    obtain ⟨k, _, rfl⟩ | rfl | ⟨rfl, _⟩ := hw <;> simp [recordWord]

end Blocks

/-- Statements are read up to the brace behind them. -/
theorem records_statements (hi : Recovers inner levels depth) (body : List Statement)
    (hdepth : s.depth = depth) (hn : nestingOfStatements body ≤ levels)
    (h : s.ahead = statementWords body ++ rbrace :: rest) :
    Records (statementWords body ++ [rbrace]) (declaredByStatements body) s
      (repeatWhile (blockTurn inner) () s).2 := by
  induction body generalizing s with
  | nil =>
    refine (Records.bump h).stop (blockTurn_advances hi.steady) () ?_
    rw [blockTurn, peek_of_ahead h]
  | cons statement body ih =>
    rw [statementWords, List.append_assoc] at h ⊢
    rw [nestingOfStatements, Nat.max_le] at hn
    exact records_statement hi hdepth statement hn.1 h fun t ht hahead =>
      ih (ht.trans hdepth) hn.2 hahead

/-- A block is read, and declares what it should. -/
theorem records_block (hi : Recovers inner levels depth) (body : List Statement)
    (hdepth : s.depth = depth) (hn : nestingOfStatements body ≤ levels)
    (h : s.ahead = blockWords body ++ rest) :
    Records (blockWords body) (declaredByStatements body) s (block inner s) := by
  have hs : s.ahead = lbrace :: (statementWords body ++ rbrace :: rest) := by
    simpa [blockWords] using h
  have opened := Records.bump hs
  exact opened.trans (records_statements hi body (opened.depth.trans hdepth) hn
    (opened.rest_cons hs))

/-! ## Levels -/

/-- Regions of programs are read where they nest no deeper than the levels that are left. -/
theorem nested_recovers (levels depth : Nat) (h : depth + levels = maxNesting) :
    Recovers (nested levels) levels depth := by
  induction levels generalizing depth with
  | zero =>
    exact
      { steady := nested_steady 0
        sound := nested_sound 0
        expression := fun ws _ _ _ _ _ => records_skimWith (skimFlat_advances _)
        block := fun _ _ _ _ hn => absurd hn (Nat.not_lt_zero _)
        body := fun _ _ _ _ _ hn => absurd hn (Nat.not_lt_zero _) }
  | succ levels ih =>
    have hi : Recovers (nested levels) levels (depth + 1) := ih (depth + 1) (by omega)
    -- With a level left the limit is not reached, so the region is entered.
    have deeper {s : State} (hdepth : s.depth = depth) : s.depth < maxNesting := by omega
    exact
      { steady := nested_steady (levels + 1)
        sound := nested_sound (levels + 1)
        expression := fun ws s stops w rest hdepth hs operands hw =>
          .descend (deeper hdepth) (records_skimWith (skim_advances hi.steady stops) hs operands hw)
        block := fun body s rest hdepth hn hs =>
          .descend (deeper hdepth) (records_block hi body (congrArg (· + 1) hdepth)
            (Nat.le_of_lt_succ hn) hs)
        body := fun head members s rest hdepth hn hs =>
          .descend (deeper hdepth) (records_body hi head members (congrArg (· + 1) hdepth)
            (Nat.le_of_lt_succ hn) hs) }

/-- The types of a program are read, and declare what they should. -/
theorem records_compilationUnit (hi : Recovers inner levels depth) (program : List TypeDecl)
    (hdepth : s.depth = depth) (hn : ∀ declaration ∈ program, declaration.nesting ≤ levels)
    (h : s.ahead = program.flatMap TypeDecl.words) :
    Records (program.flatMap TypeDecl.words) (program.flatMap TypeDecl.declared) s
      (compilationUnit inner s) := by
  induction program generalizing s with
  | nil =>
    refine (Records.refl s).stop (unitTurn_advances hi.steady) () ?_
    rw [unitTurn, peek_of_ahead_nil h]
  | cons declaration program ih =>
    rw [List.flatMap_cons] at h
    obtain ⟨hn, hns⟩ := List.forall_mem_cons.1 hn
    have read := records_typeMember hi hdepth declaration hn h
    refine read.again (unitTurn_advances hi.steady) () ?_
      (ih (read.depth.trans hdepth) hns (read.rest h))
    obtain ⟨w, ws, hwords, hw⟩ := declaration.exists_head
    rw [hwords] at read h
    rw [unitTurn, peek_of_ahead h, read.guarded_eq_step]
    obtain ⟨k, hk, rfl⟩ | rfl | ⟨rfl, _⟩ := hw
    · cases k <;> simp_all
    · rfl
    · rfl

end JavaLens.Program
