import JavaLens.Proofs.Grammar.CompilationUnit
import JavaLens.Proofs.Grammar.Progress

/-!
# Termination

The grammar has loops, and it goes deeper in expressions, blocks and bodies. Every turn of a loop
that asks for another one has moved the cursor, and a region goes deeper only while the depth allows
it. So the reading of a source comes to its end, with all tokens read and back at the top.

## Main definitions

* `Loop` — the turns that the grammar repeats.
* `Procedure` — the functions of the grammar.
* `Reachable` — the states that a reading may come through.
* `Inner.Descends` — the depth alone says whether a region is read or skipped.

## Main statements

* `Loop.advances`, `Procedure.onward` — what every turn and every function does to a state.
* `Reachable.bounded` — cursor and depth keep their bounds, and the levels left follow the depth.
* `read_terminates` — every reading ends, at the last token and at the top.
-/

namespace JavaLens.Grammar

/-- The turns that the grammar repeats. -/
inductive Loop (inner : Inner) : {α : Type} → (α → State → Turn α) → Prop where
  | junk : Loop inner (whileTurn State.seesJunk State.bump)
  | balance : Loop inner State.balanceTurn
  | segment : Loop inner segmentTurn
  | annotationName : Loop inner (dottedTurn id)
  | className : Loop inner (dottedTurn (typeArgumentsIfSeen inner))
  | annotation : Loop inner (whileTurn (·.sees .atSign) (annotationUse inner))
  | typeAnnotation : Loop inner (whileTurn seesAnnotationUse (annotationUse inner))
  | modifier : Loop inner (whileTurn seesModifier (modifier inner))
  | variableModifier : Loop inner (whileTurn seesVariableModifier (variableModifier inner))
  | dims : Loop inner (whileTurn seesDims (·.advance 2))
  | typeArgument : Loop inner (typeArgumentTurn inner)
  | typeList : Loop inner (typeListTurn inner)
  | dimension : Loop inner (whileTurn (·.sees .lbracket) (dimension inner))
  | skim (stops : List Token.Kind) :
    Loop inner (skimTurn inner.block (instanceCreation inner) (switchExpression inner) stops)
  | skimFlat (stops : List Token.Kind) :
    Loop inner (skimTurn State.skipTooDeep State.bump State.bump stops)
  | declarator (flavor : Flavor) : Loop inner (declaratorTurn inner flavor)
  | parameter (flavor : Flavor) (construct : Construct) :
    Loop inner (parameterTurn inner flavor construct)
  | header (flavor : Flavor) : Loop inner (headerTurn inner flavor)
  | constant : Loop inner (constantTurn inner)
  | body : Loop inner (bodyTurn inner)
  | resource : Loop inner (resourceTurn inner)
  | alternative : Loop inner (whileTurn (·.seesOperator 0 "|") (alternativeType inner))
  | block : Loop inner (blockTurn inner)
  | unit : Loop inner (unitTurn inner)

variable {inner : Inner} {s t : State} {levels : Nat}

/-- Every loop of the grammar advances. -/
theorem Loop.advances (hi : inner.Steady) {α : Type} {turn : α → State → Turn α}
    (h : Loop inner turn) : Advances turn := by
  cases h with
  | junk => exact seesJunk_advances
  | balance => exact balanceTurn_advances
  | segment => exact segmentTurn_advances
  | annotationName => exact dottedTurn_advances .refl
  | className => exact dottedTurn_advances (.typeArgumentsIfSeen hi)
  | annotation => exact annotations_advance hi
  | typeAnnotation => exact typeAnnotations_advance hi
  | modifier => exact modifiers_advance hi
  | variableModifier => exact variableModifiers_advance hi
  | dims => exact dims_advance
  | typeArgument => exact typeArgumentTurn_advances hi
  | typeList => exact typeListTurn_advances hi
  | dimension => exact dimensions_advance hi
  | skim stops => exact skim_advances hi stops
  | skimFlat stops => exact skimFlat_advances stops
  | declarator flavor => exact declaratorTurn_advances hi flavor
  | parameter flavor construct => exact parameterTurn_advances hi flavor construct
  | header flavor => exact headerTurn_advances hi flavor
  | constant => exact constantTurn_advances hi
  | body => exact bodyTurn_advances hi
  | resource => exact resourceTurn_advances hi
  | alternative => exact alternatives_advance hi
  | block => exact blockTurn_advances hi
  | unit => exact unitTurn_advances hi

/-- The functions of the grammar, with the regions one level deeper read by `inner`. -/
inductive Procedure (inner : Inner) : (State → State) → Prop where
  -- Moving, recording and recovering.
  | bump : Procedure inner State.bump
  | eat (kind : Token.Kind) : Procedure inner (·.eat kind)
  | report (fault : Fault) (span : Span) : Procedure inner (·.report fault span)
  | reference : Procedure inner State.reference
  | openDeclaration (flavor : Flavor) (name : Identifier) (start : Nat) :
    Procedure inner fun s => (s.openDeclaration flavor name start).2
  | closeDeclaration (index : Nat) : Procedure inner (·.closeDeclaration index)
  | declareImport (declared : Import) :
    Procedure inner fun s => { s with imports := s.imports.push declared }
  | expect (kind : Token.Kind) (symbol : Missing) (construct : Construct) :
    Procedure inner (·.expect kind symbol construct)
  | missingDeclaratorId : Procedure inner State.missingDeclaratorId
  | junk : Procedure inner State.junk
  | skipBalanced : Procedure inner State.skipBalanced
  | skipTooDeep : Procedure inner State.skipTooDeep
  | guarded {step : State → State} : Procedure inner step → Procedure inner (guarded step)
  -- Types, annotations and modifiers.
  | parenthesized (construct : Construct) : Procedure inner (parenthesized inner construct)
  | parenthesizedIfSeen (construct : Construct) :
    Procedure inner (parenthesizedIfSeen inner construct)
  | dotted {after : State → State} : Procedure inner after → Procedure inner (dotted after)
  | annotationUse : Procedure inner (annotationUse inner)
  | modifier : Procedure inner (modifier inner)
  | skipModifiers : Procedure inner (skipModifiers inner)
  | variableModifier : Procedure inner (variableModifier inner)
  | skipVariableModifiers : Procedure inner (skipVariableModifiers inner)
  | skipDims : Procedure inner skipDims
  | typeArguments : Procedure inner (typeArguments inner)
  | typeArgumentsIfSeen : Procedure inner (typeArgumentsIfSeen inner)
  | classType : Procedure inner (classType inner)
  | typeName : Procedure inner fun s => (typeName inner s).2
  | typeList : Procedure inner (typeList inner)
  -- Expressions.
  | blockIfSeen : Procedure inner (blockIfSeen inner)
  | bodyIfSeen : Procedure inner (bodyIfSeen inner)
  | dimension : Procedure inner (dimension inner)
  | arrayCreation : Procedure inner (arrayCreation inner)
  | creationRest : Procedure inner (creationRest inner)
  | instanceCreation : Procedure inner (instanceCreation inner)
  | switchExpression : Procedure inner (switchExpression inner)
  | skim (stops : List Token.Kind) : Procedure inner (skim inner stops)
  | skimFlat (stops : List Token.Kind) : Procedure inner (skimFlat stops)
  -- Members.
  | declarators (flavor : Flavor) : Procedure inner (declarators inner flavor)
  | formalParameter (flavor : Flavor) : Procedure inner (formalParameter inner flavor)
  | formalParameters (flavor : Flavor) (construct : Construct) :
    Procedure inner (formalParameters inner flavor construct)
  | typeHeader (flavor : Flavor) : Procedure inner (typeHeader inner flavor)
  | typeDeclaration (start : Nat) (flavor : Flavor) :
    Procedure inner (typeDeclaration inner start flavor)
  | methodRest (start : Nat) (flavor : Flavor) (name : Identifier) :
    Procedure inner (methodRest inner start flavor name)
  | typedMember (start : Nat) : Procedure inner (typedMember inner start)
  | fieldOrMethod (start : Nat) : Procedure inner (fieldOrMethod inner start)
  | member : Procedure inner (member inner)
  | enumConstants : Procedure inner (enumConstants inner)
  | body (isEnum : Bool) : Procedure inner (body inner isEnum)
  -- Statements.
  | seesLocalType : Procedure inner fun s => (seesLocalType inner s).2
  | localVariables : Procedure inner fun s => (localVariables inner s).2
  | variablesOrExpression : Procedure inner (variablesOrExpression inner)
  | forHeader : Procedure inner (forHeader inner)
  | resources : Procedure inner (resources inner)
  | alternativeType : Procedure inner (alternativeType inner)
  | alternativeTypes : Procedure inner (alternativeTypes inner)
  | catchParameter : Procedure inner (catchParameter inner)
  | wordAndExpression : Procedure inner (wordAndExpression inner)
  | caseLabel : Procedure inner (caseLabel inner)
  | otherStatement : Procedure inner (otherStatement inner)
  | statement : Procedure inner (statement inner)
  | block : Procedure inner (block inner)
  -- The regions one level deeper, and the whole source.
  | innerExpression (stops : List Token.Kind) : Procedure inner (inner.expression stops)
  | innerBlock : Procedure inner inner.block
  | innerBody (isEnum : Bool) : Procedure inner (inner.body isEnum)
  | qualifiedName : Procedure inner fun s => (qualifiedName s).2
  | packageDeclaration : Procedure inner packageDeclaration
  | importDeclaration : Procedure inner importDeclaration
  | compilationUnit : Procedure inner (compilationUnit inner)

/-- Every function of the grammar goes onward. -/
theorem Procedure.onward (hi : inner.Steady) {f : State → State} (h : Procedure inner f)
    (s : State) : Onward s (f s) := by
  induction h generalizing s with
  | bump => exact .bump s
  | eat kind => exact .eat s kind
  | report fault span => exact .report s fault span
  | reference => exact .reference s
  | openDeclaration flavor name start => exact .openDeclaration s flavor name start
  | closeDeclaration index => exact .closeDeclaration s index
  | declareImport declared => exact .of_eq rfl rfl rfl
  | expect kind symbol construct => exact .expect s kind symbol construct
  | missingDeclaratorId => exact .report s _ _
  | junk => exact .junk s
  | skipBalanced => exact .skipBalanced s
  | skipTooDeep => exact .skipTooDeep s
  | guarded _ ih => exact .guarded (ih s)
  | parenthesized construct => exact .parenthesized hi construct s
  | parenthesizedIfSeen construct => exact .parenthesizedIfSeen hi construct s
  | dotted _ ih => exact (Onward.reference s).trans (.dotted ih s)
  | annotationUse => exact (Onward.bump s).trans (.annotationUse hi s)
  | modifier => exact .modifier hi s
  | skipModifiers => exact .skipModifiers hi s
  | variableModifier => exact .variableModifier hi s
  | skipVariableModifiers => exact .skipVariableModifiers hi s
  | skipDims => exact .skipDims s
  | typeArguments => exact (Onward.bump s).trans (.typeArguments hi s)
  | typeArgumentsIfSeen => exact .typeArgumentsIfSeen hi s
  | classType => exact (Onward.reference s).trans (.classType hi s)
  | typeName => exact (Onward.typeName hi s).1
  | typeList => exact .typeList hi s
  | blockIfSeen => exact .blockIfSeen hi s
  | bodyIfSeen => exact .bodyIfSeen hi s
  | dimension => exact (Onward.bump s).trans (.dimension hi s)
  | arrayCreation => exact .arrayCreation hi s
  | creationRest => exact .creationRest hi s
  | instanceCreation => exact (Onward.bump s).trans (.instanceCreation hi s)
  | switchExpression => exact (Onward.bump s).trans (.switchExpression hi s)
  | skim stops => exact .skim hi stops s
  | skimFlat stops => exact .skimFlat stops s
  | declarators flavor => exact .declarators hi flavor s
  | formalParameter flavor => exact (Onward.formalParameter hi flavor s).1
  | formalParameters flavor construct =>
    exact (Onward.bump s).trans (.formalParameters hi flavor construct s)
  | typeHeader flavor => exact .typeHeader hi flavor s
  | typeDeclaration start flavor => exact .typeDeclaration hi start flavor s
  | methodRest start flavor name => exact .methodRest hi start flavor name s
  | typedMember start => exact .typedMember hi start s
  | fieldOrMethod start => exact .fieldOrMethod hi start s
  | member => exact .member hi s
  | enumConstants => exact .enumConstants hi s
  | body isEnum => exact .body hi isEnum s
  | seesLocalType => exact .seesLocalType hi s
  | localVariables => exact .localVariables hi s
  | variablesOrExpression => exact .variablesOrExpression hi s
  | forHeader => exact .forHeader hi s
  | resources => exact .resources hi s
  | alternativeType => exact (Onward.bump s).trans (Onward.typeName hi s.bump).1
  | alternativeTypes => exact .alternativeTypes hi s
  | catchParameter => exact .catchParameter hi s
  | wordAndExpression => exact .wordAndExpression hi s
  | caseLabel => exact .caseLabel hi s
  | otherStatement => exact .otherStatement hi s
  | statement => exact .statement hi s
  | block => exact (Onward.bump s).trans (.block hi s)
  | innerExpression stops => exact hi.expression stops s
  | innerBlock => exact hi.block s
  | innerBody isEnum => exact hi.body isEnum s
  | qualifiedName => exact .qualifiedName s
  | packageDeclaration => exact (Onward.bump s).trans (.packageDeclaration s)
  | importDeclaration => exact (Onward.bump s).trans (.importDeclaration s)
  | compilationUnit => exact .compilationUnit hi s

/-! ## Depth -/

/-- At a state the depth alone says whether a region is read one level deeper, by `deeper`, or is
skipped. -/
structure Inner.Descends (inner deeper : Inner) (s : State) : Prop where
  expression : ∀ stops, inner.expression stops s =
    if s.depth < maxNesting then (skim deeper stops { s with depth := s.depth + 1 }).leave
    else skimFlat stops s
  block : inner.block s =
    if s.depth < maxNesting then (Grammar.block deeper { s with depth := s.depth + 1 }).leave
    else s.skipTooDeep
  body : ∀ isEnum, inner.body isEnum s =
    if s.depth < maxNesting then (Grammar.body deeper isEnum { s with depth := s.depth + 1 }).leave
    else s.skipTooDeep

theorem descend_eq (region flat : State → State) (s : State) :
    descend region flat s =
      if s.depth < maxNesting then (region { s with depth := s.depth + 1 }).leave else flat s := by
  unfold descend State.enter?
  split <;> rename_i h
  · obtain ⟨allowed, entered⟩ := Option.ite_none_right_eq_some.1 h
    cases entered
    exact (if_pos allowed).symm
  · rw [if_neg (by simpa using h)]

/-- As long as the levels left reach as far as the depth allows, they never decide. -/
theorem nested_descends (h : maxNesting ≤ levels + s.depth) :
    (nested levels).Descends (nested (levels - 1)) s := by
  cases levels with
  | zero =>
    have limit : ¬s.depth < maxNesting := by omega
    exact ⟨fun _ => (if_neg limit).symm, (if_neg limit).symm, fun _ => (if_neg limit).symm⟩
  | succ levels => exact ⟨fun _ => descend_eq .., descend_eq .., fun _ => descend_eq ..⟩

/-! ## States -/

/-- The states that a reading may come through, with the levels left there. The functions of the
grammar are called in any order, at any state, and left after any turn of their loops. -/
inductive Reachable (tokens : List Token) (sourceEnd : Nat) : Nat → State → Prop where
  | start : Reachable tokens sourceEnd maxNesting (.start tokens.toArray sourceEnd)
  | call {levels : Nat} {s : State} {f : State → State} :
    Reachable tokens sourceEnd levels s → Procedure (nested levels) f →
      Reachable tokens sourceEnd levels (f s)
  | turn {levels : Nat} {s : State} {α : Type} {turn : α → State → Turn α} (v : α) :
    Reachable tokens sourceEnd levels s → Loop (nested levels) turn →
      Reachable tokens sourceEnd levels (turn v s).state
  | advance {levels n : Nat} {s : State} {kind : Token.Kind} :
    Reachable tokens sourceEnd levels s → s.peekAt n = some kind →
      Reachable tokens sourceEnd levels (s.advance (n + 1))
  | rewind {levels : Nat} {s t : State} :
    Reachable tokens sourceEnd levels s → Reachable tokens sourceEnd levels t →
      Reachable tokens sourceEnd levels (t.rewind s.mark)
  | enter {levels : Nat} {s t : State} :
    Reachable tokens sourceEnd levels s → s.enter? = some t →
      Reachable tokens sourceEnd (levels - 1) t
  | leave {levels : Nat} {s : State} :
    Reachable tokens sourceEnd levels s → 0 < s.depth →
      Reachable tokens sourceEnd (levels + 1) s.leave

/-- The tokens are those of the source, the cursor and the depth are within their bounds, and the
levels left are those that the depth allows. -/
structure Bounded (tokens : List Token) (levels : Nat) (s : State) : Prop where
  tokens_eq : s.tokens = tokens.toArray
  cursor_le : s.cursor ≤ tokens.length
  levels_eq : levels + s.depth = maxNesting

variable {tokens : List Token} {sourceEnd : Nat}

theorem Bounded.onward (h : Bounded tokens levels s) (k : Onward s t) :
    Bounded tokens levels t := by
  have hsize : s.tokens.size = tokens.length := by simp [h.tokens_eq]
  refine ⟨k.tokens.trans h.tokens_eq, ?_, k.depth ▸ h.levels_eq⟩
  have := h.cursor_le
  have := k.bounded
  omega

/-- What every step keeps holds at every state that a reading comes through. -/
theorem Reachable.bounded (h : Reachable tokens sourceEnd levels s) : Bounded tokens levels s := by
  induction h with
  | start => exact ⟨rfl, Nat.zero_le _, rfl⟩
  | call _ procedure ih => exact ih.onward (procedure.onward (nested_steady _) _)
  | turn v _ loop ih => exact ih.onward (loop.advances (nested_steady _) v _).onward
  | advance _ hpeek ih => exact ih.onward (.advance hpeek)
  | rewind _ _ marked ih => exact ⟨ih.tokens_eq, marked.cursor_le, ih.levels_eq⟩
  | enter _ entered ih =>
    obtain ⟨allowed, rfl⟩ := enter?_eq_some_iff.1 entered
    refine ⟨ih.tokens_eq, ih.cursor_le, ?_⟩
    have := ih.levels_eq
    dsimp only
    omega
  | leave _ inside ih =>
    refine ⟨ih.tokens_eq, ih.cursor_le, ?_⟩
    have := ih.levels_eq
    simp only [State.leave]
    omega

/-- Every reading comes to its end. A turn of a loop that asks for another one moves the cursor over
a token that is there, so that no loop is cut short; a region is read one level deeper if and only
if the depth allows it, and the levels left do not run out before; every function comes back to the
depth it was called at, with the cursor not behind; and at the end all tokens are read. -/
theorem read_terminates (tokens : List Token) (sourceEnd : Nat) :
    (∀ levels, ∀ {α : Type} (turn : α → State → Turn α), Loop (nested levels) turn → ∀ v s,
      (∀ v' t, turn v s = .again v' t → s.cursor < t.cursor ∧ t.cursor ≤ s.tokens.size) ∧
      repeatWhile turn v s =
        match turn v s with
        | .stop v' t => (v', t)
        | .again v' t => repeatWhile turn v' t) ∧
    (∀ levels f, Procedure (nested levels) f → ∀ s,
      (f s).depth = s.depth ∧ s.cursor ≤ (f s).cursor) ∧
    (∀ levels s, Reachable tokens sourceEnd levels s →
      s.cursor ≤ tokens.length ∧ s.depth ≤ maxNesting ∧
      (nested levels).Descends (nested (levels - 1)) s) ∧
    Reachable tokens sourceEnd maxNesting (read tokens sourceEnd) ∧
    (read tokens sourceEnd).cursor = tokens.length ∧ (read tokens sourceEnd).depth = 0 := by
  refine ⟨?loops, ?procedures, ?states, .call .start .compilationUnit, cursor_read .., ?depth⟩
  case loops =>
    intro levels α turn loop v s
    have advances := loop.advances (nested_steady levels)
    exact ⟨fun v' t again => (advances.again again).2, advances.repeatWhile_eq v s⟩
  case procedures =>
    intro levels f procedure s
    have onward := procedure.onward (nested_steady levels) s
    exact ⟨onward.depth, onward.le⟩
  case states =>
    intro levels s reachable
    have bounded := reachable.bounded
    have hlevels := bounded.levels_eq
    exact ⟨bounded.cursor_le, by omega, nested_descends (by omega)⟩
  case depth => exact (read_gathers tokens sourceEnd).1.depth

/-- A source that closes a brace before it opens a parenthesis: the stray tokens are passed over,
and the reading goes on behind them to the end. -/
theorem read_terminates_of_stray_tokens :
    let tokens : List Token :=
      [⟨.rbrace, "\x7d", ⟨0, 1⟩⟩, ⟨.comma, ",", ⟨1, 2⟩⟩, ⟨.lparen, "(", ⟨2, 3⟩⟩]
    let start := State.start tokens.toArray 3
    (∃ t, unitTurn (nested maxNesting) () start = .again () t ∧ 0 < t.cursor ∧ t.cursor ≤ 3) ∧
      start.junk.depth = 0 ∧
      (nested 256).block start = (block (nested 255) { start with depth := 1 }).leave ∧
      (read tokens 3).cursor = 3 ∧ (read tokens 3).depth = 0 := by
  intro tokens start
  obtain ⟨loops, procedures, states, -, cursor, depth⟩ := read_terminates tokens 3
  have turn : unitTurn (nested maxNesting) () start = .again () start.junk := rfl
  have descends := (states maxNesting start .start).2.2
  exact ⟨⟨_, turn, (loops maxNesting _ .unit () start).1 () _ turn⟩,
    (procedures maxNesting _ .junk start).1, descends.block, cursor, depth⟩

end JavaLens.Grammar
