import JavaLens.Grammar.CompilationUnit
import JavaLens.Proofs.Grammar.Reading

/-!
# Progress

Every function of the grammar, from whatever state, moves the cursor forward and not behind the last
token, and comes back to the depth it started from. A turn of a loop that asks for another one has
moved the cursor over a token at least, so every loop ends of its own accord.

## Main definitions

* `Onward` — the tokens and the depth are kept, and the cursor moves forward within the tokens.
* `Advances` — the turns of a loop go onward, and those that ask for another one move the cursor.
* `Inner.Steady` — the regions one level deeper go onward.

## Main statements

* `Advances.repeatWhile_eq` — a loop whose turns advance is never cut short.
* `nested_steady` — the regions of every level go onward.
-/

namespace JavaLens.Grammar

/-- The tokens and the depth are the same, and the cursor has moved forward, if at all, but not
behind the last token. -/
structure Onward (s t : State) : Prop where
  tokens : t.tokens = s.tokens
  depth : t.depth = s.depth
  le : s.cursor ≤ t.cursor
  bounded : t.cursor ≤ max s.cursor s.tokens.size

variable {s t u : State} {kind : Token.Kind}

theorem lt_size_of_peekAt {n : Nat} (h : s.peekAt n = some kind) :
    s.cursor + n < s.tokens.size :=
  lt_size_of_kindAt (show kindAt s.tokens (s.cursor + n) = some kind from h)

namespace Onward

theorem of_eq (tokens : t.tokens = s.tokens) (depth : t.depth = s.depth)
    (cursor : t.cursor = s.cursor) : Onward s t :=
  ⟨tokens, depth, Nat.le_of_eq cursor.symm, cursor ▸ Nat.le_max_left ..⟩

theorem refl (s : State) : Onward s s := .of_eq rfl rfl rfl

theorem trans (h : Onward s t) (k : Onward t u) : Onward s u := by
  refine ⟨k.tokens.trans h.tokens, k.depth.trans h.depth, Nat.le_trans h.le k.le, ?_⟩
  have := k.bounded
  have := h.bounded
  rw [h.tokens] at *
  omega

theorem ite {c : Prop} [Decidable c] (yes : Onward s t) (no : Onward s u) :
    Onward s (if c then t else u) := by
  split
  · exact yes
  · exact no

/-- What goes on behind the token at the cursor has moved over it. -/
theorem lt_of_bump (h : s.peek = some kind) (rest : Onward s.bump t) : s.cursor < t.cursor :=
  Nat.lt_of_lt_of_le (cursor_lt_bump h) rest.le

/-! ## Operations on states -/

/-- The cursor may move over tokens that are there. -/
theorem advance {n : Nat} (h : s.peekAt n = some kind) : Onward s (s.advance (n + 1)) := by
  have := lt_size_of_peekAt h
  refine ⟨rfl, rfl, ?_, ?_⟩ <;> simp only [State.advance] <;> omega

theorem bump (s : State) : Onward s s.bump := by
  cases h : s.peek with
  | none =>
    rw [State.bump, if_neg (Nat.not_lt.2 (peek_eq_none_iff.1 h))]
    exact refl s
  | some kind =>
    rw [bump_eq h]
    exact advance h

theorem eat (s : State) (kind : Token.Kind) : Onward s (s.eat kind) := ite (bump s) (refl s)

theorem report (s : State) (fault : Fault) (span : Span) : Onward s (s.report fault span) :=
  of_eq rfl rfl rfl

theorem reference (s : State) : Onward s s.reference := by
  unfold State.reference
  split
  · rename_i name t h
    obtain ⟨hpeek, _, rfl⟩ := identifier?_eq_some_iff.1 h
    exact (advance hpeek).trans (of_eq rfl rfl rfl)
  · exact refl s

theorem identifier? {name : Identifier} (h : s.identifier? = some (name, t)) : Onward s t := by
  obtain ⟨hpeek, _, rfl⟩ := identifier?_eq_some_iff.1 h
  exact advance hpeek

theorem openDeclaration (s : State) (flavor : Flavor) (name : Identifier) (start : Nat) :
    Onward s (s.openDeclaration flavor name start).2 := of_eq rfl rfl rfl

theorem closeDeclaration (s : State) (index : Nat) : Onward s (s.closeDeclaration index) :=
  of_eq rfl rfl rfl

/-- A reading that is taken back leaves the depth as it was. -/
theorem rewind (h : Onward s t) : Onward s (t.rewind s.mark) := of_eq h.tokens h.depth rfl

theorem expect (s : State) (kind : Token.Kind) (symbol : Missing) (construct : Construct) :
    Onward s (s.expect kind symbol construct) := ite (bump s) (report s _ _)

end Onward

/-! ## Loops -/

/-- Whether a turn that started at `s` has gone onward, and has moved the cursor if it asks for
another one. -/
def Turn.Ahead {α : Type} (s : State) : Turn α → Prop
  | .stop _ t => Onward s t
  | .again _ t => Onward s t ∧ s.cursor < t.cursor

/-- Whether every turn goes onward, and moves the cursor if it asks for another one. -/
def Advances {α : Type} (turn : α → State → Turn α) : Prop := ∀ v s, (turn v s).Ahead s

namespace Turn.Ahead

variable {α : Type} {turn : Turn α} {v w : α}

theorem onward (h : turn.Ahead s) : Onward s turn.state := by
  cases turn with
  | stop => exact h
  | again => exact h.1

theorem again (h : Onward s.bump t) (hpeek : s.peek = some kind) : (Turn.again v t).Ahead s :=
  ⟨(Onward.bump s).trans h, h.lt_of_bump hpeek⟩

/-- A turn that moves over the token at the cursor, and may ask for another one. -/
theorem bump {c : Prop} [Decidable c] (hpeek : s.peek = some kind) :
    (if c then Turn.stop v s.bump else Turn.again w s.bump).Ahead s := by
  split
  · exact Onward.bump s
  · exact again (.refl _) hpeek

/-- A turn that goes on behind a token it sees. -/
theorem separator {c : Bool} (h : Onward s t) (hc : c → ∃ kind, t.peek = some kind) :
    (if c then Turn.again v t.bump else Turn.stop w t).Ahead s := by
  split
  · rename_i seen
    obtain ⟨kind, hpeek⟩ := hc seen
    exact ⟨h.trans (.bump t), Nat.lt_of_le_of_lt h.le (cursor_lt_bump hpeek)⟩
  · exact h

theorem comma (h : Onward s t) :
    (if t.sees .comma then Turn.again v t.bump else Turn.stop w t).Ahead s :=
  separator h fun hcomma => ⟨_, sees_iff.1 hcomma⟩

theorem dot (h : Onward s t) :
    (if t.sees .dot && t.seesAt 1 .ident then Turn.again v t.bump else Turn.stop w t).Ahead s :=
  separator h fun hdot => ⟨_, sees_iff.1 (Bool.and_eq_true_iff.1 hdot).1⟩

end Turn.Ahead

namespace Advances

variable {α : Type} {turn : α → State → Turn α} {v v' : α}

theorem onward_from {r : State} (h : Advances turn) (first : Onward r (turn v s).state) :
    Onward r (repeatWhile turn v s).2 :=
  repeatWhile_rel Onward (fun _ _ _ => .trans) (fun v s => (h v s).onward) first

theorem onward (h : Advances turn) (v : α) (s : State) : Onward s (repeatWhile turn v s).2 :=
  h.onward_from (h v s).onward

theorem again (h : Advances turn) (hturn : turn v s = .again v' t) :
    Onward s t ∧ s.cursor < t.cursor ∧ t.cursor ≤ s.tokens.size := by
  have ahead := h v s
  rw [hturn] at ahead
  obtain ⟨onward, moved⟩ := ahead
  have := onward.bounded
  exact ⟨onward, moved, by omega⟩

/-- A turn that asks for another one leaves fewer tokens to be read. -/
theorem remaining_lt (h : Advances turn) (hturn : turn v s = .again v' t) :
    t.remaining < s.remaining := by
  obtain ⟨onward, moved, bounded⟩ := h.again hturn
  simp only [State.remaining, onward.tokens]
  omega

/-- A loop whose turns advance ends only with a turn that says so: what keeps loops from running on
forever never cuts it short. -/
theorem repeatWhile_eq (h : Advances turn) (v : α) (s : State) :
    repeatWhile turn v s =
      match turn v s with
      | .stop v' t => (v', t)
      | .again v' t => repeatWhile turn v' t := by
  cases hturn : turn v s with
  | stop v' t => rw [repeatWhile, hturn]
  | again v' t =>
    rw [repeatWhile, hturn]
    exact if_pos (h.remaining_lt hturn)

theorem whileTurn {condition : State → Bool} {step : State → State}
    (h : ∀ s, condition s → Onward s (step s) ∧ s.cursor < (step s).cursor) :
    Advances (whileTurn condition step) := by
  intro _ s
  unfold Grammar.whileTurn
  split
  · rename_i hs
    exact h s hs
  · exact .refl s

end Advances

theorem Onward.whileSeen {condition : State → Bool} {step : State → State}
    (h : Advances (whileTurn condition step)) (s : State) : Onward s (whileSeen condition step s) :=
  h.onward () s

/-! ## Recovering -/

theorem seesJunk_advances : Advances (whileTurn State.seesJunk State.bump) := by
  refine .whileTurn fun s hs => ?_
  obtain ⟨kind, hpeek, _⟩ := (Option.any_eq_true ..).1 hs
  exact ⟨.bump s, cursor_lt_bump hpeek⟩

theorem balanceTurn_advances : Advances State.balanceTurn := by
  intro count s
  unfold State.balanceTurn
  split
  · exact .refl s
  · rename_i hpeek
    exact .bump hpeek

namespace Onward

theorem junk (s : State) : Onward s s.junk := by
  unfold State.junk
  split
  · exact refl s
  · refine ((bump s).trans (whileSeen seesJunk_advances _)).trans ?_
    exact ite (report ..) (report ..)

theorem skipBalanced (s : State) : Onward s s.skipBalanced := balanceTurn_advances.onward 0 s

theorem skipTooDeep (s : State) : Onward s s.skipTooDeep := (report s _ _).trans (skipBalanced _)

/-- A region that is skipped is moved over at least by its first token. -/
theorem lt_skipTooDeep (h : s.peek = some kind) : s.cursor < s.skipTooDeep.cursor := by
  obtain ⟨i, heq, _⟩ := movesOver_skipBalanced (s := s.report .tooDeep s.currentSpan) h
  have moved := cursor_lt_bump (s := s.report .tooDeep s.currentSpan) h
  rw [State.skipTooDeep, heq]
  exact Nat.lt_of_lt_of_le moved (Nat.le_add_right ..)

theorem guarded {step : State → State} (h : Onward s (step s)) : Onward s (guarded step s) := by
  rw [guarded_eq]
  exact ite (h.trans (junk _)) h

/-- A guarded step moves over a token if there is one. -/
theorem lt_guarded {step : State → State} (h : Onward s (step s)) (hpeek : s.peek = some kind) :
    s.cursor < (Grammar.guarded step s).cursor := by
  have := h.le
  rw [guarded_eq]
  split
  · rename_i same
    have hpeek : (step s).peek = some kind := by
      simpa [State.peek, State.peekAt, State.tokenAt?, h.tokens, same] using hpeek
    have := cursor_lt_junk hpeek
    omega
  · omega

end Onward

/-- The regions one level deeper go onward, and a block moves over a token if there is one. -/
structure Inner.Steady (inner : Inner) : Prop where
  expression : ∀ stops s, Onward s (inner.expression stops s)
  block : ∀ s, Onward s (inner.block s)
  lt_block : ∀ {s kind}, s.peek = some kind → s.cursor < (inner.block s).cursor
  body : ∀ isEnum s, Onward s (inner.body isEnum s)

variable {inner : Inner}

/-! ## Types, annotations and modifiers -/

theorem dottedTurn_advances {after : State → State} (h : ∀ s, Onward s (after s)) :
    Advances (dottedTurn after) := fun _ s => .dot ((Onward.reference s).trans (h _))

namespace Onward

/-- A dotted name goes onward from behind its first segment. -/
theorem dotted {after : State → State} (h : ∀ s, Onward s (after s)) (s : State) :
    Onward s.reference (dotted after s) := by
  refine (dottedTurn_advances h).onward_from ((h s.reference).trans ?_)
  unfold dottedTurn
  rw [apply_ite Turn.state]
  exact ite (bump _) (refl _)

theorem parenthesized (hi : inner.Steady) (construct : Construct) (s : State) :
    Onward s (parenthesized inner construct s) :=
  (bump s).trans ((hi.expression [] _).trans (expect ..))

theorem parenthesizedIfSeen (hi : inner.Steady) (construct : Construct) (s : State) :
    Onward s (parenthesizedIfSeen inner construct s) := ite (parenthesized hi construct s) (refl s)

theorem annotationUse (hi : inner.Steady) (s : State) : Onward s.bump (annotationUse inner s) := by
  refine .trans (ite ?_ (refl _)) (parenthesizedIfSeen hi .annotationUse _)
  exact (reference _).trans (dotted refl _)

theorem modifierSize (s : State) : Onward s (s.advance (modifierSize s)) := by
  unfold Grammar.modifierSize
  split
  · rename_i hpeek
    split
    · exact advance hpeek
    · exact refl s
  · rename_i hpeek
    split
    · exact advance hpeek
    split
    · rename_i h
      exact advance (peekAt_of_spells (Bool.and_eq_true_iff.1 h).2)
    · exact refl s
  · exact refl s

theorem modifier (hi : inner.Steady) (s : State) : Onward s (modifier inner s) :=
  ite ((bump s).trans (annotationUse hi s)) (modifierSize s)

theorem variableModifier (hi : inner.Steady) (s : State) : Onward s (variableModifier inner s) :=
  ite ((bump s).trans (annotationUse hi s)) (bump s)

end Onward

/-- An annotation moves over its sign. -/
theorem lt_annotationUse (hi : inner.Steady) (h : s.peek = some kind) :
    s.cursor < (annotationUse inner s).cursor := (Onward.annotationUse hi s).lt_of_bump h

theorem annotations_advance (hi : inner.Steady) :
    Advances (whileTurn (·.sees .atSign) (annotationUse inner)) :=
  .whileTurn fun s hs =>
    ⟨(Onward.bump s).trans (.annotationUse hi s), lt_annotationUse hi (sees_iff.1 hs)⟩

theorem typeAnnotations_advance (hi : inner.Steady) :
    Advances (whileTurn seesAnnotationUse (annotationUse inner)) :=
  .whileTurn fun s hs => ⟨(Onward.bump s).trans (.annotationUse hi s),
    lt_annotationUse hi (sees_iff.1 (Bool.and_eq_true_iff.1 hs).1)⟩

theorem modifiers_advance (hi : inner.Steady) :
    Advances (whileTurn seesModifier (modifier inner)) := by
  refine .whileTurn fun s hs => ⟨.modifier hi s, ?_⟩
  unfold modifier
  split
  · rename_i h
    exact lt_annotationUse hi (sees_iff.1 (Bool.and_eq_true_iff.1 h).1)
  · rename_i h
    have hsize : modifierSize s ≠ 0 := by simpa [seesModifier, h] using hs
    simp only [State.advance]
    omega

theorem variableModifiers_advance (hi : inner.Steady) :
    Advances (whileTurn seesVariableModifier (variableModifier inner)) := by
  refine .whileTurn fun s hs => ⟨.variableModifier hi s, ?_⟩
  unfold variableModifier
  split
  · rename_i h
    exact lt_annotationUse hi (sees_iff.1 (Bool.and_eq_true_iff.1 h).1)
  · rename_i h
    have hfinal : s.sees (.keyword .final) := by simpa [seesVariableModifier, h] using hs
    exact cursor_lt_bump (sees_iff.1 hfinal)

theorem dims_advance : Advances (whileTurn seesDims (·.advance 2)) := by
  refine .whileTurn fun s hs => ⟨?_, ?_⟩
  · exact .advance (seesAt_iff.1 (Bool.and_eq_true_iff.1 hs).2)
  · simp [State.advance]

theorem typeArgumentTurn_advances (hi : inner.Steady) : Advances (typeArgumentTurn inner) := by
  intro count s
  unfold typeArgumentTurn
  split
  · rename_i hpeek
    exact .again (.refl _) hpeek
  · rename_i hpeek
    exact .bump hpeek
  · rename_i hpeek
    exact ⟨.reference s, cursor_lt_reference hpeek⟩
  · rename_i hpeek
    exact .again (.annotationUse hi s) hpeek
  · split
    · rename_i joins
      cases hpeek : s.peek with
      | none => simp [joinsTypes, hpeek] at joins
      | some kind => exact .again (.refl _) hpeek
    · exact .refl s

namespace Onward

theorem skipModifiers (hi : inner.Steady) (s : State) : Onward s (skipModifiers inner s) :=
  whileSeen (modifiers_advance hi) s

theorem skipVariableModifiers (hi : inner.Steady) (s : State) :
    Onward s (skipVariableModifiers inner s) := whileSeen (variableModifiers_advance hi) s

theorem skipDims (s : State) : Onward s (skipDims s) := whileSeen dims_advance s

theorem typeArguments (hi : inner.Steady) (s : State) : Onward s.bump (typeArguments inner s) :=
  (typeArgumentTurn_advances hi).onward 0 _

theorem typeArgumentsIfSeen (hi : inner.Steady) (s : State) :
    Onward s (typeArgumentsIfSeen inner s) := ite ((bump s).trans (typeArguments hi s)) (refl s)

theorem classType (hi : inner.Steady) (s : State) : Onward s.reference (classType inner s) :=
  dotted (typeArgumentsIfSeen hi) s

/-- A type goes onward, and moves the cursor if it is there. -/
theorem typeName (hi : inner.Steady) (s : State) :
    Onward s (typeName inner s).2 ∧
      ((Grammar.typeName inner s).1 = true → s.cursor < (Grammar.typeName inner s).2.cursor) := by
  have annotations := whileSeen (typeAnnotations_advance hi) s
  unfold Grammar.typeName
  dsimp only
  generalize Grammar.whileSeen seesAnnotationUse (Grammar.annotationUse inner) s = t at annotations
  have word {kind : Token.Kind} (h : t.peek = some kind) :
      s.cursor < (Grammar.skipDims t.bump).cursor :=
    Nat.lt_of_le_of_lt annotations.le ((skipDims t.bump).lt_of_bump h)
  split
  · rename_i hpeek
    split
    · exact ⟨annotations.trans ((bump t).trans (skipDims _)), fun _ => word hpeek⟩
    · exact ⟨annotations, nofun⟩
  · rename_i hpeek
    split
    · exact ⟨annotations.trans ((bump t).trans (skipDims _)), fun _ => word hpeek⟩
    · have named := (classType hi t).trans (skipDims _)
      refine ⟨annotations.trans ((reference t).trans named), fun _ => ?_⟩
      have taken := Nat.lt_of_lt_of_le (cursor_lt_reference hpeek) named.le
      exact Nat.lt_of_le_of_lt annotations.le taken
  · exact ⟨annotations, nofun⟩

end Onward

theorem typeListTurn_advances (hi : inner.Steady) : Advances (typeListTurn inner) :=
  fun _ s => .separator (Onward.typeName hi s).1 fun h =>
    ⟨_, sees_iff.1 (Bool.and_eq_true_iff.1 h).2⟩

theorem Onward.typeList (hi : inner.Steady) (s : State) : Onward s (typeList inner s) :=
  (typeListTurn_advances hi).onward () s

/-! ## Expressions -/

namespace Onward

theorem blockIfSeen (hi : inner.Steady) (s : State) : Onward s (blockIfSeen inner s) :=
  ite (hi.block s) (refl s)

theorem bodyIfSeen (hi : inner.Steady) (s : State) : Onward s (bodyIfSeen inner s) :=
  ite (hi.body false s) (refl s)

theorem dimension (hi : inner.Steady) (s : State) : Onward s.bump (dimension inner s) :=
  (hi.expression [] _).trans (eat ..)

end Onward

theorem dimensions_advance (hi : inner.Steady) :
    Advances (whileTurn (·.sees .lbracket) (dimension inner)) :=
  .whileTurn fun s hs => ⟨(Onward.bump s).trans (.dimension hi s),
    (Onward.dimension hi s).lt_of_bump (sees_iff.1 hs)⟩

namespace Onward

theorem arrayCreation (hi : inner.Steady) (s : State) : Onward s (arrayCreation inner s) :=
  (whileSeen (dimensions_advance hi) s).trans (blockIfSeen hi _)

theorem creationRest (hi : inner.Steady) (s : State) : Onward s (creationRest inner s) :=
  ite (arrayCreation hi s)
    (ite ((parenthesized hi .instanceCreation s).trans (bodyIfSeen hi _)) (refl s))

theorem instanceCreation (hi : inner.Steady) (s : State) :
    Onward s.bump (instanceCreation inner s) := by
  refine (typeArgumentsIfSeen hi _).trans ((whileSeen (annotations_advance hi) _).trans ?_)
  unfold Grammar.instanceCreation
  dsimp only
  split
  · exact ite ((bump _).trans (creationRest hi _)) (refl _)
  · exact (reference _).trans ((classType hi _).trans (creationRest hi _))
  · exact refl _

theorem switchExpression (hi : inner.Steady) (s : State) :
    Onward s.bump (switchExpression inner s) :=
  (parenthesizedIfSeen hi .switchExpression _).trans (blockIfSeen hi _)

end Onward

/-- Skimming advances if what it does at braces, `new` and `switch` goes onward behind them. -/
theorem skimTurn_advances {block creation choice : State → State}
    (hblock : ∀ {s kind}, s.peek = some kind → Onward s (block s) ∧ s.cursor < (block s).cursor)
    (hcreation : ∀ s, Onward s.bump (creation s)) (hchoice : ∀ s, Onward s.bump (choice s))
    (stops : List Token.Kind) : Advances (skimTurn block creation choice stops) := by
  intro count s
  unfold skimTurn
  split
  · exact .refl s
  · rename_i kind hpeek
    split
    · exact .refl s
    split
    · exact .refl s
    · exact .refl s
    · split
      · exact .refl s
      · exact .again (.refl _) hpeek
    · split
      · exact .refl s
      · exact .again (.refl _) hpeek
    · exact .again (.refl _) hpeek
    · exact .again (.refl _) hpeek
    · exact hblock hpeek
    · exact ⟨.reference s, cursor_lt_reference hpeek⟩
    · exact .again (hcreation s) hpeek
    · exact .again (hchoice s) hpeek
    · exact .again (.refl _) hpeek

theorem skim_advances (hi : inner.Steady) (stops : List Token.Kind) :
    Advances (skimTurn inner.block (instanceCreation inner) (switchExpression inner) stops) :=
  skimTurn_advances (fun h => ⟨hi.block _, hi.lt_block h⟩) (.instanceCreation hi)
    (.switchExpression hi) stops

theorem skimFlat_advances (stops : List Token.Kind) :
    Advances (skimTurn State.skipTooDeep State.bump State.bump stops) :=
  skimTurn_advances (fun h => ⟨.skipTooDeep _, Onward.lt_skipTooDeep h⟩) (fun _ => .refl _)
    (fun _ => .refl _) stops

namespace Onward

theorem skim (hi : inner.Steady) (stops : List Token.Kind) (s : State) :
    Onward s (skim inner stops s) := (skim_advances hi stops).onward 0 s

theorem skimFlat (stops : List Token.Kind) (s : State) : Onward s (skimFlat stops s) :=
  (skimFlat_advances stops).onward 0 s

end Onward

/-! ## Members -/

theorem declaratorTurn_advances (hi : inner.Steady) (flavor : Flavor) :
    Advances (declaratorTurn inner flavor) := by
  intro _ s
  unfold declaratorTurn
  split
  · exact .refl s
  · rename_i name t hname
    have opened := Onward.openDeclaration t flavor name name.span.start
    refine .comma ((Onward.identifier? hname).trans (.trans ?_ (.closeDeclaration ..)))
    refine opened.trans ((Onward.skipDims _).trans ?_)
    exact .ite ((Onward.bump _).trans (hi.expression [.comma] _)) (.refl _)

namespace Onward

theorem declarators (hi : inner.Steady) (flavor : Flavor) (s : State) :
    Onward s (declarators inner flavor s) := (declaratorTurn_advances hi flavor).onward () s

/-- A parameter goes onward, and moves over a token if there is one. -/
theorem formalParameter (hi : inner.Steady) (flavor : Flavor) (s : State) :
    Onward s (formalParameter inner flavor s) ∧
      (s.peek ≠ none → s.cursor < (formalParameter inner flavor s).cursor) := by
  have modifiers := skipVariableModifiers hi s
  obtain ⟨typed, moved⟩ := typeName hi (Grammar.skipVariableModifiers inner s)
  have whole := modifiers.trans typed
  unfold Grammar.formalParameter
  dsimp only
  generalize Grammar.typeName inner _ = result at *
  split
  · refine ⟨whole.trans (junk _), fun hs => ?_⟩
    cases hpeek : result.2.peek with
    | none =>
      -- All tokens that are left have been taken for modifiers.
      have := peek_eq_none_iff.1 hpeek
      have := mt peek_eq_none_iff.2 hs
      have := (junk result.2).le
      rw [whole.tokens] at *
      omega
    | some kind => exact Nat.lt_of_le_of_lt whole.le (cursor_lt_junk hpeek)
  · rename_i found
    have moved := Nat.lt_of_le_of_lt modifiers.le (moved (by simpa using found))
    suffices rest : Onward result.2 _ from
      ⟨whole.trans rest, fun _ => Nat.lt_of_lt_of_le moved rest.le⟩
    refine (eat ..).trans (ite (bump _) ?_)
    split
    · exact report ..
    · rename_i name t hname
      exact (identifier? hname).trans
        ((openDeclaration t flavor name _).trans ((skipDims _).trans (closeDeclaration ..)))

end Onward

theorem parameterTurn_advances (hi : inner.Steady) (flavor : Flavor) (construct : Construct) :
    Advances (parameterTurn inner flavor construct) := by
  intro _ s
  obtain ⟨onward, moved⟩ := Onward.formalParameter hi flavor s
  unfold parameterTurn
  split
  · exact Onward.bump s
  case h_6 hpeek => exact .again (.refl _) hpeek
  case h_7 hpeek => exact ⟨onward, moved (by simp [hpeek])⟩
  all_goals exact .expect ..

theorem Onward.formalParameters (hi : inner.Steady) (flavor : Flavor) (construct : Construct)
    (s : State) : Onward s.bump (formalParameters inner flavor construct s) :=
  (parameterTurn_advances hi flavor construct).onward () _

theorem headerTurn_advances (hi : inner.Steady) (flavor : Flavor) :
    Advances (headerTurn inner flavor) := by
  intro _ s
  unfold headerTurn
  split
  · rename_i hpeek
    exact .again (.typeArguments hi s) hpeek
  · rename_i hpeek
    split
    · exact .again (.formalParameters hi .field .recordHeader s) hpeek
    · exact .refl s
  · rename_i hpeek
    exact .again (.typeList hi _) hpeek
  · rename_i hpeek
    exact .again (.typeList hi _) hpeek
  · rename_i hpeek
    split
    · exact .again (.typeList hi _) hpeek
    · exact .refl s
  · exact .refl s

namespace Onward

theorem typeHeader (hi : inner.Steady) (flavor : Flavor) (s : State) :
    Onward s (typeHeader inner flavor s) := (headerTurn_advances hi flavor).onward () s

theorem typeDeclaration (hi : inner.Steady) (start : Nat) (flavor : Flavor) (s : State) :
    Onward s (typeDeclaration inner start flavor s) := by
  refine (bump s).trans ?_
  unfold Grammar.typeDeclaration
  dsimp only
  split
  · exact (report ..).trans (ite (hi.body ..) (refl _))
  · rename_i name t hname
    have opened := openDeclaration t flavor name start
    refine (identifier? hname).trans (opened.trans ((typeHeader hi flavor _).trans ?_))
    exact (ite (hi.body ..) (report ..)).trans (closeDeclaration ..)

theorem methodRest (hi : inner.Steady) (start : Nat) (flavor : Flavor) (name : Identifier)
    (s : State) : Onward s (methodRest inner start flavor name s) := by
  have parameters (t : State) : Onward t (if t.sees .lparen then
      Grammar.formalParameters inner .parameter .methodDeclaration t else t) :=
    ite ((bump t).trans (.formalParameters hi ..)) (refl t)
  have thrown (t : State) :
      Onward t (if t.sees (.keyword .throws) then Grammar.typeList inner t.bump else t) :=
    ite ((bump t).trans (typeList hi _)) (refl t)
  have value (t : State) :
      Onward t (if t.sees (.keyword .default) then inner.expression [] t.bump else t) :=
    ite ((bump t).trans (hi.expression [] _)) (refl t)
  have block (t : State) : Onward t
      (if t.sees .lbrace then inner.block t else t.expectSemicolon .methodDeclaration) :=
    ite (hi.block t) (expect ..)
  exact (openDeclaration s flavor name start).trans ((parameters _).trans ((skipDims _).trans
    ((thrown _).trans ((value _).trans ((block _).trans (closeDeclaration ..))))))

theorem typedMember (hi : inner.Steady) (start : Nat) (s : State) :
    Onward s (typedMember inner start s) := by
  unfold Grammar.typedMember
  split
  · exact (report ..).trans (eat ..)
  · rename_i hname
    exact ite ((identifier? hname).trans (methodRest hi ..)) ((declarators hi ..).trans (expect ..))

theorem fieldOrMethod (hi : inner.Steady) (start : Nat) (s : State) :
    Onward s (fieldOrMethod inner start s) := by
  unfold Grammar.fieldOrMethod
  split
  · rename_i hname _
    exact (identifier? hname).trans (methodRest hi ..)
  · rename_i hname _
    exact (identifier? hname).trans (methodRest hi ..)
  · exact (typeName hi s).1.trans (ite (typedMember hi ..) (junk _))

theorem member (hi : inner.Steady) (s : State) : Onward s (member inner s) := by
  refine (skipModifiers hi s).trans ?_
  unfold Grammar.member
  dsimp only
  split
  · exact typeDeclaration hi ..
  · exact ite (report ..) (refl _)
  · exact hi.block _
  · exact ite ((bump _).trans (typeDeclaration hi ..)) (fieldOrMethod hi ..)
  · exact ((bump _).trans (typeArguments hi _)).trans (fieldOrMethod hi ..)
  · exact fieldOrMethod hi ..

end Onward

theorem constantTurn_advances (hi : inner.Steady) : Advances (constantTurn inner) := by
  intro _ s
  have annotations := Onward.whileSeen (annotations_advance hi) s
  unfold constantTurn
  dsimp only
  split
  · exact annotations
  · rename_i name t hname
    have opened := Onward.openDeclaration t .enumConstant name name.span.start
    refine .comma (annotations.trans ((Onward.identifier? hname).trans (opened.trans ?_)))
    exact (Onward.parenthesizedIfSeen hi .enumConstant _).trans
      ((Onward.bodyIfSeen hi _).trans (.closeDeclaration ..))

theorem bodyTurn_advances (hi : inner.Steady) : Advances (bodyTurn inner) := by
  intro _ s
  unfold bodyTurn
  split
  · exact .report ..
  · exact Onward.bump s
  · rename_i hpeek
    exact .again (.refl _) hpeek
  · rename_i hpeek
    exact ⟨.guarded (.member hi s), Onward.lt_guarded (.member hi s) hpeek⟩

namespace Onward

theorem enumConstants (hi : inner.Steady) (s : State) : Onward s (enumConstants inner s) :=
  ((constantTurn_advances hi).onward () s).trans (eat ..)

theorem body (hi : inner.Steady) (isEnum : Bool) (s : State) : Onward s (body inner isEnum s) :=
  ((bump s).trans (ite (enumConstants hi _) (refl _))).trans ((bodyTurn_advances hi).onward () _)

/-! ## Statements -/

theorem seesLocalType (hi : inner.Steady) (s : State) : Onward s (seesLocalType inner s).2 :=
  (skipModifiers hi s).rewind

theorem localVariables (hi : inner.Steady) (s : State) : Onward s (localVariables inner s).2 := by
  have typed := (skipVariableModifiers hi s).trans (typeName hi _).1
  unfold Grammar.localVariables
  dsimp only
  split
  · exact typed.trans (declarators hi ..)
  · exact typed.rewind

theorem variablesOrExpression (hi : inner.Steady) (s : State) :
    Onward s (variablesOrExpression inner s) :=
  (localVariables hi s).trans (ite (refl _) (hi.expression [] _))

theorem forHeader (hi : inner.Steady) (s : State) : Onward s (forHeader inner s) := by
  have opening (t : State) :
      Onward t (if t.sees .semi then t else Grammar.variablesOrExpression inner t) :=
    ite (refl t) (variablesOrExpression hi t)
  have rest (t : State) : Onward t
      (if t.sees .colon then inner.expression [] t.bump
      else if t.sees .semi then inner.expression [] ((inner.expression [] t.bump).eat .semi)
      else t) := by
    refine ite ((bump t).trans (hi.expression [] _)) (ite ?_ (refl t))
    exact (bump t).trans ((hi.expression [] _).trans ((eat ..).trans (hi.expression [] _)))
  exact (bump s).trans ((opening _).trans ((rest _).trans (expect ..)))

end Onward

theorem resourceTurn_advances (hi : inner.Steady) : Advances (resourceTurn inner) := by
  intro _ s
  have read := Onward.variablesOrExpression hi s
  unfold resourceTurn
  split
  · exact Onward.bump s
  case h_5 hpeek => exact .again (.refl _) hpeek
  case h_6 hpeek => exact ⟨.guarded read, Onward.lt_guarded read hpeek⟩
  all_goals exact .expect ..

theorem alternatives_advance (hi : inner.Steady) :
    Advances (whileTurn (·.seesOperator 0 "|") (alternativeType inner)) := by
  refine .whileTurn fun s hs => ?_
  have typed : Onward s.bump (alternativeType inner s) := (Onward.typeName hi s.bump).1
  exact ⟨(Onward.bump s).trans typed, typed.lt_of_bump (peekAt_of_spells hs)⟩

namespace Onward

theorem resources (hi : inner.Steady) (s : State) : Onward s (resources inner s) :=
  (bump s).trans ((resourceTurn_advances hi).onward () _)

theorem alternativeTypes (hi : inner.Steady) (s : State) : Onward s (alternativeTypes inner s) :=
  whileSeen (alternatives_advance hi) s

theorem catchParameter (hi : inner.Steady) (s : State) : Onward s (catchParameter inner s) := by
  refine (bump s).trans ((skipVariableModifiers hi _).trans ((typeName hi _).1.trans ?_))
  unfold Grammar.catchParameter
  dsimp only
  refine .trans (ite ((alternativeTypes hi _).trans ?_) (refl _)) (expect ..)
  split
  · exact report ..
  · rename_i name t hname
    exact (identifier? hname).trans
      ((openDeclaration t .parameter name _).trans (closeDeclaration ..))

theorem wordAndExpression (hi : inner.Steady) (s : State) : Onward s (wordAndExpression inner s) :=
  (bump s).trans ((hi.expression [] _).trans (eat ..))

theorem caseLabel (hi : inner.Steady) (s : State) : Onward s (caseLabel inner s) :=
  (bump s).trans ((hi.expression _ _).trans (ite (bump _) (eat ..)))

theorem otherStatement (hi : inner.Steady) (s : State) : Onward s (otherStatement inner s) :=
  (seesLocalType hi s).trans (ite (member hi _) ((variablesOrExpression hi _).trans (eat ..)))

theorem statement (hi : inner.Steady) (s : State) : Onward s (statement inner s) := by
  unfold Grammar.statement
  split
  case h_1 => exact refl s
  case h_2 => exact hi.block s
  case h_3 => exact bump s
  case h_4 | h_5 => exact junk s
  case h_6 | h_7 | h_8 | h_9 => exact (bump s).trans (parenthesizedIfSeen hi .statement _)
  case h_10 | h_11 | h_12 => exact bump s
  case h_13 => exact (bump s).trans (ite (resources hi _) (refl _))
  case h_14 => exact (bump s).trans (ite (catchParameter hi _) (refl _))
  case h_15 => exact (bump s).trans (ite (forHeader hi _) (refl _))
  case h_16 => exact caseLabel hi s
  case h_17 =>
    split
    · rename_i separated
      rcases Bool.or_eq_true_iff.1 separated with h | h
      · exact advance (seesAt_iff.1 h)
      · exact advance (seesAt_iff.1 h)
    · exact otherStatement hi s
  case h_18 | h_19 | h_20 | h_21 | h_22 => exact wordAndExpression hi s
  case h_23 =>
    split
    · rename_i colon
      exact advance (seesAt_iff.1 colon)
    · exact ite (wordAndExpression hi s) (otherStatement hi s)
  case h_24 => exact otherStatement hi s

end Onward

theorem blockTurn_advances (hi : inner.Steady) : Advances (blockTurn inner) := by
  intro _ s
  unfold blockTurn
  split
  · exact .report ..
  · exact Onward.bump s
  · rename_i hpeek
    exact ⟨.guarded (.statement hi s), Onward.lt_guarded (.statement hi s) hpeek⟩

theorem Onward.block (hi : inner.Steady) (s : State) : Onward s.bump (block inner s) :=
  (blockTurn_advances hi).onward () _

/-! ## Levels -/

/-- Going deeper and back keeps the depth. -/
theorem Onward.descend {region flat : State → State} (inside : ∀ t, Onward t (region t))
    (outside : Onward s (flat s)) : Onward s (descend region flat s) := by
  unfold Grammar.descend
  split
  · rename_i t h
    obtain ⟨_, rfl⟩ := enter?_eq_some_iff.1 h
    have onward := inside { s with depth := s.depth + 1 }
    refine ⟨onward.tokens, ?_, onward.le, onward.bounded⟩
    have := onward.depth
    simp only [State.leave] at this ⊢
    omega
  · exact outside

theorem cursor_descend {region flat : State → State} {motive : Nat → Prop}
    (inside : ∀ t, s.enter? = some t → motive (region t).cursor)
    (outside : motive (flat s).cursor) : motive (descend region flat s).cursor := by
  unfold Grammar.descend
  split
  · rename_i t h
    exact inside t h
  · exact outside

/-- The regions of every level go onward. -/
theorem nested_steady (levels : Nat) : (nested levels).Steady := by
  induction levels with
  | zero =>
    exact
      { expression := .skimFlat
        block := .skipTooDeep
        lt_block := Onward.lt_skipTooDeep
        body := fun _ => .skipTooDeep }
  | succ levels hi =>
    exact
      { expression := fun stops s => .descend (.skim hi stops) (.skimFlat stops s)
        block := fun s => .descend (fun t => (Onward.bump t).trans (.block hi t)) (.skipTooDeep s)
        lt_block := fun {s kind} h => by
          refine cursor_descend (motive := (s.cursor < ·)) (fun t ht => ?_)
            (Onward.lt_skipTooDeep h)
          obtain ⟨_, rfl⟩ := enter?_eq_some_iff.1 ht
          exact Onward.lt_of_bump (s := { s with depth := s.depth + 1 }) h (.block hi _)
        body := fun isEnum s => .descend (.body hi isEnum) (.skipTooDeep s) }

/-! ## The whole source -/

theorem segmentTurn_advances : Advances segmentTurn := fun _ s => .dot (.bump s)

namespace Onward

theorem qualifiedName (s : State) : Onward s (qualifiedName s).2 := by
  unfold Grammar.qualifiedName
  split
  · exact segmentTurn_advances.onward #[] s
  · exact refl s

theorem packageDeclaration (s : State) : Onward s.bump (packageDeclaration s) :=
  (qualifiedName _).trans (ite (report ..) (expect ..))

theorem importDeclaration (s : State) : Onward s.bump (importDeclaration s) := by
  have declared (t : State) (imports : Array Import) : Onward t { t with imports } :=
    of_eq rfl rfl rfl
  have star (t : State) :
      Onward t (if t.sees .dot && t.seesOperator 1 "*" then t.advance 2 else t) := by
    split
    · rename_i h
      exact advance (peekAt_of_spells (Bool.and_eq_true_iff.1 h).2)
    · exact refl t
  refine (eat s.bump (.keyword .static)).trans ((qualifiedName _).trans ?_)
  unfold Grammar.importDeclaration
  dsimp only
  exact ite (report ..) ((star _).trans ((declared _ _).trans (expect ..)))

end Onward

theorem unitTurn_advances (hi : inner.Steady) : Advances (unitTurn inner) := by
  intro _ s
  unfold unitTurn
  split
  · exact .refl s
  · rename_i hpeek
    exact .again (.packageDeclaration s) hpeek
  · rename_i hpeek
    exact .again (.importDeclaration s) hpeek
  · rename_i hpeek
    exact .again (.refl _) hpeek
  · rename_i hpeek
    exact ⟨.junk s, cursor_lt_junk hpeek⟩
  · rename_i hpeek
    exact ⟨.guarded (.member hi s), Onward.lt_guarded (.member hi s) hpeek⟩

theorem Onward.compilationUnit (hi : inner.Steady) (s : State) :
    Onward s (compilationUnit inner s) := (unitTurn_advances hi).onward () s

end JavaLens.Grammar
