import JavaLens.Grammar.Statement
import JavaLens.Proofs.Grammar.Member

/-!
# Statements are readings

What is tried and given up leaves the state as it was, so only what is kept is read. Every step
through a block takes the identifier it starts at: a block never reports a name as stray.
-/

namespace JavaLens.Grammar

variable {n : Nat} {s t : State} {inner : Inner} {kind : Token.Kind}

/-- Looking for a local type changes nothing. -/
theorem seesLocalType_snd (hi : inner.Sound n) (s : State) : (seesLocalType inner s).2 = s :=
  (Reads.skipModifiers hi s).rewind_eq

namespace Reads

/-- Local variables are read, or nothing has changed. -/
theorem localVariables_cases (hi : inner.Sound n) (s : State) :
    ((localVariables inner s).1 = true ∧ Takes n s s (localVariables inner s).2) ∨
      ((localVariables inner s).1 = false ∧ (localVariables inner s).2 = s) := by
  have typed := (skipVariableModifiers hi s).trans_takes (typeName hi _)
  unfold localVariables
  dsimp only
  split
  · exact .inl ⟨rfl, typed.trans (declarators hi .localVariable _)⟩
  · exact .inr ⟨rfl, typed.rewind_eq⟩

theorem variablesOrExpression (hi : inner.Sound n) (s : State) :
    Takes n s s (variablesOrExpression inner s) := by
  unfold Grammar.variablesOrExpression
  dsimp only
  obtain ⟨found, read⟩ | ⟨missing, same⟩ := localVariables_cases hi s
  · rwa [found, if_pos rfl]
  · rw [missing, same, if_neg Bool.false_ne_true]
    exact hi.whole_expression s

theorem forHeader (hi : inner.Sound n) (h : s.peek = some .lparen) :
    Reads n s (forHeader inner s) := by
  have start (s : State) : Reads n s (if s.sees .semi then s
      else Grammar.variablesOrExpression inner s) :=
    ifSees (fun _ => refl n s) (variablesOrExpression hi s).toReads
  have rest (s : State) : Reads n s (if s.sees .colon then inner.expression [] s.bump
      else if s.sees .semi then inner.expression [] ((inner.expression [] s.bump).eat .semi)
      else s) := by
    refine ifSees (fun h => ?each) (ifSees (fun h => ?counted) (refl n s))
    · exact (bump h rfl).trans (hi.expression [] _)
    · exact (bump h rfl).trans ((hi.expression [] _).trans ((eat rfl).trans (hi.expression [] _)))
  exact (bump h rfl).trans ((start _).trans ((rest _).trans (expectCloseParen .forStatement)))

theorem resources (hi : inner.Sound n) (h : s.peek = some .lparen) :
    Reads n s (resources inner s) := by
  refine (bump h rfl).trans (repeatWhile (fun _ s => ?_) () _)
  unfold resourceTurn
  split
  · rename_i hpeek
    exact bump hpeek rfl
  case h_5 hpeek => exact bump hpeek rfl
  case h_6 => exact .guarded (variablesOrExpression hi s)
  all_goals exact expectCloseParen .resourceSpecification

theorem alternativeTypes (hi : inner.Sound n) (s : State) :
    Reads n s (alternativeTypes inner s) :=
  whileSeen (fun _ hs => (bump (peekAt_of_spells hs) rfl).trans (typeName hi _).toReads) s

theorem catchParameter (hi : inner.Sound n) (h : s.peek = some .lparen) :
    Reads n s (catchParameter inner s) := by
  have typed := (skipVariableModifiers hi s.bump).trans (typeName hi _).toReads
  refine (bump h rfl).trans ?_
  unfold Grammar.catchParameter
  dsimp only
  generalize Grammar.typeName inner _ = result at typed ⊢
  refine .trans ?_ (expectCloseParen .catchClause)
  split
  · have types := typed.trans (alternativeTypes hi _)
    split
    · exact types.trans (missingDeclaratorId n _)
    · rename_i hname
      exact declaration .parameter types hname (refl n _)
  · exact typed

theorem caseLabel (hi : inner.Sound n) (h : s.peek = some (.keyword .case)) :
    Reads n s (caseLabel inner s) :=
  (bump h rfl).trans ((hi.expression [.colon, .arrow] _).trans
    (ifSees (fun h => bump h rfl) (eat rfl)))

theorem otherStatement (hi : inner.Sound n) (s : State) :
    Takes n s s (otherStatement inner s) := by
  unfold Grammar.otherStatement
  dsimp only
  rw [seesLocalType_snd hi]
  split
  · exact member hi s
  · exact (variablesOrExpression hi s).trans (eat rfl)

/-- A step that takes the word at the cursor and reads on behind it. -/
theorem behindWord (h : s.peek = some kind) (word : Reads n s s.bump) (rest : Reads n s.bump t) :
    Takes n s s t :=
  .of_lt (word.trans rest) (Nat.lt_of_lt_of_le (cursor_lt_bump h) rest.cursor_le)

theorem wordAndExpression (hi : inner.Sound n) (s : State) :
    Reads n s.bump (wordAndExpression inner s) := (hi.expression [] _).trans (eat rfl)

/-- A label or `default`, with what separates it from the statement. -/
theorem label (first : Reads n s (s.advance 1)) (h : s.peekAt 1 = some kind)
    (plain : isPlain kind) : Takes n s s (s.advance 2) :=
  .of_lt (advance_two first h plain) (by simp [State.advance])

theorem statement (hi : inner.Sound n) (s : State) : Takes n s s (statement inner s) := by
  unfold Grammar.statement
  split
  case h_1 hpeek => exact .refl (by simp [hpeek])
  case h_2 hpeek => exact .of_peek_ne (refl n s) (hi.block s hpeek) (by simp [hpeek])
  case h_3 hpeek => exact behindWord hpeek (bump hpeek rfl) (refl n _)
  case h_4 hpeek | h_5 hpeek =>
    exact .of_peek_ne (refl n s) (junk (by simp [hpeek])) (by simp [hpeek])
  case h_6 hpeek | h_7 hpeek | h_8 hpeek | h_9 hpeek =>
    exact behindWord hpeek (bump hpeek rfl) (parenthesizedIfSeen hi .statement _)
  case h_10 hpeek | h_11 hpeek | h_12 hpeek => exact behindWord hpeek (bump hpeek rfl) (refl n _)
  case h_13 hpeek =>
    exact behindWord hpeek (bump hpeek rfl) (ifSees (fun h => resources hi h) (refl n _))
  case h_14 hpeek =>
    exact behindWord hpeek (bump hpeek rfl) (ifSees (fun h => catchParameter hi h) (refl n _))
  case h_15 hpeek =>
    exact behindWord hpeek (bump hpeek rfl) (ifSees (fun h => forHeader hi h) (refl n _))
  case h_16 hpeek =>
    exact .of_peek_ne (refl n s) (caseLabel hi hpeek) (by simp [hpeek])
  case h_17 hpeek =>
    split
    · rename_i separated
      rcases Bool.or_eq_true_iff.1 separated with h | h
      · exact label (advance hpeek rfl) (seesAt_iff.1 h) rfl
      · exact label (advance hpeek rfl) (seesAt_iff.1 h) rfl
    · exact otherStatement hi s
  case h_18 hpeek | h_19 hpeek | h_20 hpeek | h_21 hpeek | h_22 hpeek =>
    exact behindWord hpeek (bump hpeek rfl) (wordAndExpression hi s)
  case h_23 hpeek =>
    split
    · rename_i colon
      have hcolon := seesAt_iff.1 colon
      exact label (overlook hpeek (.inr (.inl hcolon))) hcolon rfl
    split
    · rename_i yields
      have word := bumpWord (n := n) (Bool.and_eq_true_iff.1 yields).1 (by decide)
      exact behindWord hpeek word (wordAndExpression hi s)
    · exact otherStatement hi s
  case h_24 => exact otherStatement hi s

/-- A block is a region whose inside is read one level deeper. -/
theorem block (hi : inner.Sound n) (h : s.peek = some .lbrace) :
    Reads (n + 1) s (block inner s) := by
  refine braces .block h (refl n _) (fun u hpeek => by simp [blockTurn, hpeek])
    (fun u hpeek => by simp [blockTurn, hpeek]) (fun u kind hpeek hkind => ?_)
  have read := statement hi u
  exact ⟨Grammar.guarded (Grammar.statement inner) u, by simp [blockTurn, hpeek], .guarded read,
    cursor_lt_guarded read.toReads hpeek⟩

end Reads

end JavaLens.Grammar
