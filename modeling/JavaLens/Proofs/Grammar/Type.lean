import JavaLens.Proofs.Grammar.Reading

/-!
# Types, annotations and modifiers are readings

Each function is a chain of readings of its parts. Where a caller relies on it, the cursor is shown
to move.
-/

namespace JavaLens.Grammar

variable {n : Nat} {s : State} {inner : Inner}

namespace Reads

theorem parenthesized (hi : inner.Sound n) (construct : Construct) (h : s.peek = some .lparen) :
    Reads n s (parenthesized inner construct s) :=
  (bump h rfl).trans ((hi.expression [] _).trans (expectCloseParen construct))

theorem parenthesizedIfSeen (hi : inner.Sound n) (construct : Construct) (s : State) :
    Reads n s (parenthesizedIfSeen inner construct s) :=
  ifSees (parenthesized hi construct) (refl n s)

/-- A dotted name is read, and its first segment is taken. -/
theorem dotted {after : State → State} (h : ∀ s, Reads n s (after s)) (s : State) :
    Takes n s s (Grammar.dotted after s) := by
  refine .repeatWhile (fun _ s => ?_) fun hpeek => ?_
  · refine ((reference n s).trans (h _)).trans ?_
    dsimp only [dottedTurn]
    split
    · rename_i hdot
      exact bump (sees_iff.1 (Bool.and_eq_true_iff.1 hdot).1) rfl
    · exact refl n _
  · have taken := Nat.lt_of_lt_of_le (cursor_lt_reference hpeek) (h s.reference).cursor_le
    dsimp only [dottedTurn]
    split
    · exact Nat.lt_of_lt_of_le taken (cursor_le_bump _)
    · exact taken

theorem annotationUse (hi : inner.Sound n) (h : s.peek = some .atSign) :
    Reads n s (annotationUse inner s) := by
  refine (bump h rfl).trans (.trans ?_ (parenthesizedIfSeen hi .annotationUse _))
  exact ifSees (fun _ => (dotted (refl n) _).toReads) (refl n _)

end Reads

theorem peek_of_seesAnnotationUse (h : seesAnnotationUse s) : s.peek = some .atSign :=
  sees_iff.1 (Bool.and_eq_true_iff.1 h).1

theorem plain_of_joinsTypes (h : joinsTypes s) : ∃ kind, s.peek = some kind ∧ isPlain kind := by
  unfold joinsTypes at h
  split at h
  case h_8 => cases h
  all_goals exact ⟨_, by assumption, rfl⟩

namespace Reads

theorem modifier (n : Nat) (s : State) : Reads n s (s.advance (modifierSize s)) := by
  unfold modifierSize
  split
  · rename_i hpeek
    split
    · exact advance hpeek rfl
    · exact refl n s
  · split
    · rename_i h
      exact overlookWord (Bool.and_eq_true_iff.1 h).1 (by decide)
    split
    · rename_i h
      simp only [Bool.and_eq_true] at h
      obtain ⟨⟨hnon, hminus⟩, hsealed⟩ := h
      have hyphened : Reads n s (s.advance 2) :=
        advance_two (overlookWord hnon (by decide)) (peekAt_of_spells hminus) rfl
      have word : Reads n (s.advance 2) ((s.advance 2).advance 1) :=
        overlookWord (by simpa [State.seesWord] using hsealed) (by decide)
      exact hyphened.trans word
    · exact refl n s
  · exact refl n s

theorem skipModifiers (hi : inner.Sound n) (s : State) : Reads n s (skipModifiers inner s) := by
  refine whileSeen (fun s _ => ?_) s
  unfold Grammar.modifier
  split
  · rename_i h
    exact annotationUse hi (peek_of_seesAnnotationUse h)
  · exact modifier n s

theorem skipVariableModifiers (hi : inner.Sound n) (s : State) :
    Reads n s (skipVariableModifiers inner s) := by
  refine whileSeen (fun s hs => ?_) s
  unfold variableModifier
  split
  · rename_i h
    exact annotationUse hi (peek_of_seesAnnotationUse h)
  · rename_i h
    have hfinal : s.sees (.keyword .final) := by simpa [seesVariableModifier, h] using hs
    exact bump (sees_iff.1 hfinal) rfl

theorem skipDims (n : Nat) (s : State) : Reads n s (skipDims s) := by
  refine whileSeen (fun s hs => ?_) s
  obtain ⟨hopen, hclose⟩ := Bool.and_eq_true_iff.1 hs
  exact advance_two (advance (sees_iff.1 hopen) rfl) (seesAt_iff.1 hclose) rfl

theorem typeArguments (hi : inner.Sound n) (h : s.peek = some .lt) :
    Reads n s (typeArguments inner s) := by
  refine (bump h rfl).trans (repeatWhile (fun count s => ?_) 0 _)
  unfold typeArgumentTurn
  split
  · rename_i hpeek
    exact bump hpeek rfl
  · rename_i hpeek
    split <;> exact bump hpeek rfl
  · exact reference n s
  · rename_i hpeek
    exact annotationUse hi hpeek
  · split
    · rename_i joins
      obtain ⟨kind, hpeek, plain⟩ := plain_of_joinsTypes joins
      exact bump hpeek plain
    · exact refl n s

theorem typeArgumentsIfSeen (hi : inner.Sound n) (s : State) :
    Reads n s (typeArgumentsIfSeen inner s) := ifSees (typeArguments hi) (refl n s)

theorem classType (hi : inner.Sound n) (s : State) : Takes n s s (classType inner s) :=
  dotted (typeArgumentsIfSeen hi) s

/-- A type is read, and where there is none the cursor is not at an identifier. -/
theorem typeName_cases (hi : inner.Sound n) (s : State) :
    Takes n s s (typeName inner s).2 ∧
      ((typeName inner s).1 = false → (typeName inner s).2.peek ≠ some .ident) := by
  have annotations := whileSeen (n := n)
    (fun s h => annotationUse hi (peek_of_seesAnnotationUse h)) s
  unfold typeName
  dsimp only
  generalize Grammar.whileSeen seesAnnotationUse (Grammar.annotationUse inner) s = t at annotations
  have found {u : State} (h : Takes n t t u) : Takes n s s (Grammar.skipDims u) :=
    annotations.trans_takes (h.trans (skipDims n u))
  have missing (hpeek : t.peek ≠ some .ident) : Takes n s s t :=
    annotations.trans_takes (.refl hpeek)
  split
  · rename_i hpeek
    split
    · exact ⟨found (.of_lt (bump hpeek rfl) (cursor_lt_bump hpeek)), nofun⟩
    · exact ⟨missing (by simp [hpeek]), fun _ => by simp [hpeek]⟩
  · rename_i hpeek
    split
    · rename_i hvar
      have word := bumpWord (n := n) (Bool.and_eq_true_iff.1 hvar).1 (by decide)
      exact ⟨found (.of_lt word (cursor_lt_bump hpeek)), nofun⟩
    · exact ⟨found (classType hi t), nofun⟩
  · rename_i hident
    exact ⟨missing hident, fun _ => hident⟩

theorem typeName (hi : inner.Sound n) (s : State) : Takes n s s (typeName inner s).2 :=
  (typeName_cases hi s).1

theorem peek_of_typeName (hi : inner.Sound n) (h : (Grammar.typeName inner s).1 = false) :
    (Grammar.typeName inner s).2.peek ≠ some .ident := (typeName_cases hi s).2 h

theorem typeList (hi : inner.Sound n) (s : State) : Reads n s (typeList inner s) := by
  refine repeatWhile (fun _ s => (typeName hi s).toReads.trans ?_) () s
  dsimp only [typeListTurn]
  split
  · rename_i h
    exact bump (sees_iff.1 (Bool.and_eq_true_iff.1 h).2) rfl
  · exact refl n _

end Reads

end JavaLens.Grammar
