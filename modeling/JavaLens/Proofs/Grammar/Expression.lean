import JavaLens.Grammar.Expression
import JavaLens.Proofs.Grammar.Type

/-!
# Expressions are readings

An expression is skimmed in turns that each pass over a token, mention an identifier or read a
region. The two ways of skimming differ only in what they do at braces, `new` and `switch`.
-/

namespace JavaLens.Grammar

variable {n : Nat} {s : State} {inner : Inner}

namespace Reads

theorem blockIfSeen (hi : inner.Sound n) (s : State) : Reads n s (blockIfSeen inner s) :=
  ifSees (hi.block s) (refl n s)

theorem bodyIfSeen (hi : inner.Sound n) (s : State) : Reads n s (bodyIfSeen inner s) :=
  ifSees (hi.body false s) (refl n s)

theorem arrayCreation (hi : inner.Sound n) (s : State) : Reads n s (arrayCreation inner s) := by
  refine .trans (whileSeen (fun s h => ?_) s) (blockIfSeen hi _)
  exact (bump (sees_iff.1 h) rfl).trans ((hi.expression [] _).trans (eat rfl))

theorem creationRest (hi : inner.Sound n) (s : State) : Reads n s (creationRest inner s) := by
  refine ifSees (fun _ => arrayCreation hi s) (ifSees (fun h => ?_) (refl n s))
  exact (parenthesized hi .instanceCreation h).trans (bodyIfSeen hi _)

theorem instanceCreation (hi : inner.Sound n) (h : s.peek = some (.keyword .new)) :
    Reads n s (instanceCreation inner s) := by
  refine (bump h rfl).trans ((typeArgumentsIfSeen hi _).trans (.trans
    (whileSeen (fun s hs => annotationUse hi (sees_iff.1 hs)) _) ?_))
  unfold Grammar.instanceCreation
  dsimp only
  split
  · rename_i hpeek
    split
    · exact (bump hpeek rfl).trans (creationRest hi _)
    · exact refl n _
  · exact (classType hi _).toReads.trans (creationRest hi _)
  · exact refl n _

theorem switchExpression (hi : inner.Sound n) (h : s.peek = some (.keyword .switch)) :
    Reads n s (switchExpression inner s) :=
  (bump h rfl).trans ((parenthesizedIfSeen hi .switchExpression _).trans (blockIfSeen hi _))

section Skim

variable {block creation choice : State → State}

/-- Skimming is a reading if what it does at braces, `new` and `switch` is one. An identifier at the
cursor is taken, unless identifiers stop it. -/
theorem skimWith (hblock : ∀ s, s.peek = some .lbrace → Reads n s (block s))
    (hcreation : ∀ s, s.peek = some (.keyword .new) → Reads n s (creation s))
    (hchoice : ∀ s, s.peek = some (.keyword .switch) → Reads n s (choice s))
    (stops : List Token.Kind) (s : State) :
    Reads n s (skimWith block creation choice stops s) ∧
      (.ident ∉ stops → Takes n s s (skimWith block creation choice stops s)) := by
  refine ⟨repeatWhile ?turn 0 s, fun hstops => .repeatWhile ?turn fun hpeek => ?_⟩
  · intro count s
    unfold skimTurn
    split
    · exact refl n s
    · rename_i kind hpeek
      split
      · exact refl n s
      split
      · exact refl n s
      · exact refl n s
      · split
        · exact refl n s
        · exact bump hpeek rfl
      · split
        · exact refl n s
        · exact bump hpeek rfl
      · exact bump hpeek rfl
      · exact bump hpeek rfl
      · exact hblock s hpeek
      · exact reference n s
      · exact hcreation s hpeek
      · exact hchoice s hpeek
      · exact bump hpeek (by unfold isPlain; split <;> simp_all)
  · simpa [skimTurn, hpeek, hstops] using cursor_lt_reference hpeek

end Skim

theorem skim (hi : inner.Sound n) (stops : List Token.Kind) (s : State) :
    Reads n s (skim inner stops s) ∧ (.ident ∉ stops → Takes n s s (skim inner stops s)) :=
  skimWith hi.block (fun _ => instanceCreation hi) (fun _ => switchExpression hi) stops s

theorem skimFlat (n : Nat) (stops : List Token.Kind) (s : State) :
    Reads n s (skimFlat stops s) ∧ (.ident ∉ stops → Takes n s s (skimFlat stops s)) :=
  skimWith (fun _ => skipTooDeep) (fun _ h => bump h rfl) (fun _ h => bump h rfl) stops s

end Reads

end JavaLens.Grammar
