import JavaLens.Proofs.Grammar.Mirrors.Type

/-!
# Expressions side by side

An expression is skimmed token by token. It ends before a token that it cannot pass, so two readings
of it part only where one of them has nothing left to read.

## Main statements

* `Mirrors.instanceCreation`, `Mirrors.switchExpression` — the parts that are followed.
* `Mirrors.skimFrom` — expressions, and what is left of them behind a number of open brackets.
-/

namespace JavaLens.Grammar

variable {x : Overlay} {s t s' t' : State} {inner : Inner} {kind : Token.Kind}

namespace Mirrors

variable (hs : inner.Steady) (hi : inner.Mirrored x)

include hi

theorem blockIfSeen (s s' : State) :
    Mirrors x x.kept True Ended s s' (blockIfSeen inner s) (blockIfSeen inner s') :=
  ifSees x.guide_kept (fun h => (hi.block s s' h).mono id False.elim) (refl s s')

theorem bodyIfSeen (s s' : State) :
    Mirrors x x.kept True Ended s s' (bodyIfSeen inner s) (bodyIfSeen inner s') :=
  ifSees x.guide_kept (fun h => (hi.body false s s' h).mono id False.elim) (refl s s')

/-- An expression behind the token at the cursor. -/
theorem behindWord (stops : List Token.Kind) (h : s.peek = some kind) :
    Mirrors x x.kept True Ended s s' (inner.expression stops s.bump)
      (inner.expression stops s'.bump) := (bump h).trans (hi.expression stops _ _)

include hs

theorem arrayCreation (s s' : State) :
    Mirrors x x.kept True Ended s s' (arrayCreation inner s) (arrayCreation inner s') := by
  refine .trans (whileSeen x.guide_kept (dimensions_advance hs)
    (fun _ _ looks => looks.sees .lbracket)
    (fun s s' seen => ?_) s s') (blockIfSeen hi _ _)
  exact (behindWord hi [] (sees_iff.1 seen)).trans (eat _ _ .rbracket)

theorem creationRest (s s' : State) :
    Mirrors x x.kept True Ended s s' (creationRest inner s) (creationRest inner s') := by
  refine ifSees x.guide_kept (fun _ => arrayCreation hs hi s s') ?_
  refine ifSees x.guide_kept (fun h => ?_) (refl s s')
  exact (hi.guided.paren .instanceCreation s' h).trans (bodyIfSeen hi _ _)

theorem instanceCreation (h : s.peek = some (.keyword .new)) :
    Mirrors x x.kept True Ended s s' (instanceCreation inner s) (instanceCreation inner s') := by
  refine (bump h).trans ((typeArgumentsIfSeen hs hi.guided _ _).trans
    ((annotations hs hi.guided _ _).trans ?_))
  dsimp only [Grammar.instanceCreation]
  generalize Grammar.whileSeen _ _ (Grammar.typeArgumentsIfSeen inner s.bump) = s
  generalize Grammar.whileSeen _ _ (Grammar.typeArgumentsIfSeen inner s'.bump) = s'
  apply look x.guide_kept
  intro s' looks
  rw [looks.peek]
  split
  · rename_i hpeek
    split
    · exact (bump hpeek).trans (creationRest hs hi _ _)
    · exact refl _ s'
  · exact (classType hs hi.guided _ s').trans (creationRest hs hi _ _)
  · exact refl _ s'

omit hs

theorem switchExpression (h : s.peek = some (.keyword .switch)) :
    Mirrors x x.kept True Ended s s' (switchExpression inner s) (switchExpression inner s') :=
  (bump h).trans ((parenthesizedIfSeen hi.guided .switchExpression _ _).trans (blockIfSeen hi _ _))

omit hi

/-- A step through an expression, given the steps at an opening brace, at `new` and at `switch`. -/
theorem skimTurn {block creation choice : State → State}
    (hblock : ∀ s s', s.peek = some .lbrace →
      Mirrors x x.kept True Ended s s' (block s) (block s'))
    (hcreation : ∀ s s', s.peek = some (.keyword .new) →
      Mirrors x x.kept True Ended s s' (creation s) (creation s'))
    (hchoice : ∀ s s', s.peek = some (.keyword .switch) →
      Mirrors x x.kept True Ended s s' (choice s) (choice s'))
    (stops : List Token.Kind) (count : Nat) (s s' : State) :
    TurnMirrors x x.kept Ended Ended s s' (skimTurn block creation choice stops count s)
      (skimTurn block creation choice stops count s') := by
  apply TurnMirrors.look x.guide_kept
  intro s' looks
  unfold Grammar.skimTurn
  rw [looks.peek]
  split
  · exact .stop (refl s s') _
  rename_i kind hpeek
  split
  · exact .stop (refl s s') _
  split
  case h_3 | h_4 =>
    split
    · exact .stop (refl s s') _
    · exact .goOn (bump hpeek) _
  case h_1 | h_2 => exact .stop (refl s s') _
  case h_7 => exact .goOn (hblock s s' hpeek) _
  case h_8 => exact .goOn (reference x.guide_kept hpeek) _
  case h_9 => exact .goOn (hcreation s s' hpeek) _
  case h_10 => exact .goOn (hchoice s s' hpeek) _
  all_goals exact .goOn (bump hpeek) _

include hs hi

/-- What is left of an expression with a number of brackets open. -/
theorem skimFrom (stops : List Token.Kind) (count : Nat) (s s' : State) :
    let turn := Grammar.skimTurn inner.block (Grammar.instanceCreation inner)
      (Grammar.switchExpression inner) stops
    Mirrors x x.kept True Ended s s' (Grammar.repeatWhile turn count s).2
      (Grammar.repeatWhile turn count s').2 :=
  (repeatWhile (skim_advances hs stops) (skimTurn
    (fun s s' h => (hi.block s s' h).mono id False.elim) (fun _ _ h => instanceCreation hs hi h)
    (fun _ _ h => switchExpression hi h) stops) count s s').mono (fun _ => trivial) id

omit hs hi

theorem skimFlatFrom (stops : List Token.Kind) (count : Nat) (s s' : State) :
    let turn := Grammar.skimTurn State.skipTooDeep State.bump State.bump stops
    Mirrors x x.kept True Ended s s' (Grammar.repeatWhile turn count s).2
      (Grammar.repeatWhile turn count s').2 :=
  (repeatWhile (skimFlat_advances stops) (skimTurn
    (fun _ _ h => (skipTooDeep h).mono id False.elim) (fun _ _ h => bump h) (fun _ _ h => bump h)
    stops) count s s').mono (fun _ => trivial) id

end Mirrors

end JavaLens.Grammar
