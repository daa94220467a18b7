import JavaLens.Proofs.Grammar.CompilationUnit
import JavaLens.Proofs.Grammar.Mirrors.Statement

/-!
# Compilation units side by side

The declarations of a source are read one behind the other, and none of them is lost without a
report. So a reading of a source that reports nothing goes the same way where more follows, and
comes to the place where the rest begins.

## Main statements

* `nested_followed` — the regions of every level are read side by side.
* `compilationUnit_parallel` — a source is read side by side with one that has the same words, and
  with one that goes on behind them if it has no fault.
-/

namespace JavaLens.Grammar

variable {x : Overlay} {s t s' t' : State} {inner : Inner} {kind : Token.Kind}

/-! ## Levels -/

/-- The regions of every level are read side by side. -/
theorem nested_followed (levels : Nat) : (nested levels).Followed := by
  have flat : Skims fun count s =>
      (repeatWhile (skimTurn State.skipTooDeep State.bump State.bump []) count s).2 :=
    .of_turns (skimFlat_advances []) fun _ => Mirrors.skimFlatFrom []
  induction levels with
  | zero =>
    refine ⟨nested_steady 0, ⟨0, nested_sound 0⟩, fun x => ⟨?_, ?_, ?_⟩, ⟨_, flat, rfl⟩⟩
    · exact fun stops => Mirrors.skimFlatFrom stops 0
    · exact fun s s' => Mirrors.skipTooDeep
    · exact fun _ s s' => Mirrors.skipTooDeep
  | succ levels followed =>
    have hs := followed.steady
    obtain ⟨n, sound⟩ := followed.sound
    have deep := Skims.of_turns (skim_advances hs [])
      fun x => Mirrors.skimFrom hs (followed.mirrored x) []
    refine ⟨nested_steady _, ⟨_, nested_sound _⟩, fun x => ⟨fun stops s s' => ?_, fun s s' h => ?_,
      fun isEnum s s' h => ?_⟩, ⟨_, deep.descend flat, rfl⟩⟩
    · exact .descend (fun _ => id) (.skimFrom hs (followed.mirrored x) stops 0 _ _)
        (.skimFlatFrom stops 0 s s')
    · exact .descend (fun _ => id) (.block followed h) (.skipTooDeep h)
    · exact .descend (fun _ => id) (.body hs (followed.mirrored x) sound isEnum h) (.skipTooDeep h)

/-! ## Package and imports -/

theorem Looks.currentText (h : Looks s s') : s'.currentText = s.currentText := by
  have text (r : State) : r.currentText = (r.ahead[0]?.map Word.text).getD "" := by
    rw [← word_tokenAt?, State.currentText]
    cases r.tokenAt? 0 <;> rfl
  rw [text, text, h.zero]

/-- The spans of the same word in both lists. -/
def Overlay.Marks (x : Overlay) (span span' : Span) : Prop :=
  ∃ i < x.here.size, span = (tokenAt x.here i).span ∧ span' = (tokenAt x.there (i + x.shift)).span

theorem Tandem.marks (h : Tandem x s s') (hpeek : s.peek = some kind) :
    x.Marks s.currentSpan s'.currentSpan := by
  refine ⟨s.cursor, h.here ▸ lt_size_of_peek hpeek, ?_, ?_⟩
  · rw [currentSpan_eq (lt_size_of_peek hpeek), h.here]
  · rw [currentSpan_eq (lt_size_of_peek (h.peek hpeek)), h.there, h.cursor]

namespace Mirrors

/-- The same fault is reported on both sides, at the same word. -/
theorem reportAt {lost : State → Prop} (fault : Fault) {span span' : Span}
    (marks : x.Marks span span') :
    Mirrors x x.kept True lost s s' (s.report fault span) (s'.report fault span') := by
  obtain ⟨i, hi, rfl, rfl⟩ := marks
  exact report x.guide_kept (i := i) (j := i) fun _ => ⟨rfl, Nat.le_refl i, hi, rfl, rfl⟩

theorem bumpIfAny (s s' : State) : Mirrors x x.kept True Ended s s' s.bump s'.bump := by
  apply look x.guide_kept
  intro s' looks
  cases hpeek : s.peek with
  | some kind => exact bump hpeek
  | none =>
    have still {r : State} (h : r.peek = none) : r.bump = r :=
      if_neg (Nat.not_lt.2 (peek_eq_none_iff.1 h))
    rw [still hpeek, still (looks.peek.trans hpeek)]
    exact refl s s'

theorem qualifiedName (s s' : State) :
    Mirrors x x.kept ((qualifiedName s').1 = (qualifiedName s).1) Ended s s'
      (qualifiedName s).2 (qualifiedName s').2 := by
  apply lookSame x.guide_kept fun s' => (Grammar.qualifiedName s').1 = (Grammar.qualifiedName s).1
  intro s' looks
  unfold Grammar.qualifiedName
  rw [looks.sees]
  split
  · refine (repeatWhile segmentTurn_advances (fun segments s s' => ?_) #[] s s').mono
      (congrArg Array.toList) id
    apply TurnMirrors.look x.guide_kept
    intro s' looks
    unfold segmentTurn
    rw [looks.currentText]
    exact .behind (bumpIfAny s s') (.dot x.guide_kept _ _ _)
  · exact (refl s s').mono (fun _ => rfl) id

/-- An import is recorded on both sides. -/
theorem declared {lost : State → Prop} (segments : List String) (onDemand : Bool) {i j : Nat}
    {span span' : Span} (placed : Tandem x s s' → i ≤ j ∧ j < x.here.size ∧
      span = ⟨(tokenAt x.here i).span.start, (tokenAt x.here j).span.stop⟩ ∧
      span' = ⟨(tokenAt x.there (i + x.shift)).span.start,
        (tokenAt x.there (j + x.shift)).span.stop⟩) :
    Mirrors x x.kept True lost s s'
      { s with imports := s.imports.push ⟨segments, span, onDemand⟩ }
      { s' with imports := s'.imports.push ⟨segments, span', onDemand⟩ } := by
  refine ⟨⟨rfl, Nat.le_refl _, Nat.le_refl _⟩, fun tandem => ?_⟩
  obtain ⟨ordered, bounded, hspan, hspan'⟩ := placed tandem
  exact .inl ⟨⟨tandem.of_recorded rfl rfl rfl rfl rfl rfl, ⟨[], [], [⟨segments, i, j, onDemand⟩]⟩,
    .declared segments onDemand ordered (tandem.here ▸ bounded) (tandem.here ▸ hspan),
    .declared segments onDemand (Nat.add_le_add_right ordered x.shift)
      (tandem.there ▸ Overlay.lt_size bounded) (tandem.there ▸ hspan')⟩, trivial, id⟩

/-- A package declaration is read side by side. -/
theorem packageDeclaration (h : s.peek = some (.keyword .package)) :
    Mirrors x x.kept True Never s s' (packageDeclaration s) (packageDeclaration s') := by
  have read : Reads 0 s (Grammar.packageDeclaration s) :=
    (Reads.bump h rfl).trans (.packageDeclaration h)
  refine of_grows read.grows fun tandem => behindBump h ?_
  have name := qualifiedName (x := x) s.bump s'.bump
  have moved := Nat.lt_of_lt_of_le (cursor_lt_bump h) name.grows.le
  unfold Grammar.packageDeclaration
  dsimp only
  generalize Grammar.qualifiedName s.bump = a at *
  generalize Grammar.qualifiedName s'.bump = b at *
  exact ifFoundOr (name.mono (congrArg List.isEmpty) id) (fun _ => reportAt _ (tandem.marks h))
    (fun _ => expect .semi .semicolon .packageDeclaration (Nat.zero_lt_of_lt moved)) fun ended =>
    .inl (.ite (reported_report ..) (reported_ifSees ended (reported_report ..)))

end Mirrors

/-- What follows the name of an import, of which it is known whether it is on demand. -/
def importDemand (segments : List String) (start : Nat) (onDemand : Bool) (s : State) : State :=
  let span := ⟨start, s.lastEnd⟩
  let s := if onDemand then s.advance 2 else s
  State.expectSemicolon { s with imports := s.imports.push ⟨segments, span, onDemand⟩ }
    .importDeclaration

/-- What follows the words that introduce an import. -/
def importName (word : Span) (s : State) : State :=
  let (segments, t) := qualifiedName s
  if segments.isEmpty then t.report (.expected .name Keyword.import.word) word
  else importDemand segments s.currentStart (t.sees .dot && t.seesOperator 1 "*") t

theorem importDeclaration_eq (s : State) :
    importDeclaration s = importName s.currentSpan (s.bump.eat (.keyword .static)) := rfl

theorem grows_importDemand (segments : List String) (start : Nat) (onDemand : Bool) (s : State) :
    Grows s (importDemand segments start onDemand s) := by
  have star : Grows s (if onDemand then s.advance 2 else s) :=
    .ite ⟨rfl, Nat.le_add_right .., Nat.le_refl _⟩ (.refl s)
  have declared (t : State) (imports : Array Import) : Grows t { t with imports } :=
    ⟨rfl, Nat.le_refl _, Nat.le_refl _⟩
  exact star.trans ((declared _ _).trans (.ite (.bump _) (.report ..)))

/-- That an import is cut short is reported. -/
theorem reported_importDemand (ended : Ended s) (segments : List String) (start : Nat) :
    Reported s (importDemand segments start (s.sees .dot && s.seesOperator 1 "*") s) := by
  have : s.sees .dot = false := by rw [State.sees, show s.peek = none from ended]; rfl
  rw [this, Bool.false_and]
  exact reported_ifSees ended (reported_report ..)

theorem cursor_lt_qualifiedName (h : s.peek = some .ident) :
    s.cursor < (qualifiedName s).2.cursor := by
  rw [qualifiedName, if_pos (sees_iff.2 h)]
  refine Onward.lt_of_bump h (segmentTurn_advances.onward_from ?_)
  unfold segmentTurn
  rw [apply_ite Turn.state]
  exact .ite (.bump _) (.refl _)

namespace Mirrors

/-- An import is recorded on both sides, from the first token of its name to the last. -/
theorem importDemand (segments : List String) {start start' : Nat} {r : State}
    (placed : x.Starts r start start') (moved : r.cursor < s.cursor) :
    Mirrors x x.kept True Never s s'
      (importDemand segments start (s.sees .dot && s.seesOperator 1 "*") s)
      (importDemand segments start' (s'.sees .dot && s'.seesOperator 1 "*") s') := by
  obtain ⟨i, hi, hstart, hstart'⟩ := placed
  refine of_grows (grows_importDemand ..) fun tandem => ?_
  have spans : i ≤ s.cursor - 1 ∧ s.cursor - 1 < x.here.size ∧ (⟨start, s.lastEnd⟩ : Span) =
      ⟨(tokenAt x.here i).span.start, (tokenAt x.here (s.cursor - 1)).span.stop⟩ ∧
      (⟨start', s'.lastEnd⟩ : Span) = ⟨(tokenAt x.there (i + x.shift)).span.start,
        (tokenAt x.there (s.cursor - 1 + x.shift)).span.stop⟩ := by
    have := tandem.bounded
    have := tandem.cursor
    refine ⟨by omega, by omega, ?_, ?_⟩
    · rw [hstart, lastEnd_eq (i := s.cursor - 1) (by omega), tandem.here]
    · rw [hstart', lastEnd_eq (i := s.cursor - 1 + x.shift) (by omega), tandem.there]
  have whole (onDemand : Bool) (star : onDemand → s.peekAt 1 = some .operator) :
      Mirrors x x.kept True Never s s' (Grammar.importDemand segments start onDemand s)
        (Grammar.importDemand segments start' onDemand s') := by
    have passed : Mirrors x x.kept True Never s s' (if onDemand then s.advance 2 else s)
        (if onDemand then s'.advance 2 else s') := by
      split
      · exact advance (star ‹_›) id
      · exact refl s s'
    have behind : 0 < (if onDemand then s.advance 2 else s).cursor :=
      Nat.lt_of_lt_of_le (Nat.zero_lt_of_lt moved) passed.grows.le
    exact passed.andThen ((declared segments onDemand fun _ => spans).andThen
      (expect .semi .semicolon .importDeclaration behind))
  refine lookAt x.guide_kept (whole _ fun star => peekAt_of_spells (Bool.and_eq_true_iff.1 star).2)
    (fun ended => .inl (reported_importDemand ended ..)) fun _ looks => ?_
  have same : (s'.sees .dot && s'.seesOperator 1 "*") = (s.sees .dot && s.seesOperator 1 "*") :=
    looks.sees_and .dot fun hpeek => (looks.behind hpeek rfl).2.2 .operator "*"
  rw [same]

/-- What follows the words that introduce an import is read side by side. -/
theorem importName {word word' : Span} (marks : x.Marks word word') :
    Mirrors x x.kept True Never s s' (importName word s) (importName word' s') := by
  have name := qualifiedName (x := x) s s'
  refine of_grows (name.grows.trans (.ite (.report ..) (grows_importDemand ..))) fun tandem => ?_
  have moved (found : (Grammar.qualifiedName s).1.isEmpty = false) : ∃ kind, s.peek = some kind ∧
      s.cursor < (Grammar.qualifiedName s).2.cursor := by
    by_cases hname : s.peek = some .ident
    · exact ⟨_, hname, cursor_lt_qualifiedName hname⟩
    · rw [qualifiedName_of_ne hname] at found
      cases found
  unfold Grammar.importName
  dsimp only
  generalize Grammar.qualifiedName s = a at *
  generalize Grammar.qualifiedName s' = b at *
  have rest : Mirrors x x.kept True Never a.2 b.2
      (if a.1.isEmpty then a.2.report (.expected .name Keyword.import.word) word
        else Grammar.importDemand a.1 s.currentStart (a.2.sees .dot && a.2.seesOperator 1 "*") a.2)
      (if a.1.isEmpty then b.2.report (.expected .name Keyword.import.word) word'
        else Grammar.importDemand a.1 s'.currentStart (b.2.sees .dot && b.2.seesOperator 1 "*")
          b.2) := by
    split
    · exact reportAt _ marks
    · rename_i found
      obtain ⟨kind, hpeek, moved⟩ := moved (by simpa using found)
      exact importDemand a.1 (tandem.starts hpeek) moved
  refine ((name.chain rest fun ended => .inl ?_).resolve fun both => ?_).mono (fun _ => trivial) id
  · exact .ite (reported_report ..) (reported_importDemand ended ..)
  · rw [both.1]

/-- An import declaration is read side by side. -/
theorem importDeclaration (h : s.peek = some (.keyword .import)) :
    Mirrors x x.kept True Never s s' (importDeclaration s) (importDeclaration s') := by
  have read : Gathers 0 s (Grammar.importDeclaration s) :=
    (Reads.bump h rfl).gathers.trans (.importDeclaration h)
  refine of_grows read.grows fun tandem => behindBump h ?_
  rw [importDeclaration_eq, importDeclaration_eq]
  refine ((eat _ _ (.keyword .static)).chain (importName (tandem.marks h))
    fun ended => .inl ?_).mono (fun _ => trivial) id
  unfold Grammar.importName
  rw [qualifiedName_of_ne (by simp [show State.peek _ = none from ended])]
  exact reported_report ..

end Mirrors

/-! ## The whole source -/

/-- A declaration at the top of a source is read side by side. -/
theorem unitTurn_mirrors (followed : inner.Followed) (h : s.peek = some kind) :
    TurnMirrors x x.kept Never Never s s' (unitTurn inner () s) (unitTurn inner () s') := by
  have hi := followed.mirrored x
  obtain ⟨n, sound⟩ := followed.sound
  refine .lookFor x.guide_kept (fun ended => absurd ended (by simp [Ended, h])) fun s' looks => ?_
  unfold unitTurn
  rw [looks.peek]
  split
  case h_1 hpeek => simp [hpeek] at h
  case h_2 hpeek => exact .goOn (.packageDeclaration hpeek) ()
  case h_3 hpeek => exact .goOn (.importDeclaration hpeek) ()
  case h_4 hpeek => exact .goOn (Mirrors.bump hpeek) ()
  case h_5 hpeek => exact .goOn (Mirrors.junk hpeek) ()
  case h_6 hpeek => exact .goOn (.guarded hpeek (.member followed.steady hi sound hpeek)) ()

theorem exists_unitTurn (inner : Inner) (h : s.peek = some kind) :
    ∃ t, unitTurn inner () s = .again () t := by
  unfold unitTurn
  rw [h]
  split
  case h_1 none => cases none
  all_goals exact ⟨_, rfl⟩

/-- A reading that has come to the end stays there. -/
theorem compilationUnit_of_ended (hs : inner.Steady) (ended : Ended s) :
    compilationUnit inner s = s := by
  rw [compilationUnit, (unitTurn_advances hs).repeatWhile_eq, unitTurn,
    show s.peek = none from ended]

theorem compilationUnit_again (hs : inner.Steady) (h : unitTurn inner () s = .again () t) :
    compilationUnit inner s = compilationUnit inner t := by
  rw [compilationUnit, (unitTurn_advances hs).repeatWhile_eq, h]
  rfl

/-- A source is read side by side with one that has the same words. If it has no fault, the other
one may go on behind it, and is then read on from there. -/
theorem compilationUnit_parallel (followed : inner.Followed) (tandem : Tandem x s s')
    (whole : x.Even ∨ ¬Reported s (compilationUnit inner s)) :
    ∃ t', Parallel x s s' (compilationUnit inner s) t' ∧
      compilationUnit inner s' = compilationUnit inner t' := by
  have advances := unitTurn_advances followed.steady
  obtain ⟨n, sound⟩ := followed.sound
  induction hr : s.remaining using Nat.strongRecOn generalizing s s' with
  | _ r ih =>
    cases hpeek : s.peek with
    | none =>
      rw [compilationUnit_of_ended followed.steady hpeek]
      exact ⟨s', .refl tandem, rfl⟩
    | some kind =>
      obtain ⟨t, hturn⟩ := exists_unitTurn inner hpeek
      have rest : Grows t (compilationUnit inner t) := (compilationUnit_gathers sound t).1.grows
      have step : TurnMirrors x x.kept Never Never s s' (.again () t) (unitTurn inner () s') :=
        hturn ▸ unitTurn_mirrors followed hpeek
      rw [compilationUnit_again followed.steady hturn] at whole ⊢
      obtain ⟨parallel, alike, -⟩ | ⟨uneven, reported | lost⟩ := Mirrors.outcome step tandem
      · have shorter : t.remaining < r := hr ▸ advances.remaining_lt hturn
        obtain ⟨u', parallel', same⟩ := ih _ shorter parallel.tandem
          (whole.imp_right (mt (Mirrors.grows step).reported)) rfl
        exact ⟨u', parallel.trans parallel',
          (compilationUnit_again followed.steady alike).trans same⟩
      · exact absurd (reported.grows rest) (whole.resolve_left uneven)
      · exact lost.elim

end JavaLens.Grammar
