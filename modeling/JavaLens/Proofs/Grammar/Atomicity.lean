import JavaLens.Proofs.Grammar.Mirrors.CompilationUnit

/-!
# Trials are atomic

To see whether a local type or local variables are declared the grammar reads ahead, through
annotations into whole blocks and bodies if need be, and comes back to where it was. Nothing is left
of such a trial, whatever had been recorded before. Nor does the trial touch any of that on the way:
it does what it would do if nothing had been recorded yet, and what it records stands behind.

The second statement is that of two readings side by side, in the same tokens, one of them from a
state with nothing recorded.

## Main definitions

* `State.blank` — the state with nothing recorded.
* `State.behind` — what one state has recorded, put behind what another one has.

## Main statements

* `skipModifiers_eq_behind`, `trialType_eq_behind`, `localVariables_eq_behind` — what is tried does
  not depend on what has been recorded.
* `trials_are_atomic` — a trial that is taken back has changed nothing, at no time.
-/

namespace JavaLens.Grammar

namespace State

/-- The state with nothing recorded. -/
def blank (s : State) : State := { s with nodes := #[], findings := #[], imports := #[] }

/-- The state with all that `s` has recorded in front of what is recorded. -/
def behind (t s : State) : State :=
  { t with
    nodes := s.nodes ++ t.nodes
    findings := s.findings ++ t.findings
    imports := s.imports ++ t.imports }

theorem behind_blank (s : State) : s.blank.behind s = s := by simp [blank, behind]

/-- What was recorded first stays as it is and where it is. -/
theorem getElem?_nodes_behind {s : State} {i : Nat} {node : Node} (t : State)
    (h : s.nodes[i]? = some node) : (t.behind s).nodes[i]? = some node := by
  obtain ⟨hi, -⟩ := Array.getElem?_eq_some_iff.1 h
  rw [behind, Array.getElem?_append_left hi, h]

end State

variable {n : Nat} {s t t' : State} {inner : Inner}

/-! ## The same tokens twice -/

theorem Tandem.blank (bounded : s.cursor ≤ s.tokens.size) :
    Tandem (.self s.tokens) s s.blank := ⟨rfl, rfl, rfl, rfl, bounded⟩

/-- Two readings that have recorded the same, one of them from a state with nothing recorded. -/
theorem Parallel.eq_behind (h : Parallel (.self s.tokens) s s.blank t t')
    (here : t.sourceEnd = s.sourceEnd) (there : t'.sourceEnd = s.sourceEnd) : t = t'.behind s := by
  obtain ⟨log, logs, logs'⟩ := h.logged
  rw [show (Overlay.self s.tokens).shift = 0 from rfl, Log.shift_zero] at logs'
  have nodes : t.nodes = s.nodes ++ t'.nodes := by
    apply Array.toList_inj.1
    rw [Array.toList_append, logs.nodes, logs'.nodes]
    rfl
  have findings : t.findings = s.findings ++ t'.findings := by
    apply Array.toList_inj.1
    rw [Array.toList_append, logs.findings, logs'.findings]
    rfl
  have imports : t.imports = s.imports ++ t'.imports := by
    apply Array.toList_inj.1
    rw [Array.toList_append, logs.imports, logs'.imports]
    rfl
  have cursor : t.cursor = t'.cursor := h.tandem.cursor.symm
  have depth : t.depth = t'.depth := h.tandem.depth.symm
  have tokens : t.tokens = t'.tokens := h.tandem.here.trans h.tandem.there.symm
  cases t
  simp_all [State.behind]

/-- What does nothing at the end, and is read side by side with itself elsewhere, does not depend on
what has been recorded. -/
theorem eq_behind {f : State → State} (reads : ∀ s, Reads n s (f s))
    (ended : ∀ s, Ended s → f s = s)
    (mirrors : s.cursor ≤ s.tokens.size → Mirrors (.self s.tokens) (Overlay.self s.tokens).kept True
      Ended s s.blank (f s) (f s.blank)) :
    f s = (f s.blank).behind s := by
  cases hpeek : s.peek with
  | none => rw [ended s hpeek, ended s.blank hpeek, State.behind_blank]
  | some kind =>
    have bounded := (lt_size_of_peek hpeek).le
    obtain ⟨parallel, -, -⟩ | ⟨uneven, -⟩ := (mirrors bounded).outcome (.blank bounded)
    · exact parallel.eq_behind (reads s).sourceEnd (reads s.blank).sourceEnd
    · exact absurd rfl uneven

/-! ## Trials -/

/-- At the end there are no modifiers. -/
theorem skipModifiers_of_ended (hs : inner.Steady) (ended : Ended s) :
    skipModifiers inner s = s := by
  refine whileSeen_of_not_seen (modifiers_advance hs) ?_
  simp [seesModifier, seesAnnotationUse, State.sees, modifierSize, show s.peek = none from ended]

/-- At the end there is no type. -/
theorem trialType_of_ended (hs : inner.Steady) (ended : Ended s) :
    trialType inner s = (false, s) := by
  have hpeek : s.peek = none := ended
  have modifiers : skipVariableModifiers inner s = s := by
    refine whileSeen_of_not_seen (variableModifiers_advance hs) ?_
    simp [seesVariableModifier, seesAnnotationUse, State.sees, hpeek]
  have annotations : whileSeen seesAnnotationUse (annotationUse inner) s = s := by
    refine whileSeen_of_not_seen (typeAnnotations_advance hs) ?_
    simp [seesAnnotationUse, State.sees, hpeek]
  simp [trialType, modifiers, typeName, annotations, hpeek]

theorem Reads.localVariables (sound : inner.Sound n) (s : State) :
    Reads n s (localVariables inner s).2 := by
  obtain ⟨-, takes⟩ | ⟨-, same⟩ := localVariables_cases sound s
  · exact takes.toReads
  · rw [same]
    exact refl n s

/-- At the end there are no local variables. -/
theorem localVariables_of_ended (hs : inner.Steady) (sound : inner.Sound n) (ended : Ended s) :
    localVariables inner s = (false, s) := by
  simp [localVariables_eq sound, declaresLocals, trialType_of_ended hs ended]

theorem skipModifiers_eq_behind (followed : inner.Followed) (s : State) :
    skipModifiers inner s = (skipModifiers inner s.blank).behind s := by
  have hs := followed.steady
  obtain ⟨n, sound⟩ := followed.sound
  refine eq_behind (.skipModifiers sound) (fun _ => skipModifiers_of_ended hs) fun _ => ?_
  exact .skipModifiers hs (followed.mirrored _).guided s s.blank

theorem trialType_eq_behind (followed : inner.Followed) (s : State) :
    (trialType inner s).2 = (trialType inner s.blank).2.behind s := by
  have hs := followed.steady
  obtain ⟨n, sound⟩ := followed.sound
  refine eq_behind (f := fun s => (trialType inner s).2) (.trialType sound) (fun s ended => ?_)
    fun _ => ?_
  · rw [trialType_of_ended hs ended]
  · exact (trialType_mirrors hs (followed.mirrored _).guided s s.blank).mono (fun _ => trivial) id

theorem localVariables_eq_behind (followed : inner.Followed) (s : State) :
    (localVariables inner s).2 = (localVariables inner s.blank).2.behind s := by
  have hs := followed.steady
  obtain ⟨n, sound⟩ := followed.sound
  refine eq_behind (f := fun s => (localVariables inner s).2) (.localVariables sound)
    (fun s ended => ?_) fun bounded => ?_
  · rw [localVariables_of_ended hs sound ended]
  · have mirrored := followed.mirrored (.self s.tokens)
    rw [localVariables_eq sound, localVariables_eq sound,
      declaresLocals_eq hs mirrored.guided rfl (.blank bounded)]
    split
    · exact (trialType_mirrors hs mirrored.guided s s.blank).trans
        (.declarators hs mirrored .localVariable _ _)
    · exact .refl s s.blank

/-- Nothing is left of a trial for a local type, nor of one for local variables that finds none. And
while they last, the trials change nothing that had been recorded: they record what they would
record if that were nothing, and put it behind. -/
theorem trials_are_atomic (levels : Nat) (s : State) :
    let inner := nested levels
    let typed := fun s => (typeName inner (skipVariableModifiers inner s)).2
    (seesLocalType inner s).2 = s ∧
    ((localVariables inner s).1 = false → (localVariables inner s).2 = s) ∧
    skipModifiers inner s = (skipModifiers inner s.blank).behind s ∧
    typed s = (typed s.blank).behind s ∧
    (localVariables inner s).2 = (localVariables inner s.blank).2.behind s ∧
    ∀ (i : Nat) node, s.nodes[i]? = some node → (skipModifiers inner s).nodes[i]? = some node ∧
      (typed s).nodes[i]? = some node ∧ (localVariables inner s).2.nodes[i]? = some node := by
  intro inner typed
  have followed := nested_followed levels
  have modifiers := skipModifiers_eq_behind followed s
  have types : typed s = (typed s.blank).behind s := trialType_eq_behind followed s
  have locals := localVariables_eq_behind followed s
  refine ⟨seesLocalType_snd (nested_sound levels) s, fun none => ?_, modifiers, types, locals,
    fun i node h => ⟨?_, ?_, ?_⟩⟩
  · obtain ⟨found, -⟩ | ⟨-, same⟩ := Reads.localVariables_cases (nested_sound levels) s
    · simp [inner, found] at none
    · exact same
  · rw [modifiers]
    exact State.getElem?_nodes_behind _ h
  · rw [types]
    exact State.getElem?_nodes_behind _ h
  · rw [locals]
    exact State.getElem?_nodes_behind _ h

end JavaLens.Grammar
