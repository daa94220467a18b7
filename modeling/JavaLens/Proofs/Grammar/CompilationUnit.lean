import JavaLens.Grammar.CompilationUnit
import JavaLens.Proofs.Grammar.Layout
import JavaLens.Proofs.Grammar.Statement

/-!
# Compilation units are readings

The regions of every level are read, by induction on the levels left, so the declarations of a
source are read too. They are read to the last token, whatever the tokens are.

## Main definitions

* `Gathers` — a reading at the top of a source, which may add imports.

## Main statements

* `nested_sound` — the regions of every level are read.
* `read_moves` — what the grammar finds in the tokens of a source is that of a chain of moves from
  the first token to the last.
-/

namespace JavaLens.Grammar

variable {n : Nat} {s t u : State} {inner : Inner} {kind : Token.Kind}

/-! ## Levels -/

theorem Takes.deeper {r : State} (h : Takes n r s t) : Takes (n + 1) r s t :=
  ⟨h.toReads.deeper, h.le, h.taken⟩

/-- A reading one level deeper comes back to the depth it started from. -/
theorem Reads.leave (h : s.enter? = some t) (k : Reads n t u) : Reads n s u.leave := by
  obtain ⟨_, rfl⟩ := enter?_eq_some_iff.1 h
  have hdepth : u.leave.depth = s.depth := by
    have := k.depth
    simp only [State.leave] at this ⊢
    omega
  exact ⟨⟨k.tokens, k.sourceEnd, hdepth, k.moves⟩, k.imports⟩

theorem Takes.leave (h : s.enter? = some t) (k : Takes n t t u) : Takes n s s u.leave := by
  have reads := k.toReads.leave h
  obtain ⟨_, rfl⟩ := enter?_eq_some_iff.1 h
  exact ⟨reads, k.le, k.taken⟩

/-- What is read one level deeper is read, and so is what is read at the limit. -/
theorem Reads.descend {region flat : State → State}
    (inside : ∀ t, s.enter? = some t → Reads n t (region t)) (outside : Reads n s (flat s)) :
    Reads n s (descend region flat s) := by
  unfold Grammar.descend
  split
  · rename_i t h
    exact (inside t h).leave h
  · exact outside

theorem Takes.descend {region flat : State → State}
    (inside : ∀ t, s.enter? = some t → Takes n t t (region t)) (outside : Takes n s s (flat s)) :
    Takes n s s (descend region flat s) := by
  unfold Grammar.descend
  split
  · rename_i t h
    exact (inside t h).leave h
  · exact outside

theorem peek_of_enter? (h : s.enter? = some t) : t.peek = s.peek := by
  obtain ⟨_, rfl⟩ := enter?_eq_some_iff.1 h
  rfl

/-- The regions of every level are read. -/
theorem nested_sound (levels : Nat) : (nested levels).Sound levels := by
  induction levels with
  | zero =>
    exact
      { expression := fun stops s => (Reads.skimFlat 0 stops s).1
        whole_expression := fun s => (Reads.skimFlat 0 [] s).2 List.not_mem_nil
        block := fun _ => .skipTooDeep
        body := fun _ _ => .skipTooDeep }
  | succ levels hi =>
    exact
      { expression := fun stops s => .descend (fun t _ => (Reads.skim hi stops t).1.deeper)
          (Reads.skimFlat _ stops s).1
        whole_expression := fun s => .descend
          (fun t _ => ((Reads.skim hi [] t).2 List.not_mem_nil).deeper)
          ((Reads.skimFlat _ [] s).2 List.not_mem_nil)
        block := fun s h => .descend (fun t ht => .block hi (peek_of_enter? ht ▸ h))
          (.skipTooDeep h)
        body := fun isEnum s h => .descend (fun t ht => .body hi isEnum (peek_of_enter? ht ▸ h))
          (.skipTooDeep h) }

/-! ## Package and imports -/

theorem HeaderSegment.named {tokens : Array Token} {i : Nat} (h : HeaderSegment tokens i) :
    kindAt tokens i = some .ident := by
  cases h <;> assumption

/-- The names right behind `package`, `import` and `import static` are passed over. -/
theorem Reads.segment (h : HeaderSegment s.tokens s.cursor) : Reads n s s.bump := by
  rw [bump_eq h.named]
  exact .overlook h.named (.inr (.inr h))

/-- A reading from one segment of a name to another. -/
def PassesSegments (n : Nat) (s t : State) : Prop :=
  HeaderSegment s.tokens s.cursor → Reads n s t ∧ HeaderSegment t.tokens t.cursor

theorem PassesSegments.refl (s : State) : PassesSegments n s s := fun h => ⟨.refl n s, h⟩

theorem PassesSegments.trans (h : PassesSegments n s t) (k : PassesSegments n t u) :
    PassesSegments n s u := by
  intro header
  obtain ⟨first, between⟩ := h header
  obtain ⟨second, last⟩ := k between
  exact ⟨first.trans second, last⟩

/-- Behind a segment and a dot another segment follows. -/
theorem PassesSegments.dot (hdot : s.bump.peek = some .dot)
    (hname : s.bump.peekAt 1 = some .ident) : PassesSegments n s s.bump.bump := by
  intro header
  refine ⟨(Reads.segment header).trans (.bump hdot rfl), ?_⟩
  rw [bump_eq hdot]
  rw [bump_eq header.named] at hdot hname ⊢
  exact .segment header hdot hname

theorem remaining_bump_lt (s : State) (h : s.bump.peek = some kind) :
    s.bump.bump.remaining < s.remaining := by
  have htokens : s.bump.tokens = s.tokens := by
    unfold State.bump
    split <;> rfl
  have := lt_size_of_peek h
  have := cursor_le_bump s
  rw [bump_eq h]
  simp only [State.remaining, State.advance]
  rw [htokens] at *
  omega

/-- The name right behind the word is moved over, and has a segment. -/
theorem qualifiedName_of_header (header : HeaderSegment s.tokens s.cursor) :
    (qualifiedName s).1 ≠ [] ∧ Reads n s (qualifiedName s).2 ∧
      s.cursor < (qualifiedName s).2.cursor := by
  unfold qualifiedName
  rw [if_pos (sees_iff.2 header.named)]
  dsimp only
  refine repeatWhile_exit (PassesSegments n) (motive := fun r : Array String × State =>
    r.1.toList ≠ [] ∧ Reads n s r.2 ∧ s.cursor < r.2.cursor) .refl (fun _ _ _ => .trans) ?again
    ?stop
  case again =>
    intro segments s segments' s' h
    dsimp only [segmentTurn] at h
    split at h
    · rename_i hdot
      obtain ⟨hdot, hname⟩ := Bool.and_eq_true_iff.1 hdot
      cases h
      exact ⟨.dot (sees_iff.1 hdot) (seesAt_iff.1 hname), remaining_bump_lt _ (sees_iff.1 hdot)⟩
    · cases h
  case stop =>
    intro segments t segments' u passed h
    dsimp only [segmentTurn] at h
    split at h
    · cases h
    · cases h
      obtain ⟨reads, last⟩ := passed header
      have final := cursor_lt_bump (show t.peek = some .ident from last.named)
      exact ⟨by simp, reads.trans (.segment last), Nat.lt_of_le_of_lt reads.cursor_le final⟩

theorem qualifiedName_of_ne (h : s.peek ≠ some .ident) : qualifiedName s = ([], s) :=
  if_neg fun hident => h (sees_iff.1 hident)

/-- A package declaration is read from behind its word. -/
theorem Reads.packageDeclaration (h : s.peek = some (.keyword .package)) :
    Reads n s.bump (packageDeclaration s) := by
  unfold Grammar.packageDeclaration
  dsimp only
  rw [← previousSpan_bump h]
  by_cases hident : s.bump.peek = some .ident
  · have header : HeaderSegment s.bump.tokens s.bump.cursor := by
      rw [bump_eq h] at hident ⊢
      exact .behindPackage h hident
    obtain ⟨some_segment, reads, _⟩ := qualifiedName_of_header (n := n) header
    rw [if_neg (by simpa using some_segment)]
    exact reads.trans (expectSemicolon .packageDeclaration)
  · rw [qualifiedName_of_ne hident]
    exact report rfl

/-- A reading at the top of a source: each import it adds spans a run of tokens. -/
structure Gathers (n : Nat) (s t : State) : Prop extends Traces n s t where
  imports : ∀ declared ∈ t.imports,
    declared ∈ s.imports ∨ Spanned s.tokens s.sourceEnd declared.span

theorem Reads.gathers (h : Reads n s t) : Gathers n s t :=
  ⟨h.toTraces, fun _ hmem => .inl (h.imports ▸ hmem)⟩

namespace Gathers

theorem refl (n : Nat) (s : State) : Gathers n s s := (Reads.refl n s).gathers

theorem trans (h : Gathers n s t) (k : Gathers n t u) : Gathers n s u := by
  refine ⟨h.toTraces.trans k.toTraces, fun declared hmem => ?_⟩
  obtain hmem | spanned := k.imports declared hmem
  · exact h.imports declared hmem
  · rw [h.tokens, h.sourceEnd] at spanned
    exact .inr spanned

theorem push (declared : Import) (spanned : Spanned s.tokens s.sourceEnd declared.span) :
    Gathers n s { s with imports := s.imports.push declared } := by
  refine ⟨⟨rfl, rfl, rfl, [], [], by simp, by simp, .stay _ _⟩, fun other hmem => ?_⟩
  obtain hmem | rfl := Array.mem_push.1 hmem
  · exact .inl hmem
  · exact .inr spanned

end Gathers

/-- What has been moved over spans a run of tokens. -/
theorem Reads.spanned (h : Reads n s t) (moved : s.cursor < t.cursor)
    (hs : s.cursor < s.tokens.size) : Spanned t.tokens t.sourceEnd ⟨s.currentStart, t.lastEnd⟩ := by
  have hsize := h.cursor_le_size (Nat.le_of_lt hs)
  rw [currentStart_eq hs, lastEnd_eq (i := t.cursor - 1) (by omega), ← h.tokens]
  exact .run (by omega) (by omega)

/-- The name behind `import` or `import static`. -/
theorem headerSegment_import (h : s.peek = some (.keyword .import))
    (hident : (s.bump.eat (.keyword .static)).peek = some .ident) :
    HeaderSegment (s.bump.eat (.keyword .static)).tokens
      (s.bump.eat (.keyword .static)).cursor := by
  unfold State.eat at *
  split at hident
  · rename_i static
    rw [if_pos static]
    have hstatic := sees_iff.1 static
    rw [bump_eq hstatic] at hident ⊢
    rw [bump_eq h] at hstatic hident ⊢
    exact .behindStatic h hstatic hident
  · rename_i static
    rw [if_neg static]
    rw [bump_eq h] at hident ⊢
    exact .behindImport h hident

/-- The star of an import on demand is passed over. -/
theorem Reads.onDemand (n : Nat) (s : State) :
    Reads n s (if s.sees .dot && s.seesOperator 1 "*" then s.advance 2 else s) := by
  split
  · rename_i h
    obtain ⟨hdot, hstar⟩ := Bool.and_eq_true_iff.1 h
    exact advance_two (advance (sees_iff.1 hdot) rfl) (peekAt_of_spells hstar) rfl
  · exact refl n s

theorem eat_report (s : State) (kind : Token.Kind) (fault : Fault) (span : Span) :
    (s.report fault span).eat kind = (s.eat kind).report fault span := by
  have hbump : (s.report fault span).bump = s.bump.report fault span := by
    by_cases h : s.cursor < s.tokens.size
    · rw [State.bump, State.bump, if_pos h]
      exact if_pos h
    · rw [State.bump, State.bump, if_neg h]
      exact if_neg h
  unfold State.eat
  rw [apply_ite (State.report · fault span), ← hbump]
  rfl

/-- An import declaration is read from behind its word. -/
theorem Gathers.importDeclaration (h : s.peek = some (.keyword .import)) :
    Gathers n s.bump (importDeclaration s) := by
  unfold Grammar.importDeclaration
  dsimp only
  rw [← previousSpan_bump h]
  by_cases hident : (s.bump.eat (.keyword .static)).peek = some .ident
  · have header := headerSegment_import h hident
    have static : Reads n s.bump (s.bump.eat (.keyword .static)) := .eat rfl
    generalize s.bump.eat (.keyword .static) = t at *
    obtain ⟨some_segment, reads, moved⟩ := qualifiedName_of_header (n := n) header
    rw [if_neg (by simpa using some_segment)]
    have star := Reads.onDemand n (qualifiedName t).2
    have spanned := reads.spanned moved (lt_size_of_peek hident)
    rw [← star.tokens, ← star.sourceEnd] at spanned
    refine .trans ?_ (Reads.expectSemicolon .importDeclaration).gathers
    exact (static.trans (reads.trans star)).gathers.trans (.push _ spanned)
  · rw [qualifiedName_of_ne hident]
    -- The report stands on the word, so it is made before `static` is passed.
    have told : Reads n s.bump (s.bump.report (.expected .name Keyword.import.word)
        s.bump.previousSpan) := .report rfl
    have static := told.trans (.eat (show isPlain (.keyword .static) from rfl))
    rw [eat_report] at static
    exact static.gathers

/-! ## The whole source -/

/-- The declarations of a source are read until no token is left. -/
theorem compilationUnit_gathers (hi : inner.Sound n) (s : State) :
    Gathers n s (compilationUnit inner s) ∧ (compilationUnit inner s).peek = none := by
  refine repeatWhile_exit (Gathers n) (motive := fun r => Gathers n s r.2 ∧ r.2.peek = none)
    (.refl n) (fun _ _ _ => .trans) ?again ?stop
  case again =>
    intro _ s _ t h
    have step {kind : Token.Kind} {t : State} (hpeek : s.peek = some kind) (gathers : Gathers n s t)
        (moved : s.cursor < t.cursor) : Gathers n s t ∧ t.remaining < s.remaining :=
      ⟨gathers, gathers.remaining_lt moved (lt_size_of_peek hpeek)⟩
    have behind {kind : Token.Kind} {t : State} (hpeek : s.peek = some kind) (plain : isPlain kind)
        (rest : Gathers n s.bump t) : Gathers n s t ∧ t.remaining < s.remaining :=
      step hpeek ((Reads.bump hpeek plain).gathers.trans rest)
        (Nat.lt_of_lt_of_le (cursor_lt_bump hpeek) rest.cursor_le)
    unfold unitTurn at h
    split at h
    · cases h
    all_goals
      rename_i hpeek
      cases h
    · exact behind hpeek rfl (Reads.packageDeclaration hpeek).gathers
    · exact behind hpeek rfl (.importDeclaration hpeek)
    · exact behind hpeek rfl (.refl n _)
    · exact step hpeek (Reads.junk (by simp [hpeek])).gathers (cursor_lt_junk hpeek)
    · have read := Reads.member hi s
      exact step hpeek (Reads.guarded read).gathers (cursor_lt_guarded read.toReads hpeek)
  case stop =>
    intro _ t _ u gathers h
    unfold unitTurn at h
    split at h
    · rename_i hpeek
      cases h
      exact ⟨gathers, hpeek⟩
    all_goals cases h

theorem read_gathers (tokens : List Token) (sourceEnd : Nat) :
    Gathers maxNesting (.start tokens.toArray sourceEnd) (read tokens sourceEnd) ∧
      (read tokens sourceEnd).peek = none :=
  compilationUnit_gathers (nested_sound maxNesting) _

/-- The cursor of a reading ends behind the last token. -/
theorem cursor_read (tokens : List Token) (sourceEnd : Nat) :
    (read tokens sourceEnd).cursor = tokens.length := by
  obtain ⟨gathers, ended⟩ := read_gathers tokens sourceEnd
  have hsize : (read tokens sourceEnd).tokens.size = tokens.length :=
    congrArg Array.size gathers.tokens
  exact hsize ▸ Nat.le_antisymm (gathers.cursor_le_size (Nat.zero_le _)) (peek_eq_none_iff.1 ended)

/-- What the grammar finds in the tokens of a source is that of a chain of moves from the first
token to the last. -/
theorem read_moves (tokens : List Token) (sourceEnd : Nat) :
    ∃ mentions, (read tokens sourceEnd).nodes.toList = mentions.map (Mention.node tokens.toArray) ∧
      Moves tokens.toArray sourceEnd maxNesting 0 tokens.length mentions
        (read tokens sourceEnd).findings.toList := by
  obtain ⟨gathers, _⟩ := read_gathers tokens sourceEnd
  obtain ⟨ms, fs, hnodes, hfindings, moves⟩ := gathers.moves
  have hfs : fs = (read tokens sourceEnd).findings.toList := hfindings.symm
  rw [← cursor_read tokens sourceEnd, ← hfs]
  exact ⟨ms, hnodes, moves⟩

theorem read_imports_spanned {tokens : List Token} {sourceEnd : Nat} {declared : Import}
    (h : declared ∈ (read tokens sourceEnd).imports) :
    Spanned tokens.toArray sourceEnd declared.span := by
  obtain ⟨gathers, _⟩ := read_gathers tokens sourceEnd
  obtain hmem | spanned := gathers.imports declared h
  · simp [State.start] at hmem
  · exact spanned

end JavaLens.Grammar
