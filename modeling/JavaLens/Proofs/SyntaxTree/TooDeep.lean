import JavaLens.Proofs.Grammar.Matching
import JavaLens.Proofs.SyntaxTree.MissingBraces
import JavaLens.Proofs.Tokenization.Coverage
import JavaLens.Proofs.Tokenization.Lines

/-!
# Regions that are too deep

Where braces are nested too deep the grammar passes over a flat region as a whole. Such *gaps* come
one behind another, and all that is mentioned lies outside of them or around them. So the tree has
nothing to say about a gap but that it is there, and it says so once.

## Main definitions

* `Grammar.Gap` — a region that is passed over, by the indices of its tokens.
* `Grammar.Gaps` — the gaps of a reading.
* `Problem.isTooDeep` — a region is reported to be nested too deep.

## Main statements

* `Grammar.Moves.exists_gaps` — what a reading reports to be too deep are its gaps.
* `SyntaxTree.too_deep_region_opaque` — a region that is too deep is reported once, and no node has
  a part in it.
-/

namespace JavaLens

instance (a b : Span) : Decidable (a.Apart b) := inferInstanceAs (Decidable (_ ∨ _))

/-! ## The gaps of a reading -/

namespace Grammar

/-- A region that is passed over, by the index of its first token and that of the one behind it. -/
structure Gap where
  first : Nat
  stop : Nat
deriving DecidableEq, Repr

namespace Gap

/-- What is reported about a gap. -/
def finding (tokens : Array Token) (g : Gap) : Finding := ⟨.tooDeep, (tokenAt tokens g.first).span⟩

/-- What a gap covers. -/
def span (tokens : Array Token) (g : Gap) : Span :=
  ⟨(tokenAt tokens g.first).span.start, (tokenAt tokens (g.stop - 1)).span.stop⟩

/-- A gap lies in a range of tokens. It is the flat region that an opening brace starts. -/
structure Within (tokens : Array Token) (i j : Nat) (g : Gap) : Prop where
  start_le : i ≤ g.first
  stop_le : g.stop ≤ j
  opened : kindAt tokens g.first = some .lbrace
  region : FlatRegion tokens g.first g.stop

/-- A mention has its name outside of a gap, and lies before it, behind it or around it. -/
def Spares (g : Gap) (m : Mention) : Prop :=
  (m.name < g.first ∨ g.stop ≤ m.name) ∧
    (m.last < g.first ∨ g.stop ≤ m.first ∨ (m.first ≤ g.first ∧ g.stop ≤ m.last + 1))

theorem Within.mono {tokens : Array Token} {i j i' j' : Nat} {g : Gap} (h : g.Within tokens i j)
    (hi : i' ≤ i) (hj : j ≤ j') : g.Within tokens i' j' :=
  { h with
    start_le := Nat.le_trans hi h.start_le
    stop_le := Nat.le_trans h.stop_le hj }

end Gap

/-- The gaps of a reading from one token to another: they are what it reports to be too deep, they
come one behind another, and its mentions spare them. -/
structure Gaps (tokens : Array Token) (i j : Nat) (ms : List Mention) (fs : List Finding)
    (gs : List Gap) : Prop where
  told : fs.filter (·.fault = .tooDeep) = gs.map (Gap.finding tokens)
  within : ∀ g ∈ gs, g.Within tokens i j
  ordered : gs.Pairwise (·.stop ≤ ·.first)
  spared : ∀ g ∈ gs, ∀ m ∈ ms, g.Spares m

variable {tokens : Array Token} {sourceEnd n i j k i' j' : Nat} {ms ms' : List Mention}
  {fs fs' : List Finding} {gs gs' : List Gap}

namespace Gaps

/-- Nothing is passed over where nothing is reported to be too deep. -/
theorem none (h : ∀ f ∈ fs, f.fault ≠ .tooDeep) : Gaps tokens i j ms fs [] where
  told := List.filter_eq_nil_iff.2 fun f hf => by simpa using h f hf
  within := by simp
  ordered := .nil
  spared := by simp

theorem of_isLocal {fault : Fault} (h : isLocal fault) (span : Span) :
    Gaps tokens i j ms [⟨fault, span⟩] [] := by
  refine .none fun f hf deep => ?_
  cases List.mem_singleton.1 hf
  obtain rfl : fault = .tooDeep := deep
  cases h

theorem mono (h : Gaps tokens i j ms fs gs) (hi : i' ≤ i) (hj : j ≤ j') :
    Gaps tokens i' j' ms fs gs :=
  { h with within := fun g hg => (h.within g hg).mono hi hj }

/-- Of two readings in a row, the mentions of each lie outside of the gaps of the other. -/
theorem append (h : Gaps tokens i j ms fs gs) (h' : Gaps tokens i' j' ms' fs' gs')
    (le : i ≤ i') (between : j ≤ i') (le' : j ≤ j') (within : ∀ m ∈ ms, m.Within tokens i j)
    (within' : ∀ m ∈ ms', m.Within tokens i' j') :
    Gaps tokens i j' (ms ++ ms') (fs ++ fs') (gs ++ gs') where
  told := by rw [List.filter_append, h.told, h'.told, List.map_append]
  within g hg := by
    obtain hg | hg := List.mem_append.1 hg
    · exact (h.within g hg).mono (Nat.le_refl i) le'
    · exact (h'.within g hg).mono le (Nat.le_refl j')
  ordered := by
    refine List.pairwise_append.2 ⟨h.ordered, h'.ordered, fun g hg g' hg' => ?_⟩
    have := (h.within g hg).stop_le
    have := (h'.within g' hg').start_le
    omega
  spared g hg m hm := by
    obtain hg | hg := List.mem_append.1 hg <;> obtain hm | hm := List.mem_append.1 hm
    · exact h.spared g hg m hm
    · have := (h.within g hg).stop_le
      obtain ⟨start_le, first_le, _, _, _, _⟩ := within' m hm
      exact ⟨.inr (by omega), .inr (.inl (by omega))⟩
    · have := (h'.within g hg).start_le
      obtain ⟨_, _, name_le, last_lt, _, _⟩ := within m hm
      exact ⟨.inl (by omega), .inl (by omega)⟩
    · exact h'.spared g hg m hm

/-- A reading may mention what its gaps spare as well. -/
theorem mention {m : Mention} (h : Gaps tokens i j (ms ++ ms') fs gs)
    (spared : ∀ g ∈ gs, g.Spares m) : Gaps tokens i j (ms ++ m :: ms') fs gs where
  told := h.told
  within := h.within
  ordered := h.ordered
  spared g hg m' hm' := by
    obtain hm' | rfl | hm' := by simpa using hm'
    · exact h.spared g hg m' (List.mem_append_left _ hm')
    · exact spared g hg
    · exact h.spared g hg m' (List.mem_append_right _ hm')

/-- The gaps of a declaration are those before its name and those behind it. -/
theorem declaration (flavor : Flavor) (head : Gaps tokens i j ms fs gs)
    (rest : Gaps tokens (j + 1) k ms' fs' gs') (hij : i ≤ j) (hjk : j < k)
    (within : ∀ m ∈ ms, m.Within tokens i j) (within' : ∀ m ∈ ms', m.Within tokens (j + 1) k) :
    Gaps tokens i k (ms ++ ⟨some flavor, i, j, k - 1⟩ :: ms') (fs ++ fs') (gs ++ gs') := by
  have parts := head.append rest (by omega) (Nat.le_succ j) (by omega) within within'
  refine parts.mention fun g hg => ?_
  have around := parts.within g hg
  have := around.start_le
  have := around.stop_le
  refine ⟨?_, .inr (.inr ⟨around.start_le, by dsimp only; omega⟩)⟩
  obtain hg | hg := List.mem_append.1 hg
  · exact .inr (head.within g hg).stop_le
  · exact .inl (rest.within g hg).start_le

end Gaps

/-- What a reading reports to be too deep are its gaps. -/
theorem Moves.exists_gaps (h : Moves tokens sourceEnd n i j ms fs) :
    ∃ gs, Gaps tokens i j ms fs gs := by
  induction h with
  | stay | pass | overlook | reference => exact ⟨[], .none (by simp)⟩
  | report placed => exact ⟨[], .of_isLocal placed _⟩
  | @stray n i j => exact ⟨[], .of_isLocal (isLocal_strayFault tokens i j) _⟩
  | @skip n i j opened skipped =>
    refine ⟨[⟨i, j⟩], rfl, ?_, List.pairwise_singleton .., by simp⟩
    intro g hg
    rw [List.mem_singleton.1 hg]
    exact ⟨Nat.le_refl i, Nat.le_refl j, opened, skipped⟩
  | trans first second ih ih' =>
    obtain ⟨gs, gaps⟩ := ih
    obtain ⟨gs', gaps'⟩ := ih'
    exact ⟨gs ++ gs', gaps.append gaps' first.le (Nat.le_refl _) second.le first.within
      second.within⟩
  | region _ _ _ ih =>
    obtain ⟨gs, gaps⟩ := ih
    exact ⟨gs, gaps.mono (Nat.le_succ _) (Nat.le_succ _)⟩
  | openRegion construct _ _ _ ih =>
    obtain ⟨gs, gaps⟩ := ih
    refine ⟨gs, { gaps.mono (Nat.le_succ _) (Nat.le_refl _) with told := ?_ }⟩
    rw [List.filter_append, gaps.told]
    exact List.append_nil _
  | declaration flavor head _ rest ih ih' =>
    obtain ⟨gs, gaps⟩ := ih
    obtain ⟨gs', gaps'⟩ := ih'
    exact ⟨gs ++ gs', gaps.declaration flavor gaps' head.le rest.le head.within rest.within⟩

/-! ## Gaps by their spans -/

section Spans

variable {g : Gap} {m : Mention}

theorem Gap.Spares.apart_name (h : g.Spares m) (side : SideBySide tokens)
    (within : g.Within tokens 0 tokens.size) (mentioned : m.Within tokens 0 tokens.size) :
    (g.span tokens).Apart (m.node tokens).identifier.span := by
  have nonempty := within.region.nonempty
  have stop_le := within.stop_le
  have hname := Nat.lt_of_le_of_lt mentioned.name_le mentioned.last_lt
  rw [Mention.identifier_node]
  obtain before | behind := h.1
  · exact .inr (side.ordered m.name g.first before (by omega))
  · exact .inl (side.ordered (g.stop - 1) m.name (by omega) hname)

theorem Gap.Spares.encloses_or_apart (h : g.Spares m) (side : SideBySide tokens)
    (within : g.Within tokens 0 tokens.size) (mentioned : m.Within tokens 0 tokens.size) :
    (m.node tokens).span.Encloses (g.span tokens) ∨
      (g.span tokens).Apart (m.node tokens).span := by
  have nonempty := within.region.nonempty
  have stop_le := within.stop_le
  have last_lt := mentioned.last_lt
  have hfirst := Nat.le_trans mentioned.first_le mentioned.name_le
  rw [Mention.span_node side mentioned]
  obtain before | behind | ⟨hstart, hstop⟩ := h.2
  · exact .inr (.inr (side.ordered m.last g.first before (by omega)))
  · exact .inr (.inl (side.ordered (g.stop - 1) m.first (by omega) (by omega)))
  · exact .inl ⟨side.start_le hstart (by omega), side.stop_le (by omega) last_lt⟩

/-- A gap is reported at its first token. -/
theorem Gap.Within.not_apart (within : g.Within tokens 0 tokens.size) (side : SideBySide tokens) :
    ¬(g.span tokens).Apart (g.finding tokens).span := by
  have nonempty := within.region.nonempty
  have stop_le := within.stop_le
  have hfirst := side.nonempty g.first (by omega)
  have hstop := side.stop_le (i := g.first) (j := g.stop - 1) (by omega) (by omega)
  unfold Span.Apart span finding
  dsimp only
  omega

/-- Of the gaps of a reading only one is reported in it. -/
theorem Gaps.filter_eq (gaps : Gaps tokens 0 tokens.size ms fs gs) (side : SideBySide tokens)
    (hg : g ∈ gs) :
    gs.filter (fun g' => ¬(g.span tokens).Apart (g'.finding tokens).span) = [g] := by
  obtain ⟨before, behind, rfl⟩ := List.append_of_mem hg
  have within := gaps.within g hg
  have nonempty := within.region.nonempty
  have stop_le := within.stop_le
  obtain ⟨_, ordered, leads⟩ := List.pairwise_append.1 gaps.ordered
  have earlier : ∀ g' ∈ before, (g.span tokens).Apart (g'.finding tokens).span := by
    intro g' hg'
    have hlt := (gaps.within g' (List.mem_append_left _ hg')).region.nonempty
    have hle := leads g' hg' g List.mem_cons_self
    exact .inr (side.ordered g'.first g.first (by omega) (by omega))
  have later : ∀ g' ∈ behind, (g.span tokens).Apart (g'.finding tokens).span := by
    intro g' hg'
    have hle := (List.pairwise_cons.1 ordered).1 g' hg'
    have hopened := (gaps.within g' (by simp [hg'])).opened
    exact .inl (side.ordered (g.stop - 1) g'.first (by omega) (lt_size_of_kindAt hopened))
  rw [List.filter_append, List.filter_cons_of_pos (by simpa using within.not_apart side),
    List.filter_eq_nil_iff.2 (by simpa using earlier),
    List.filter_eq_nil_iff.2 (by simpa using later), List.nil_append]

end Spans

end Grammar

/-! ## Problems about gaps -/

namespace Problem

/-- The wording of a region that is nested too deep. -/
def tooDeepText : String := "Nesting is too deep, contents are not analyzed"

/-- Whether the problem is that a region is nested too deep. -/
def isTooDeep (p : Problem) : Bool := p.message = tooDeepText

/-- A problem that starts in another way is not about nesting. -/
theorem not_isTooDeep {p : Problem} {start : String}
    (other : start ∈ ["Syntax error on token \"", "Syntax error, insert \"", "The import "])
    (h : start.toList <+: p.message.toList) : ¬p.isTooDeep := by
  intro deep
  have message : p.message = tooDeepText := of_decide_eq_true deep
  have apart : ∀ start ∈ ["Syntax error on token \"", "Syntax error, insert \"", "The import "],
      ¬(start.toList <+: tooDeepText.toList) := by decide
  exact apart start other (message ▸ h)

end Problem

/-- Only a region that is too deep is worded like one. -/
theorem Finding.isTooDeep_problem (f : Finding) : f.problem.isTooDeep ↔ f.fault = .tooDeep := by
  obtain ⟨fault, span⟩ := f
  refine ⟨fun h => ?_, fun h => decide_eq_true (congrArg Fault.message h)⟩
  have message : fault.message = Problem.tooDeepText := of_decide_eq_true h
  cases fault with
  | unknownCharacters | strayToken =>
    refine absurd h (Problem.not_isTooDeep (.head _) ?_)
    exact (Text.prefix_append _ _).trans (Text.prefix_append _ _)
  | expected =>
    refine absurd h (Problem.not_isTooDeep (.head _) ?_)
    exact (((Text.prefix_append _ _).trans (Text.prefix_append _ _)).trans
      (Text.prefix_append _ _)).trans (Text.prefix_append _ _)
  | missing =>
    refine absurd h (Problem.not_isTooDeep (.tail _ (.head _)) ?_)
    exact ((Text.prefix_append _ _).trans (Text.prefix_append _ _)).trans (Text.prefix_append _ _)
  | tooDeep => rfl
  | _ => exact absurd message (by decide)

namespace SyntaxTree

open Grammar

variable {source : String}

/-- The scanner finds nothing too deep. -/
theorem not_tooDeep_of_mem_tokenize {f : Finding} (h : f ∈ (tokenize source).findings) :
    f.fault ≠ .tooDeep := by
  intro deep
  rw [tokenize_findings, List.mem_filterMap] at h
  obtain ⟨p, _, hfinding⟩ := h
  obtain ⟨fault, found, rfl⟩ := Option.map_eq_some_iff.1 hfinding
  obtain rfl : fault = _ := deep
  unfold Lexeme.fault? at found
  split at found <;> cases found

/-- All that is reported to be too deep is found by the grammar. -/
theorem filter_isTooDeep_perm (source : String) :
    ((ofSource source).problems.filter Problem.isTooDeep).Perm
      (((read (tokenize source).tokens source.utf8ByteSize).findings.toList.filter
        (·.fault = .tooDeep)).map Finding.problem) := by
  have told (fs : List Finding) : (fs.map Finding.problem).filter Problem.isTooDeep =
      (fs.filter (·.fault = .tooDeep)).map Finding.problem := by
    have same : Problem.isTooDeep ∘ Finding.problem = fun f => decide (f.fault = .tooDeep) :=
      funext fun f => Bool.eq_iff_iff.2 (by simpa using f.isTooDeep_problem)
    rw [List.filter_map, same]
  have scanned : (tokenize source).findings.filter (·.fault = .tooDeep) = [] :=
    List.filter_eq_nil_iff.2 fun f hf => by simpa using not_tooDeep_of_mem_tokenize hf
  have silent (imports : List Import) (nodes : List Node) :
      (Import.unused imports nodes).filter Problem.isTooDeep = [] := by
    rw [List.filter_eq_nil_iff]
    intro p hp
    obtain ⟨i, _, rfl⟩ := List.mem_map.1 hp
    have start : "The import ".toList <+: i.warning.message.toList :=
      (Text.prefix_append _ _).trans (Text.prefix_append _ _)
    exact Problem.not_isTooDeep (.tail _ (.tail _ (.head _))) start
  have perm := (problems_perm_parts source).filter Problem.isTooDeep
  rwa [List.filter_append, List.filter_append, told, told, scanned, silent, List.map_nil,
    List.nil_append, List.append_nil] at perm

/-- The problems of a tree about nesting are those of the gaps in its reading. -/
theorem exists_gaps (source : String) :
    let tokens := (tokenize source).tokens.toArray
    ∃ mentions findings gaps,
      (ofSource source).nodes.Perm (mentions.map (Mention.node tokens)) ∧
      (∀ m ∈ mentions, m.Within tokens 0 tokens.size) ∧
      Gaps tokens 0 tokens.size mentions findings gaps ∧
      ((ofSource source).problems.filter Problem.isTooDeep).Perm
        (gaps.map fun g => (g.finding tokens).problem) := by
  obtain ⟨mentions, perm, moves⟩ := exists_mentions source
  obtain ⟨gs, gaps⟩ := moves.exists_gaps
  have told := filter_isTooDeep_perm source
  rw [gaps.told, List.map_map] at told
  exact ⟨mentions, _, gs, perm, moves.within, gaps, told⟩

/-- A region that is reported to be nested too deep is the flat region of the brace that the problem
points at. No node has its name in the region, and each node lies around it or outside of it. No
other region in it is reported. The region ends with the matching brace if its brackets are properly
nested, and only then is there a matching brace. -/
theorem too_deep_region_opaque (source : String) (problem : Problem)
    (told : problem ∈ (ofSource source).problems) (deep : problem.isTooDeep) :
    let tokens := (tokenize source).tokens.toArray
    ∃ i j, kindAt tokens i = some .lbrace ∧ problem.span = (tokenAt tokens i).span ∧
      FlatRegion tokens i j ∧
      let region : Span := ⟨(tokenAt tokens i).span.start, (tokenAt tokens (j - 1)).span.stop⟩
      (∀ node ∈ (ofSource source).nodes, region.Apart node.identifier.span ∧
        (node.span.Encloses region ∨ region.Apart node.span)) ∧
      (ofSource source).problems.filter (fun p => p.isTooDeep ∧ ¬region.Apart p.span) =
        [problem] ∧
      ∀ m, Matches tokens i m ↔ NestedBetween tokens i j ∧ j = m + 1 := by
  intro tokens
  have side : SideBySide tokens := sideBySide_tokenize source
  obtain ⟨mentions, findings, gs, perm, mentioned, gaps, problems⟩ := exists_gaps source
  obtain ⟨g, hg, rfl⟩ := List.mem_map.1 (problems.mem_iff.1 (List.mem_filter.2 ⟨told, deep⟩))
  have within : g.Within tokens 0 tokens.size := gaps.within g hg
  refine ⟨g.first, g.stop, within.opened, rfl, within.region, fun node hnode => ?_, ?_,
    fun m => within.region.matches_iff within.opened⟩
  · obtain ⟨m, hm, rfl⟩ := List.mem_map.1 (perm.mem_iff.1 hnode)
    have spares := gaps.spared g hg m hm
    exact ⟨spares.apart_name side within (mentioned m hm),
      spares.encloses_or_apart side within (mentioned m hm)⟩
  · have single : (gs.map fun g => (g.finding tokens).problem).filter
        (fun p => ¬(g.span tokens).Apart p.span) = [(g.finding tokens).problem] := by
      rw [List.filter_map]
      exact congrArg (List.map _) (gaps.filter_eq side hg)
    have inside := problems.filter fun p => ¬(g.span tokens).Apart p.span
    rw [single, List.perm_singleton, List.filter_filter] at inside
    rw [← inside]
    refine List.filter_congr fun p _ => ?_
    rw [Bool.decide_and, Bool.decide_eq_true, Bool.and_comm]
    rfl

/-- Opening braces, one to a line. -/
def openBraces : Nat → String
  | 0 => ""
  | n + 1 => "\x7b" ++ "\n" ++ openBraces n

theorem tokens_openBraces (n : Nat) :
    (tokenize (openBraces n)).tokens =
      (List.range n).map fun k => ⟨.lbrace, "\x7b", 2 * k, 2 * k + 1⟩ := by
  have brace : Lexeme.AllClosed (Lexeme.scan "\x7b".toList) ∧
      (tokenize "\x7b").tokens = [⟨.lbrace, "\x7b", 0, 1⟩] ∧ (tokenize "").tokens = [] := by
    unfold Lexeme.AllClosed
    decide +kernel
  obtain ⟨closed, alone, empty⟩ := brace
  induction n with
  | zero => exact empty
  | succ n ih =>
    rw [openBraces, tokens_line closed, ih, alone, List.range_succ_eq_map, List.map_cons,
      List.map_map, List.map_map]
    refine congrArg (List.cons _) (List.map_congr_left fun k _ => ?_)
    have size : "\x7b".utf8ByteSize = 1 := rfl
    simp only [Function.comp_apply, Token.shift, Span.shift, size, Token.mk.injEq, Span.mk.injEq,
      true_and]
    omega

/-- One level more than the limit is too deep. -/
theorem too_deep_region_of_openBraces :
    let source := openBraces (maxNesting + 1)
    ∃ problem ∈ (ofSource source).problems, problem.isTooDeep ∧
      ∃ i j, problem.span = (tokenAt (tokenize source).tokens.toArray i).span ∧
        FlatRegion (tokenize source).tokens.toArray i j := by
  intro source
  have deep : ∃ f ∈ (read (tokenize source).tokens source.utf8ByteSize).findings.toList,
      f.fault = .tooDeep := by
    rw [tokens_openBraces]
    decide +kernel
  obtain ⟨f, hf, fault⟩ := deep
  have told := problem_mem_of_finding hf
  have deep := f.isTooDeep_problem.2 fault
  obtain ⟨i, j, -, place, region, -⟩ := too_deep_region_opaque source f.problem told deep
  exact ⟨f.problem, told, deep, i, j, place, region⟩

end SyntaxTree

end JavaLens
