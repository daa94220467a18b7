import JavaLens.Proofs.Grammar.Brackets
import JavaLens.Proofs.SyntaxTree.Braces

/-!
# Missing braces

A body that reaches the end of the source is reported to miss its closing brace. In a source with
properly nested brackets no brace is missing, so its closing brace was taken for something else. The
grammar reports each brace that it takes for a stray token, and so it never reports more missing
braces than stray ones.

## Main definitions

* `Problem.missesBrace` — a body is reported to miss its closing brace.
* `Problem.deletesBrace` — a closing brace is reported as a stray token.

## Main statements

* `Grammar.Moves.covered` — what a reading reports about the braces that it passes over.
* `SyntaxTree.missing_braces_le_deleted` — missing braces are matched by stray ones.
* `SyntaxTree.lone_modifier_takes_brace` — a modifier in front of a closing brace makes it stray.
-/

namespace JavaLens

open DyckStep

/-! ## Problems about braces -/

namespace Problem

/-- The wordings of a body that misses its closing brace. -/
def missingBraceTexts : List String :=
  ["Syntax error, insert \"\x7d\" to complete ClassBody",
    "Syntax error, insert \"\x7d\" to complete Block"]

/-- The wordings of a closing brace that is stray, alone or with tokens behind it. -/
def strayBraceTexts : List String :=
  ["Syntax error on token \"\x7d\", delete this token",
    "Syntax error on tokens, delete these tokens"]

/-- Whether the problem is that a body misses its closing brace. -/
def missesBrace (p : Problem) : Bool := p.message ∈ missingBraceTexts

/-- Whether the problem is that one of the closing braces among the tokens is stray. -/
def deletesBrace (tokens : List Token) (p : Problem) : Bool :=
  p.message ∈ strayBraceTexts ∧
    ∃ token ∈ tokens, token.kind = .rbrace ∧ token.span.start = p.span.start

end Problem

/-- A text starts with its first part. -/
theorem Text.prefix_append (a b : String) : a.toList <+: (a ++ b).toList := by
  rw [String.toList_append]
  exact List.prefix_append _ _

/-- How problems with a part of the source in their wording start, and those about other missing
symbols. -/
def Problem.otherOpenings : List String :=
  "Syntax error on token \"" :: "The import " ::
    [Missing.semicolon, .closingParen, .classBody].map fun symbol =>
      "Syntax error, insert \"" ++ symbol.text

/-- A problem that starts in another way is not about a missing brace. -/
theorem Problem.not_missesBrace {p : Problem} {start : String} (other : start ∈ otherOpenings)
    (h : start.toList <+: p.message.toList) : ¬p.missesBrace := by
  intro misses
  have apart : ∀ start ∈ otherOpenings, ∀ text ∈ missingBraceTexts,
      ¬(start.toList <+: text.toList) := by decide
  exact apart start other p.message (of_decide_eq_true misses) h

/-- Only a missing brace is worded like one. -/
theorem Finding.fault_of_missesBrace {f : Finding} (h : f.problem.missesBrace) :
    ∃ construct, f.fault = .missing .closingBrace construct := by
  obtain ⟨fault, span⟩ := f
  have message : fault.message ∈ Problem.missingBraceTexts := of_decide_eq_true h
  cases fault with
  | unknownCharacters | strayToken =>
    refine absurd h (Problem.not_missesBrace (.head _) ?_)
    exact (Text.prefix_append _ _).trans (Text.prefix_append _ _)
  | expected =>
    refine absurd h (Problem.not_missesBrace (.head _) ?_)
    exact (((Text.prefix_append _ _).trans (Text.prefix_append _ _)).trans
      (Text.prefix_append _ _)).trans (Text.prefix_append _ _)
  | missing symbol construct =>
    by_cases closing : symbol = .closingBrace
    · exact ⟨construct, by rw [closing]⟩
    · have other : symbol ∈ [Missing.semicolon, .closingParen, .classBody] := by
        cases symbol <;> simp_all
      refine absurd h (Problem.not_missesBrace
        (.tail _ (.tail _ (List.mem_map.2 ⟨symbol, other, rfl⟩))) ?_)
      exact (Text.prefix_append _ _).trans (Text.prefix_append _ _)
  | _ => exact absurd message (by decide)

/-! ## The braces of a reading -/

namespace Grammar

variable {tokens : Array Token} {sourceEnd n i j k : Nat} {ms : List Mention} {fs gs : List Finding}

/-- The number of bodies that are reported to miss a brace. -/
def missingBraces (fs : List Finding) : Nat := (fs.map Finding.problem).countP Problem.missesBrace

/-- The number of closing braces that are reported to be stray. -/
def strayBraces (tokens : Array Token) (fs : List Finding) : Nat :=
  (fs.map Finding.problem).countP (Problem.deletesBrace tokens.toList)

/-- Between two tokens no more braces are closed, or reported to be missing, than are opened or
reported to be stray. -/
def Covered (tokens : Array Token) (i j : Nat) (fs : List Finding) : Prop :=
  (bracesBetween tokens i j).count D + missingBraces fs ≤
    (bracesBetween tokens i j).count U + strayBraces tokens fs

theorem missingBraces_append (fs gs : List Finding) :
    missingBraces (fs ++ gs) = missingBraces fs + missingBraces gs := by
  rw [missingBraces, List.map_append, List.countP_append, missingBraces, missingBraces]

theorem strayBraces_append (tokens : Array Token) (fs gs : List Finding) :
    strayBraces tokens (fs ++ gs) = strayBraces tokens fs + strayBraces tokens gs := by
  rw [strayBraces, List.map_append, List.countP_append, strayBraces, strayBraces]

/-- Other faults are not about a missing brace. -/
theorem missingBraces_eq_zero
    (h : ∀ f ∈ fs, ∀ construct, f.fault ≠ .missing .closingBrace construct) :
    missingBraces fs = 0 := by
  rw [missingBraces, List.countP_eq_zero]
  intro p hp misses
  obtain ⟨f, hf, rfl⟩ := List.mem_map.1 hp
  obtain ⟨construct, hfault⟩ := Finding.fault_of_missesBrace misses
  exact h f hf construct hfault

theorem missingBraces_of_isLocal {fault : Fault} (h : isLocal fault) (span : Span) :
    missingBraces [⟨fault, span⟩] = 0 := by
  refine missingBraces_eq_zero fun f hf construct hfault => ?_
  cases List.mem_singleton.1 hf
  obtain rfl : fault = _ := hfault
  cases h

theorem count_bracesBetween (step : DyckStep) (hij : i ≤ j) (hjk : j ≤ k) :
    (bracesBetween tokens i k).count step =
      (bracesBetween tokens i j).count step + (bracesBetween tokens j k).count step := by
  rw [← bracesBetween_append hij hjk, List.count_append]

theorem count_bracesBetween_head {kind : Token.Kind} (step : DyckStep)
    (seen : kindAt tokens i = some kind) (hij : i + 1 ≤ j) :
    (bracesBetween tokens i j).count step =
      kind.brace?.toList.count step + (bracesBetween tokens (i + 1) j).count step := by
  rw [count_bracesBetween step (Nat.le_add_right i 1) hij, bracesBetween_succ seen]

theorem count_bracesBetween_last {kind : Token.Kind} (step : DyckStep)
    (seen : kindAt tokens j = some kind) (hij : i ≤ j) :
    (bracesBetween tokens i (j + 1)).count step =
      (bracesBetween tokens i j).count step + kind.brace?.toList.count step := by
  rw [count_bracesBetween step hij (Nat.le_add_right j 1), bracesBetween_succ seen]

namespace Covered

theorem trans (hij : i ≤ j) (hjk : j ≤ k) (first : Covered tokens i j fs)
    (second : Covered tokens j k gs) : Covered tokens i k (fs ++ gs) := by
  unfold Covered at *
  rw [count_bracesBetween D hij hjk, count_bracesBetween U hij hjk, missingBraces_append,
    strayBraces_append]
  omega

/-- A token that is no brace opens and closes none. -/
theorem of_plain {kind : Token.Kind} (seen : kindAt tokens i = some kind)
    (plain : kind.brace? = none) : Covered tokens i (i + 1) [] := by
  unfold Covered
  simp [bracesBetween_succ seen, plain, missingBraces]

end Covered

/-- A brace is due for each one that is opened, and no more for each one that is closed. -/
theorem count_brace?_of_due? {kind : Token.Kind} {due due' : List Token.Kind}
    (h : kind.due? due = some due') :
    kind.brace?.toList.count U + due.count .rbrace =
      kind.brace?.toList.count D + due'.count .rbrace := by
  cases kind with
  | lparen | lbracket | lbrace =>
    cases h
    simp [Token.Kind.brace?, Nat.add_comm]
  | rparen | rbracket | rbrace =>
    rw [Token.Kind.due?, Option.ite_none_right_eq_some] at h
    obtain ⟨head, tail⟩ := h
    cases tail
    cases due with
    | nil => cases head
    | cons top due =>
      cases head
      simp [Token.Kind.brace?, Nat.add_comm]
  | _ =>
    cases h
    rfl

/-- The braces that are due at two places tell how many are opened and closed between them. -/
theorem count_braces_of_dueAt {due due' : List Token.Kind} (hij : i ≤ j) (hj : j ≤ tokens.size)
    (before : dueAt tokens i = some due) (after : dueAt tokens j = some due') :
    (bracesBetween tokens i j).count U + due.count .rbrace =
      (bracesBetween tokens i j).count D + due'.count .rbrace := by
  induction hij generalizing due' with
  | refl =>
    obtain rfl := Option.some.inj (before.symm.trans after)
    simp [bracesBetween_self]
  | @step k hik ih =>
    obtain ⟨kind, hkind⟩ := exists_kindAt hj
    rw [dueAt_succ hkind] at after
    obtain ⟨between, hbetween, hdue⟩ := Option.bind_eq_some_iff.1 after
    have passed := ih (Nat.le_of_succ_le hj) hbetween
    have last := count_brace?_of_due? hdue
    rw [count_bracesBetween_last U hkind hik, count_bracesBetween_last D hkind hik]
    omega

theorem bracesBetween_eq_nil (hij : i ≤ j)
    (plain : ∀ k, i ≤ k → k < j → ∃ kind, kindAt tokens k = some kind ∧ kind.brace? = none) :
    bracesBetween tokens i j = [] := by
  induction hij with
  | refl => exact bracesBetween_self tokens i
  | @step k hik ih =>
    obtain ⟨kind, seen, hkind⟩ := plain k hik (Nat.lt_succ_self k)
    rw [← bracesBetween_append hik (Nat.le_succ k), bracesBetween_succ seen, hkind,
      ih fun l hil hlk => plain l hil (Nat.lt_succ_of_lt hlk)]
    rfl

theorem isPlain_of_prolongsJunk {kind : Token.Kind} (h : prolongsJunk kind) : isPlain kind := by
  cases kind <;> simp_all [prolongsJunk, isPlain]

theorem isLocal_strayFault (tokens : Array Token) (i j : Nat) :
    isLocal (strayFault tokens i j) := by
  unfold strayFault
  split <;> rfl

theorem deletesBrace_stray (seen : kindAt tokens i = some .rbrace) (stop : Nat)
    (spelled : ∀ token ∈ tokens.toList, token.kind = .rbrace → token.text = "\x7d") :
    (Finding.mk (strayFault tokens i j) ⟨(tokenAt tokens i).span.start, stop⟩).problem.deletesBrace
      tokens.toList := by
  obtain ⟨htoken, hkind⟩ := kindAt_eq_some_iff.1 seen
  have hmem : tokenAt tokens i ∈ tokens.toList := List.mem_of_getElem? (by simpa using htoken)
  have message : (strayFault tokens i j).message ∈ Problem.strayBraceTexts := by
    rw [strayFault, spelled _ hmem hkind]
    split
    · exact .head _
    · exact .tail _ (.head _)
  exact decide_eq_true ⟨message, tokenAt tokens i, hmem, hkind, rfl⟩

/-- Where a stray token is a closing brace, it is reported. -/
theorem covered_stray {kind : Token.Kind} (seen : kindAt tokens i = some kind) (moved : i < j)
    (run : ∀ k, i < k → k < j → ∃ kind, kindAt tokens k = some kind ∧ prolongsJunk kind)
    (spelled : ∀ token ∈ tokens.toList, token.kind = .rbrace → token.text = "\x7d") :
    Covered tokens i j [⟨strayFault tokens i j, (tokenAt tokens i).span.start,
      (tokenAt tokens (j - 1)).span.stop⟩] := by
  -- Only the first token may be a brace.
  have rest : bracesBetween tokens (i + 1) j = [] := by
    refine bracesBetween_eq_nil moved fun k hik hkj => ?_
    obtain ⟨kind, hkind, prolongs⟩ := run k hik hkj
    exact ⟨kind, hkind, brace?_eq_none (isPlain_of_prolongsJunk prolongs)⟩
  have whole : bracesBetween tokens i j = kind.brace?.toList := by
    rw [← bracesBetween_append (Nat.le_succ i) moved, rest, bracesBetween_succ seen,
      List.append_nil]
  unfold Covered
  rw [whole, missingBraces_of_isLocal (isLocal_strayFault tokens i j)]
  by_cases closing : kind = .rbrace
  · subst closing
    simp [strayBraces, deletesBrace_stray seen _ spelled, Token.Kind.brace?]
  · have kept : kind.brace?.toList.count D = 0 := by
      cases kind <;> simp_all [Token.Kind.brace?]
    omega

/-- A reading closes the braces that it opens, up to those that it reports. -/
theorem Moves.covered (h : Moves tokens sourceEnd n i j ms fs)
    (nested : ProperlyNested tokens.toList)
    (spelled : ∀ token ∈ tokens.toList, token.kind = .rbrace → token.text = "\x7d") :
    Covered tokens i j fs := by
  induction h with
  | stay n i => simp [Covered, bracesBetween_self, missingBraces]
  | pass seen plain => exact .of_plain seen (brace?_eq_none plain)
  | overlook seen | reference seen => exact .of_plain seen rfl
  | trans first second ih ih' => exact .trans first.le second.le ih ih'
  | @report n i fault placed =>
    rw [Covered, bracesBetween_self, missingBraces_of_isLocal placed]
    exact Nat.zero_le _
  | stray seen _ moved run => exact covered_stray seen moved run spelled
  | @skip n i j opened skipped =>
    obtain ⟨due, hdue⟩ := exists_dueAt nested i
    have balanced := count_braces_of_dueAt (Nat.le_of_lt skipped.nonempty) skipped.bounded hdue
      ((skipped.dueAt_eq nested opened).trans hdue)
    have silent : missingBraces [⟨.tooDeep, (tokenAt tokens i).span⟩] = 0 :=
      missingBraces_eq_zero (by simp)
    unfold Covered
    omega
  | @region n i j ms fs opened inside closed ih =>
    have whole : i + 1 ≤ j + 1 := Nat.le_succ_of_le inside.le
    unfold Covered at *
    rw [count_bracesBetween_head D opened whole, count_bracesBetween_head U opened whole,
      count_bracesBetween_last D closed inside.le, count_bracesBetween_last U closed inside.le]
    change 0 + (_ + 1) + _ ≤ 1 + (_ + 0) + _
    omega
  | @openRegion n i j ms fs construct opened inside ended ih =>
    have single : missingBraces [⟨.missing .closingBrace construct,
        (State.before tokens sourceEnd j).previousSpan⟩] ≤ 1 := List.countP_le_length
    unfold Covered at *
    rw [count_bracesBetween_head D opened inside.le, count_bracesBetween_head U opened inside.le,
      missingBraces_append, strayBraces_append]
    change 0 + _ + _ ≤ 1 + _ + _
    omega
  | @declaration n i j k ms ms' fs fs' flavor head named rest ih ih' =>
    have name : Covered tokens j (j + 1) [] := .of_plain named rfl
    exact .trans head.le (Nat.le_of_succ_le rest.le) ih (.trans (Nat.le_succ j) rest.le name ih')

end Grammar

/-! ## The braces of a source -/

namespace SyntaxTree

open Grammar

variable {source : String}

/-- The scanner finds no missing braces. -/
theorem missingBraces_tokenize (source : String) :
    missingBraces (tokenize source).findings = 0 := by
  refine missingBraces_eq_zero fun f hf construct hfault => ?_
  rw [tokenize_findings, List.mem_filterMap] at hf
  obtain ⟨p, _, hfinding⟩ := hf
  obtain ⟨fault, found, rfl⟩ := Option.map_eq_some_iff.1 hfinding
  obtain rfl : fault = _ := hfault
  unfold Lexeme.fault? at found
  split at found <;> cases found

theorem not_missesBrace_warning (i : Import) : ¬i.warning.missesBrace := by
  have started : "The import ".toList <+: i.warning.message.toList :=
    (Text.prefix_append _ _).trans (Text.prefix_append _ _)
  exact Problem.not_missesBrace (.tail _ (.head _)) started

/-- All problems about missing braces are found by the grammar. -/
theorem countP_missesBrace (source : String) :
    (ofSource source).problems.countP Problem.missesBrace =
      missingBraces (read (tokenize source).tokens source.utf8ByteSize).findings.toList := by
  have silent (imports : List Import) (nodes : List Node) :
      (Import.unused imports nodes).countP Problem.missesBrace = 0 := by
    rw [List.countP_eq_zero]
    intro p hp
    obtain ⟨i, _, rfl⟩ := List.mem_map.1 hp
    exact not_missesBrace_warning i
  have scanned := missingBraces_tokenize source
  unfold missingBraces at *
  rw [(problems_perm_parts source).countP_eq, List.countP_append, List.countP_append, silent]
  omega

theorem strayBraces_le_countP (source : String) :
    strayBraces (tokenize source).tokens.toArray
        (read (tokenize source).tokens source.utf8ByteSize).findings.toList ≤
      (ofSource source).problems.countP (Problem.deletesBrace (tokenize source).tokens) := by
  rw [(problems_perm_parts source).countP_eq, List.countP_append, List.countP_append, strayBraces,
    List.toList_toArray]
  omega

theorem text_of_rbrace {token : Token} (h : token ∈ (tokenize source).tokens)
    (hkind : token.kind = .rbrace) : token.text = "\x7d" := by
  have symbol := mem_symbols_of_bracket h (.inr (by rw [hkind]; rfl))
  have unique : ∀ p ∈ Lexeme.symbols, p.2 = .rbrace → p.1 = ['\x7d'] := by decide
  exact String.toList_injective (unique _ symbol hkind)

/-- Missing braces are covered by stray ones. -/
theorem countP_missesBrace_le (nested : ProperlyNested (tokenize source).tokens) :
    (ofSource source).problems.countP Problem.missesBrace ≤
      (ofSource source).problems.countP (Problem.deletesBrace (tokenize source).tokens) := by
  obtain ⟨_, _, moves⟩ := exists_mentions source
  have covered := moves.covered nested fun token => text_of_rbrace
  have balanced := count_braces_of_dueAt (Nat.zero_le _) (Nat.le_refl _)
    (dueAt_zero (tokenize source).tokens.toArray) (dueAt_size nested)
  have found := countP_missesBrace source
  have told := strayBraces_le_countP source
  unfold Covered at covered
  omega

/-- In a source with properly nested brackets no more bodies are reported to miss their closing
brace than closing braces are reported to be stray. So if none is stray, none is missing. -/
theorem missing_braces_le_deleted (source : String)
    (nested : ProperlyNested (tokenize source).tokens) :
    let problems := (ofSource source).problems
    let tokens := (tokenize source).tokens
    problems.countP Problem.missesBrace ≤ problems.countP (Problem.deletesBrace tokens) ∧
    ((∀ p ∈ problems, ¬p.deletesBrace tokens) → ∀ p ∈ problems, ¬p.missesBrace) := by
  have covered := countP_missesBrace_le nested
  refine ⟨covered, fun none => ?_⟩
  rw [List.countP_eq_zero.2 none, Nat.le_zero] at covered
  exact List.countP_eq_zero.1 covered

/-- A class with an unfinished field, whose braces are all found. -/
theorem no_brace_missing_of_unfinished_field :
    let source := "class A \x7b int[] x = \x7b f(1) \x7d \x7d"
    ProperlyNested (tokenize source).tokens ∧
      (∃ p ∈ (ofSource source).problems, p.severity = .error) ∧
      ∀ p ∈ (ofSource source).problems, ¬p.missesBrace := by
  intro source
  have facts : ProperlyNested (tokenize source).tokens ∧
      (∃ p ∈ (ofSource source).problems, p.severity = .error) ∧
      ∀ p ∈ (ofSource source).problems, ¬p.deletesBrace (tokenize source).tokens := by
    simp only [mem_problems_iff]
    decide +kernel
  obtain ⟨nested, erroneous, kept⟩ := facts
  exact ⟨nested, erroneous, (missing_braces_le_deleted source nested).2 kept⟩

/-- A modifier that nothing follows takes the closing brace of its body for a stray token, and the
body is reported to miss it. -/
theorem lone_modifier_takes_brace :
    let source := "class A \x7b public \x7d"
    (tokenize source).findings = [] ∧ ProperlyNested (tokenize source).tokens ∧
      ∃ p ∈ (ofSource source).problems, p.missesBrace := by
  simp only [mem_problems_iff]
  decide +kernel

end SyntaxTree

end JavaLens
