import JavaLens.Proofs.SyntaxTree.Braces
import JavaLens.Proofs.SyntaxTree.Formatting
import JavaLens.Proofs.Tokenization.Lines

/-!
# Text behind a source without errors

A source without errors that ends with a complete declaration is read the same, whatever stands on
the lines behind it, and these are read as if they stood alone. Nothing below a declaration can
change how it is understood.

A source without errors may also break off inside a declaration: type parameters that nothing
follows are not reported. What comes next is then read as the rest of that declaration.

## Main definitions

* `Node.shift`, `Problem.shift` — nodes and problems in a text that is moved on.
* `SyntaxTree.errors` — the problems of a tree that are errors.

## Main statements

* `Grammar.exists_logs_append` — the tokens behind a complete source are read by themselves.
* `SyntaxTree.nodes_and_errors_append` — so are the lines behind it.
* `SyntaxTree.openHeader_takes_next_class` — behind an incomplete source they are not.
-/

namespace JavaLens

/-! ## Moved on -/

/-- The identifier in a text that is moved on. -/
def Identifier.shift (distance : Nat) (name : Identifier) : Identifier :=
  ⟨name.text, name.span.shift distance⟩

/-- The node in a text that is moved on. -/
def Node.shift (distance : Nat) : Node → Node
  | declaration d => declaration ⟨d.flavor, d.name.shift distance, d.span.shift distance⟩
  | reference name => reference (name.shift distance)

/-- The problem in a text that is moved on. -/
def Problem.shift (distance : Nat) (problem : Problem) : Problem :=
  ⟨problem.severity, problem.message, problem.span.shift distance⟩

theorem Problem.precedes_shift (distance : Nat) (a b : Problem) :
    (a.shift distance).precedes (b.shift distance) = a.precedes b := by
  simp [precedes, shift, Span.shift]

namespace Grammar

/-! ## Tokens behind tokens -/

variable {ts us : List Token} {i : Nat} {m : Mention} {r : Remark}

theorem tokenAt_append_left (us : List Token) (h : i < ts.length) :
    tokenAt (ts ++ us).toArray i = tokenAt ts.toArray i := by
  simp [tokenAt, h, Nat.lt_add_right]

theorem tokenAt_append_right (ts : List Token) (distance : Nat) (h : i < us.length) :
    tokenAt (ts ++ us.map (Token.shift distance)).toArray (i + ts.length) =
      (tokenAt us.toArray i).shift distance := by
  simp [tokenAt, Nat.add_comm i, h]

/-- A mention of the first tokens. -/
theorem Mention.node_append_left (us : List Token)
    (h : m.Within ts.toArray 0 ts.toArray.size) :
    m.node (ts ++ us).toArray = m.node ts.toArray := by
  have hlast : m.last < ts.length := h.last_lt
  have hname := Nat.lt_of_le_of_lt h.name_le hlast
  have hfirst := Nat.lt_of_le_of_lt h.first_le hname
  simp only [node, identifierAt, tokenAt_append_left us, hlast, hname, hfirst]

/-- A mention of the other tokens. -/
theorem Mention.node_append_right (ts : List Token) (distance : Nat)
    (h : m.Within us.toArray 0 us.toArray.size) :
    (m.shift ts.length).node (ts ++ us.map (Token.shift distance)).toArray =
      (m.node us.toArray).shift distance := by
  have hlast : m.last < us.length := h.last_lt
  have hname := Nat.lt_of_le_of_lt h.name_le hlast
  have hfirst := Nat.lt_of_le_of_lt h.first_le hname
  simp only [node, shift, identifierAt, tokenAt_append_right ts distance, hlast, hname, hfirst]
  cases m.flavor with
  | none => rfl
  | some flavor =>
    simp only [Node.extendTo, Node.shift, Identifier.shift, Token.shift, Span.shift]
    congr 3 <;> omega

theorem Remark.finding_append_right (ts : List Token) (distance : Nat)
    (h : r.first ≤ r.last ∧ r.last < us.length) :
    (r.shift ts.length).finding (ts ++ us.map (Token.shift distance)).toArray =
      (r.finding us.toArray).shift distance := by
  have hfirst := Nat.lt_of_le_of_lt h.1 h.2
  simp only [finding, shift, tokenAt_append_right ts distance, h.2, hfirst]
  rfl

theorem Mention.precedes_shift (distance : Nat) (p q : Mention) :
    (p.shift distance).precedes (q.shift distance) = p.precedes q := by
  simp [precedes, shift]

/-- Mentions of the first tokens stand in front of those of the others. -/
theorem Log.mergeSort_mentions_append {log : Log} (within : log.Within ts.toArray) (log' : Log) :
    (log ++ log'.shift ts.length).mentions.mergeSort Mention.precedes =
      log.mentions.mergeSort Mention.precedes ++
        (log'.mentions.mergeSort Mention.precedes).map (Mention.shift ts.length) := by
  rw [List.map_mergeSort fun p _ q _ => (Mention.precedes_shift _ p q).symm]
  refine mergeSort_append Mention.precedes_trans Mention.precedes_total fun p hp q hq => ?_
  obtain ⟨q, _, rfl⟩ := List.mem_map.1 hq
  have hlast : p.last < ts.length := (within.mentions p hp).last_lt
  have := (within.mentions p hp).first_le
  have := (within.mentions p hp).name_le
  rw [Mention.precedes, decide_eq_true_eq]
  simp only [Mention.shift]
  omega

/-- The first tokens of a list. -/
def Overlay.front (complete : ∀ token ∈ ts.getLast?, completes token.kind) (us : List Token) :
    Overlay :=
  ⟨ts.toArray, (ts ++ us).toArray, 0, by simp, .inr complete⟩

/-- Tokens with the same words as the last ones of a list. -/
def Overlay.back (ts : List Token) {us vs : List Token}
    (words : us.map Token.word = vs.map Token.word) : Overlay :=
  ⟨us.toArray, (ts ++ vs).toArray, ts.length, by simp [words], .inl (by simpa using words)⟩

/-- The tokens behind a complete source are read by themselves. -/
theorem exists_logs_append {ts us vs : List Token} {e : Nat}
    (clean : (read ts e).findings.toList = [])
    (complete : ∀ token ∈ ts.getLast?, completes token.kind)
    (words : us.map Token.word = vs.map Token.word) (e' e'' : Nat) :
    ∃ log log', Logs log (.start ts.toArray e) (read ts e) ∧
      Logs log' (.start us.toArray e') (read us e') ∧
      Logs (log ++ log'.shift ts.length) (.start (ts ++ vs).toArray e'') (read (ts ++ vs) e'') := by
  have followed := nested_followed maxNesting
  -- The first tokens are read side by side with themselves in front of the others.
  have tandem : Tandem (.front complete vs) (.start ts.toArray e) (.start (ts ++ vs).toArray e'') :=
    ⟨rfl, rfl, rfl, rfl, Nat.zero_le _⟩
  have silent : ¬Reported (.start ts.toArray e) (read ts e) := by
    simp [Reported, State.start, ← Array.length_toList, clean]
  obtain ⟨t, front, goesOn⟩ := compilationUnit_parallel followed tandem (.inr silent)
  obtain ⟨log, here, there⟩ := front.logged
  -- From there on the others are read side by side with themselves alone.
  have even : (Overlay.back ts words).Even := by simpa [Overlay.Even, Overlay.back] using words
  have tandem' : Tandem (.back ts words) (.start us.toArray e') t := by
    refine ⟨rfl, there.tokens, ?_, there.depth, Nat.zero_le _⟩
    rw [front.tandem.cursor]
    exact (cursor_read ts e).trans (Nat.zero_add _).symm
  obtain ⟨u, back, stops⟩ := compilationUnit_parallel followed tandem' (.inl even)
  have ended : Ended u := (back.tandem.looks fun _ => even).peek.trans (read_gathers us e').2
  rw [compilationUnit_of_ended followed.steady ended] at stops
  obtain ⟨log', here', there'⟩ := back.logged
  have whole : read (ts ++ vs) e'' = u := goesOn.trans stops
  rw [show (Overlay.front complete vs).shift = 0 from rfl, Log.shift_zero] at there
  exact ⟨log, log', here, here', whole ▸ there.trans there'⟩

end Grammar

namespace SyntaxTree

open Grammar

/-- The problems of a tree that are errors. -/
def errors (t : SyntaxTree) : List Problem := t.problems.filter (·.severity = .error)

variable {source : String}

/-- The errors of a tree are told by the scanner and by the grammar. -/
theorem errors_eq (source : String) :
    let parsed := read (tokenize source).tokens source.utf8ByteSize
    (ofSource source).errors = ((tokenize source).findings.map Finding.problem ++
      parsed.findings.toList.map Finding.problem).mergeSort Problem.precedes := by
  intro parsed
  have findings (fs : List Finding) : (fs.map Finding.problem).filter (·.severity = .error) =
      fs.map Finding.problem := by
    simp [List.filter_eq_self, Finding.problem]
  have warnings (imports : List Import) (nodes : List Node) :
      (Import.unused imports nodes).filter (·.severity = .error) = [] := by
    refine List.filter_eq_nil_iff.2 fun problem hproblem => ?_
    obtain ⟨declared, _, rfl⟩ := List.mem_map.1 hproblem
    simp [Import.warning]
  rw [errors, problems_eq, filter_mergeSort Problem.precedes_trans Problem.precedes_total, found]
  simp only [List.filter_append, findings, warnings, List.append_nil]
  rfl

section Clean

variable (clean : ∀ problem ∈ (ofSource source).problems, problem.severity ≠ .error)
include clean

/-- The scanner finds nothing in a source without errors. -/
theorem scanned_eq_nil_of_clean : (tokenize source).findings = [] := by
  refine List.eq_nil_iff_forall_not_mem.2 fun finding hfinding => ?_
  refine clean finding.problem (mem_problems_iff.2 ?_) rfl
  simp only [List.mem_append]
  exact .inl (.inl (List.mem_map_of_mem hfinding))

theorem tokenize_of_clean (more : String) :
    (tokenize (source ++ "\n" ++ more)).tokens = (tokenize source).tokens ++
        (tokenize more).tokens.map (Token.shift (source.utf8ByteSize + 1)) ∧
      (tokenize (source ++ "\n" ++ more)).findings =
        (tokenize more).findings.map (Finding.shift (source.utf8ByteSize + 1)) := by
  have none := scanned_eq_nil_of_clean clean
  have closed : Lexeme.AllClosed (Lexeme.scan source.toList) := allClosed_scan (by simp [none])
  refine ⟨tokens_line closed more, ?_⟩
  rw [findings_line closed, none, List.nil_append]

/-- What the lines behind a complete source without errors tell is told behind what it tells. -/
theorem exists_logs_line
    (complete : ∀ token ∈ (tokenize source).tokens.getLast?, completes token.kind)
    (more : String) :
    ∃ log log' : Log, log.Tells source ∧ log'.Tells more ∧
      (log ++ log'.shift (tokenize source).tokens.length).Tells (source ++ "\n" ++ more) := by
  have words : (tokenize more).tokens.map Token.word =
      ((tokenize more).tokens.map (Token.shift (source.utf8ByteSize + 1))).map Token.word := by
    rw [List.map_map]
    rfl
  obtain ⟨log, log', here, here', whole⟩ := exists_logs_append (findings_eq_nil_of_clean clean)
    complete words more.utf8ByteSize (source ++ "\n" ++ more).utf8ByteSize
  rw [← (tokenize_of_clean clean more).1] at whole
  exact ⟨log, log', here, here', whole⟩

/-- Behind a source without errors that ends with a semicolon or a brace, more lines leave its nodes
as they are, and add their own nodes and errors as if they stood alone. -/
theorem nodes_and_errors_append
    (complete : ∀ token ∈ (tokenize source).tokens.getLast?, completes token.kind)
    (more : String) :
    (ofSource (source ++ "\n" ++ more)).nodes = (ofSource source).nodes ++
        (ofSource more).nodes.map (Node.shift (source.utf8ByteSize + 1)) ∧
      (ofSource (source ++ "\n" ++ more)).errors =
        (ofSource more).errors.map (Problem.shift (source.utf8ByteSize + 1)) := by
  obtain ⟨tokens, findings⟩ := tokenize_of_clean clean more
  obtain ⟨log, log', here, here', whole⟩ := exists_logs_line clean complete more
  constructor
  · rw [nodes_of_tells whole, nodes_of_tells here, nodes_of_tells here',
      Log.mergeSort_mentions_append here.within, tokens, List.map_append, List.map_map,
      List.map_map]
    congr 1
    · refine List.map_congr_left fun m hm => m.node_append_left _ ?_
      exact here.within.mentions m (List.mem_mergeSort.1 hm)
    · refine List.map_congr_left fun m hm => m.node_append_right _ _ ?_
      exact here'.within.mentions m (List.mem_mergeSort.1 hm)
  · have found : (read (tokenize (source ++ "\n" ++ more)).tokens
        (source ++ "\n" ++ more).utf8ByteSize).findings.toList =
          (read (tokenize more).tokens more.utf8ByteSize).findings.toList.map
            (Finding.shift (source.utf8ByteSize + 1)) := by
      have none : log.remarks = [] :=
        List.map_eq_nil_iff.1 (here.findings.symm.trans (findings_eq_nil_of_clean clean))
      rw [whole.findings, here'.findings, Log.remarks_append, none, tokens]
      simp only [State.start, List.nil_append, List.map_map, Log.shift]
      exact List.map_congr_left fun r hr => r.finding_append_right _ _ (here'.within.remarks r hr)
    rw [errors_eq, errors_eq, found, findings,
      List.map_mergeSort fun a _ b _ => (Problem.precedes_shift _ a b).symm, List.map_append]
    simp only [List.map_map]
    rfl

end Clean

/-- An import and a class that uses it, and below them a class with a field that lacks its
semicolon. -/
theorem nodes_and_errors_of_two_classes :
    let source := "import a.B;\nclass A \x7b B b; \x7d"
    let more := "class C \x7b int x \x7d"
    (∀ problem ∈ (ofSource source).problems, problem.severity ≠ .error) ∧
    (∀ token ∈ (tokenize source).tokens.getLast?, completes token.kind) ∧
    (ofSource (source ++ "\n" ++ more)).nodes =
      (ofSource source).nodes ++ (ofSource more).nodes.map (Node.shift 29) ∧
    (ofSource (source ++ "\n" ++ more)).errors = (ofSource more).errors.map (Problem.shift 29) := by
  intro source more
  have clean : ∀ problem ∈ (ofSource source).problems, problem.severity ≠ .error := by
    simp only [mem_problems_iff]
    decide +kernel
  have complete : ∀ token ∈ (tokenize source).tokens.getLast?, completes token.kind := by
    decide +kernel
  have size : source.utf8ByteSize + 1 = 29 := by decide +kernel
  exact ⟨clean, complete, size ▸ nodes_and_errors_append clean complete more⟩

/-- Type parameters that nothing follows are no error. A class on the next line is then read as a
constructor with those parameters, and its keyword is in the way. -/
theorem openHeader_takes_next_class :
    let source := "<T>"
    let more := "class B \x7b \x7d"
    (∀ problem ∈ (ofSource source).problems, problem.severity ≠ .error) ∧
    (ofSource (source ++ "\n" ++ more)).nodes ≠ (ofSource source).nodes ++
      (ofSource more).nodes.map (Node.shift (source.utf8ByteSize + 1)) ∧
    (ofSource (source ++ "\n" ++ more)).errors ≠
      (ofSource more).errors.map (Problem.shift (source.utf8ByteSize + 1)) := by
  intro source more
  have clean : ∀ problem ∈ (ofSource source).problems, problem.severity ≠ .error := by
    simp only [mem_problems_iff]
    decide +kernel
  refine ⟨clean, fun same => ?_, fun same => ?_⟩
  · -- The class is among the nodes of the second text alone, but not among those of both.
    let lone : Node := .declaration ⟨.class, ⟨"B", 6, 7⟩, 0, 11⟩
    have alone : lone ∈ (ofSource more).nodes := (nodes_perm more).mem_iff.2 (by decide +kernel)
    have together : lone.shift (source.utf8ByteSize + 1) ∈
        (ofSource (source ++ "\n" ++ more)).nodes :=
      same ▸ List.mem_append_right _ (List.mem_map_of_mem alone)
    exact absurd ((nodes_perm _).mem_iff.1 together) (by decide +kernel)
  · -- Neither text has an error, but both together have one.
    let stray : Problem := Finding.problem ⟨.strayToken "class", 4, 9⟩
    have told : stray ∈ (ofSource (source ++ "\n" ++ more)).errors :=
      List.mem_filter.2 ⟨mem_problems_iff.2 (by decide +kernel), rfl⟩
    obtain ⟨problem, hproblem, _⟩ := List.mem_map.1 (same ▸ told)
    have none : ∀ problem ∈ (ofSource more).problems, problem.severity ≠ .error := by
      simp only [mem_problems_iff]
      decide +kernel
    obtain ⟨mem, error⟩ := List.mem_filter.1 hproblem
    exact none problem mem (of_decide_eq_true error)

end SyntaxTree

end JavaLens
