import JavaLens.Proofs.Grammar.Mirrors.CompilationUnit
import JavaLens.Proofs.SyntaxTree.Order
import Mathlib.Data.List.Forall2

/-!
# Layout does not matter

Sources that have the same words differ in blanks, comments and characters that start no token. The
grammar reads them side by side and records the same log, by the indices of tokens. Document order
can be told by these indices as well, so the trees agree node by node and problem by problem, up to
where the tokens lie.

## Main definitions

* `Span.Aligned`, `Node.Aligned`, `Problem.Aligned` — the same in two sources, up to where the
  tokens lie.
* `SyntaxTree.found`, `SyntaxTree.told` — the problems that the grammar and the imports contribute,
  as they are found and in document order.

## Main statements

* `Grammar.exists_log` — sources with the same words have the same log.
* `SyntaxTree.aligned_of_words_eq` — sources with the same words have the same tree.
-/

namespace JavaLens

/-- A span from the start of one token to the end of another. -/
def Span.Covers (tokens : List Token) (i j : Nat) (span : Span) : Prop :=
  ∃ first last, tokens[i]? = some first ∧ tokens[j]? = some last ∧
    span = ⟨first.span.start, last.span.stop⟩

/-- Spans over the same tokens of two sources. -/
def Span.Aligned (tokens tokens' : List Token) (span span' : Span) : Prop :=
  ∃ i j, i ≤ j ∧ span.Covers tokens i j ∧ span'.Covers tokens' i j

/-- Nodes of two sources that differ in nothing but where their tokens lie. -/
structure Node.Aligned (tokens tokens' : List Token) (a b : Node) : Prop where
  flavor : a.declaration?.map Declaration.flavor = b.declaration?.map Declaration.flavor
  text : a.identifier.text = b.identifier.text
  name : a.identifier.span.Aligned tokens tokens' b.identifier.span
  span : a.span.Aligned tokens tokens' b.span

/-- Problems of two sources that differ in nothing but where their tokens lie. -/
structure Problem.Aligned (tokens tokens' : List Token) (a b : Problem) : Prop where
  severity : a.severity = b.severity
  message : a.message = b.message
  span : a.span.Aligned tokens tokens' b.span

namespace Grammar

/-! ## Problems by tokens -/

/-- A problem by the indices of its first and its last token. -/
structure Note where
  severity : Severity
  message : String
  first : Nat
  last : Nat

/-- The problem that a note stands for. -/
def Note.problem (tokens : Array Token) (n : Note) : Problem :=
  ⟨n.severity, n.message, (tokenAt tokens n.first).span.start, (tokenAt tokens n.last).span.stop⟩

/-- Document order by the indices of tokens. -/
def Note.precedes (a b : Note) : Bool := a.first ≤ b.first

/-- The error that a remark tells. -/
def Remark.note (r : Remark) : Note := ⟨.error, r.fault.message, r.first, r.last⟩

/-- The warning about a citation. -/
def Citation.note (c : Citation) : Note :=
  ⟨.warning, (c.declared #[]).warning.message, c.first, c.last⟩

namespace Log

/-- The problems of a log: all its remarks, and its citations to which no mention refers. -/
def notes (tokens : Array Token) (log : Log) : List Note :=
  let nodes := log.mentions.map (Mention.node tokens)
  log.remarks.map Remark.note ++
    (log.citations.filter fun c => (c.declared tokens).isUnused nodes).map Citation.note

variable {tokens tokens' : Array Token} {log : Log}

theorem Within.notes (h : log.Within tokens) :
    ∀ n ∈ log.notes tokens, n.first ≤ n.last ∧ n.last < tokens.size := by
  intro n hn
  obtain hn | hn := List.mem_append.1 hn
  · obtain ⟨r, hr, rfl⟩ := List.mem_map.1 hn
    exact h.remarks r hr
  · obtain ⟨c, hc, rfl⟩ := List.mem_map.1 hn
    exact h.citations c (List.mem_filter.1 hc).1

end Log

variable {tokens tokens' : Array Token} {log : Log} {m : Mention} {n : Note}

theorem Mention.refersTo_node (tokens : Array Token) (m : Mention) (name : String) :
    (m.node tokens).refersTo name = (m.flavor.isNone && (tokenAt tokens m.name).text == name) := by
  unfold node
  cases m.flavor <;> rfl

theorem Mention.flavor_node (tokens : Array Token) (m : Mention) :
    (m.node tokens).declaration?.map Declaration.flavor = m.flavor := by
  unfold node
  cases m.flavor <;> rfl

/-- Which citations nothing refers to depends on words only. -/
theorem Log.notes_congr (within : log.Within tokens)
    (same : ∀ i < tokens.size, (tokenAt tokens' i).text = (tokenAt tokens i).text) :
    log.notes tokens' = log.notes tokens := by
  have unused (c : Citation) :
      (c.declared tokens').isUnused (log.mentions.map (Mention.node tokens')) =
        (c.declared tokens).isUnused (log.mentions.map (Mention.node tokens)) := by
    have refers (name : String) : (log.mentions.map (Mention.node tokens')).any (·.refersTo name) =
        (log.mentions.map (Mention.node tokens)).any (·.refersTo name) := by
      rw [Bool.eq_iff_iff, List.any_map, List.any_map, List.any_eq_true, List.any_eq_true]
      refine exists_congr fun m => and_congr_right fun hm => ?_
      have bounded := within.mentions m hm
      rw [Function.comp_apply, Function.comp_apply, Mention.refersTo_node, Mention.refersTo_node,
        same m.name (Nat.lt_of_le_of_lt bounded.name_le bounded.last_lt)]
    rw [Import.isUnused, refers]
    rfl
  simp only [notes, unused]

/-- A reading from the start of a source finds the problems of its log. -/
theorem Logs.found {t : State} {sourceEnd : Nat} (h : Logs log (.start tokens sourceEnd) t) :
    t.findings.toList.map Finding.problem ++ Import.unused t.imports.toList t.nodes.toList =
      (log.notes tokens).map (Note.problem tokens) := by
  have nodes : t.nodes.toList = log.mentions.map (Mention.node tokens) := h.nodes
  have findings : t.findings.toList = log.remarks.map (Remark.finding tokens) := h.findings
  have imports : t.imports.toList = log.citations.map (Citation.declared tokens) := h.imports
  rw [nodes, findings, imports, Import.unused, List.filter_map, Log.notes]
  simp only [List.map_append, List.map_map]
  rfl

/-- Problems are in the order of their tokens. -/
theorem Note.precedes_problem {p q : Note} (side : SideBySide tokens) (hp : p.first < tokens.size)
    (hq : q.first < tokens.size) :
    p.precedes q = (p.problem tokens).precedes (q.problem tokens) := by
  rw [Problem.precedes, precedes, decide_eq_decide]
  exact (side.start_le_iff hp hq).symm

/-- Whether a log is that of the reading of a source. -/
def Log.Tells (source : String) (log : Log) : Prop :=
  Logs log (.start (tokenize source).tokens.toArray source.utf8ByteSize)
    (read (tokenize source).tokens source.utf8ByteSize)

/-! ## Two sources with the same words -/

section Words

variable {ts ts' : List Token}

/-- Two token lists with the same words from the first to the last. -/
def Overlay.ofWords (words : ts.map Token.word = ts'.map Token.word) : Overlay :=
  ⟨ts.toArray, ts'.toArray, 0, by simp [words], .inl (by simpa using words)⟩

/-- Runs over the same tokens are aligned. -/
theorem aligned_of_words (words : ts.map Token.word = ts'.map Token.word) {i j : Nat}
    (ordered : i ≤ j) (bounded : j < ts.length) :
    Span.Aligned ts ts' ⟨(tokenAt ts.toArray i).span.start, (tokenAt ts.toArray j).span.stop⟩
      ⟨(tokenAt ts'.toArray i).span.start, (tokenAt ts'.toArray j).span.stop⟩ := by
  have length : ts.length = ts'.length := by simpa using congrArg List.length words
  have covers {us : List Token} (hj : j < us.length) : Span.Covers us i j
      ⟨(tokenAt us.toArray i).span.start, (tokenAt us.toArray j).span.stop⟩ := by
    have hi := Nat.lt_of_le_of_lt ordered hj
    exact ⟨_, _, by simp [tokenAt, hi], by simp [tokenAt, hj], rfl⟩
  exact ⟨i, j, ordered, covers bounded, covers (length ▸ bounded)⟩

theorem text_of_words (words : ts.map Token.word = ts'.map Token.word) {i : Nat}
    (bounded : i < ts.length) : (tokenAt ts'.toArray i).text = (tokenAt ts.toArray i).text :=
  congrArg Word.text ((Overlay.ofWords words).word_tokenAt bounded)

/-- Tokens with the same words are read with the same log. -/
theorem exists_log (words : ts.map Token.word = ts'.map Token.word) (sourceEnd sourceEnd' : Nat) :
    ∃ log, Logs log (.start ts.toArray sourceEnd) (read ts sourceEnd) ∧
      Logs log (.start ts'.toArray sourceEnd') (read ts' sourceEnd') := by
  have even : (Overlay.ofWords words).Even := by simpa [Overlay.Even, Overlay.ofWords] using words
  have tandem : Tandem (.ofWords words) (.start ts.toArray sourceEnd)
      (.start ts'.toArray sourceEnd') := ⟨rfl, rfl, rfl, rfl, Nat.zero_le _⟩
  have followed := nested_followed maxNesting
  obtain ⟨t, parallel, same⟩ := compilationUnit_parallel followed tandem (.inl even)
  -- Both readings end together.
  have ended : Ended t :=
    (parallel.tandem.looks fun _ => even).peek.trans (read_gathers ts sourceEnd).2
  rw [compilationUnit_of_ended followed.steady ended] at same
  obtain ⟨log, here, there⟩ := parallel.logged
  rw [show (Overlay.ofWords words).shift = 0 from rfl, Log.shift_zero, ← same] at there
  exact ⟨log, here, there⟩

/-- A mention stands for aligned nodes in two sources with the same words. -/
theorem Mention.node_aligned (words : ts.map Token.word = ts'.map Token.word)
    (side : SideBySide ts.toArray) (side' : SideBySide ts'.toArray)
    (within : m.Within ts.toArray 0 ts.toArray.size)
    (within' : m.Within ts'.toArray 0 ts'.toArray.size) :
    Node.Aligned ts ts' (m.node ts.toArray) (m.node ts'.toArray) := by
  have bounded : m.name < ts.length := Nat.lt_of_le_of_lt within.name_le within.last_lt
  refine ⟨by rw [flavor_node, flavor_node], ?_, ?_, ?_⟩
  · rw [identifier_node, identifier_node]
    exact (text_of_words words bounded).symm
  · rw [identifier_node, identifier_node]
    exact aligned_of_words words (Nat.le_refl _) bounded
  · rw [span_node side within, span_node side' within']
    exact aligned_of_words words (Nat.le_trans within.first_le within.name_le) within.last_lt

/-- A note stands for aligned problems in two sources with the same words. -/
theorem Note.problem_aligned (words : ts.map Token.word = ts'.map Token.word)
    (within : n.first ≤ n.last ∧ n.last < ts.length) :
    Problem.Aligned ts ts' (n.problem ts.toArray) (n.problem ts'.toArray) :=
  ⟨rfl, rfl, aligned_of_words words within.1 within.2⟩

end Words

end Grammar

namespace SyntaxTree

open Grammar

/-- The problems that the grammar and the imports contribute, as they are found. -/
def found (source : String) : List Problem :=
  let parsed := read (tokenize source).tokens source.utf8ByteSize
  parsed.findings.toList.map Finding.problem ++
    Import.unused parsed.imports.toList parsed.nodes.toList

/-- The problems that the grammar and the imports contribute, in document order. -/
def told (source : String) : List Problem := (found source).mergeSort Problem.precedes

variable {source source' : String}

theorem problems_eq (source : String) :
    (ofSource source).problems = ((tokenize source).findings.map Finding.problem ++
      found source).mergeSort Problem.precedes := by
  rw [found, ← List.append_assoc]
  rfl

/-- What the grammar and the imports contribute stands in the tree in this order. -/
theorem told_sublist (source : String) : (told source).Sublist (ofSource source).problems := by
  rw [problems_eq]
  exact mergeSort_sublist Problem.precedes_trans Problem.precedes_total
    (List.sublist_append_right _ _)

/-- All else in the tree is contributed by the scanner. -/
theorem problems_perm (source : String) : (ofSource source).problems.Perm
    ((tokenize source).findings.map Finding.problem ++ told source) := by
  rw [problems_eq]
  exact (List.mergeSort_perm _ _).trans ((List.mergeSort_perm _ _).symm.append_left _)

variable {log : Log}

/-- The nodes of a tree are the mentions of a log, sorted. -/
theorem nodes_of_tells (h : log.Tells source) :
    (ofSource source).nodes = (log.mentions.mergeSort Mention.precedes).map
      (Mention.node (tokenize source).tokens.toArray) := by
  have side := sideBySide_tokenize source
  have nodes : (read (tokenize source).tokens source.utf8ByteSize).nodes.toList =
    log.mentions.map (Mention.node (tokenize source).tokens.toArray) := h.nodes
  rw [List.map_mergeSort fun p hp q hq => ?_, ← nodes]
  · rfl
  · exact (Mention.precedes_node side (h.within.mentions p hp) (h.within.mentions q hq)).symm

theorem told_of_tells (h : log.Tells source) :
    told source = ((log.notes (tokenize source).tokens.toArray).mergeSort Note.precedes).map
      (Note.problem (tokenize source).tokens.toArray) := by
  have side := sideBySide_tokenize source
  have bounded := h.within.notes
  rw [List.map_mergeSort fun p hp q hq => ?_, ← h.found]
  · rfl
  · exact Note.precedes_problem side (Nat.lt_of_le_of_lt (bounded p hp).1 (bounded p hp).2)
      (Nat.lt_of_le_of_lt (bounded q hq).1 (bounded q hq).2)

/-- Sources with the same words have the same nodes in the same order. The grammar and the imports
find the same problems in the same order, and contribute them to the trees in the same order. All
that corresponds extends over the same tokens. -/
theorem aligned_of_words_eq
    (words : (tokenize source).tokens.map Token.word = (tokenize source').tokens.map Token.word) :
    let tokens := (tokenize source).tokens
    let tokens' := (tokenize source').tokens
    List.Forall₂ (Node.Aligned tokens tokens') (ofSource source).nodes (ofSource source').nodes ∧
    List.Forall₂ (Problem.Aligned tokens tokens') (found source) (found source') ∧
    List.Forall₂ (Problem.Aligned tokens tokens') (told source) (told source') ∧
    ∀ text, (told text).Sublist (ofSource text).problems ∧
      (ofSource text).problems.Perm
        ((tokenize text).findings.map Finding.problem ++ told text) := by
  obtain ⟨log, here, there⟩ : ∃ log : Log, log.Tells source ∧ log.Tells source' :=
    exists_log words _ _
  have side := sideBySide_tokenize source
  have side' := sideBySide_tokenize source'
  have notes : log.notes (tokenize source').tokens.toArray =
      log.notes (tokenize source).tokens.toArray :=
    Log.notes_congr here.within fun i hi => text_of_words words hi
  refine ⟨?_, ?_, ?_, fun text => ⟨told_sublist text, problems_perm text⟩⟩
  · rw [nodes_of_tells here, nodes_of_tells there, List.forall₂_map_left_iff,
      List.forall₂_map_right_iff, List.forall₂_same]
    intro m hm
    have hm := List.mem_mergeSort.1 hm
    exact m.node_aligned words side side' (here.within.mentions m hm) (there.within.mentions m hm)
  · rw [found, found, here.found, there.found, notes, List.forall₂_map_left_iff,
      List.forall₂_map_right_iff, List.forall₂_same]
    exact fun n hn => n.problem_aligned words (here.within.notes n hn)
  · rw [told_of_tells here, told_of_tells there, notes, List.forall₂_map_left_iff,
      List.forall₂_map_right_iff, List.forall₂_same]
    exact fun n hn => n.problem_aligned words (here.within.notes n (List.mem_mergeSort.1 hn))

/-- An import that is never used and a field without a semicolon, on one line and spread over four,
with a comment and a stray character in between. -/
theorem aligned_spread_over_lines :
    let source := "import a.B; class C \x7b int x \x7d"
    let source' := "import a . B ; // for C\n class C\n \x7b int # x\n \x7d"
    let tokens := (tokenize source).tokens
    let tokens' := (tokenize source').tokens
    tokens.map Token.word = tokens'.map Token.word ∧
    List.Forall₂ (Node.Aligned tokens tokens') (ofSource source).nodes (ofSource source').nodes ∧
    List.Forall₂ (Problem.Aligned tokens tokens') (told source) (told source') := by
  intro source source' tokens tokens'
  have words : tokens.map Token.word = tokens'.map Token.word := by decide +kernel
  obtain ⟨nodes, -, problems, -⟩ := aligned_of_words_eq words
  exact ⟨words, nodes, problems⟩

end SyntaxTree

end JavaLens
