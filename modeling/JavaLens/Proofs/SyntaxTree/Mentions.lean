import JavaLens.Proofs.Grammar.CompilationUnit
import JavaLens.Proofs.Tokenization
import JavaLens.Source

/-!
# The nodes of a tree are mentions

The nodes of a tree are those that the grammar has recorded, in another order. Each of them is
placed by tokens, and the tokens of a source lie side by side, so what is known about the mentions
of a reading by the indices of their tokens carries over to the spans of the nodes.

## Main definitions

* `Grammar.SideBySide` — tokens that cover something and lie in order.

## Main statements

* `SyntaxTree.exists_mentions` — the nodes of a tree are the mentions of a reading of all tokens.
* `Grammar.Mention.span_node` — where a node lies.
* `Grammar.Mention.Apart.name_lt` — the grammar mentions names in the order of the source.
-/

namespace JavaLens

namespace Grammar

/-- Whether each of the tokens covers something and none reaches into the next. -/
structure SideBySide (tokens : Array Token) : Prop where
  nonempty : ∀ i < tokens.size, (tokenAt tokens i).span.start < (tokenAt tokens i).span.stop
  ordered : ∀ i j, i < j → j < tokens.size →
    (tokenAt tokens i).span.stop ≤ (tokenAt tokens j).span.start

theorem tokenAt_mem {tokens : List Token} {i : Nat} (h : i < tokens.length) :
    tokenAt tokens.toArray i ∈ tokens := by
  have : tokens[i]? = some (tokenAt tokens.toArray i) := by simp [tokenAt, h]
  exact List.mem_of_getElem? this

/-- The tokens of a source lie side by side. -/
theorem sideBySide_tokenize (source : String) : SideBySide (tokenize source).tokens.toArray where
  nonempty i h := tokenize_tokens_nonempty (tokenAt_mem h)
  ordered i j hij hj := by
    have hj : j < (tokenize source).tokens.length := hj
    have := List.pairwise_iff_getElem.1 (tokenize_tokens_ordered source) i j (by omega) hj hij
    have hi : i < (tokenize source).tokens.length := by omega
    simpa [tokenAt, hi, hj] using this

namespace SideBySide

variable {tokens : Array Token} {i j : Nat}

theorem start_le (h : SideBySide tokens) (hij : i ≤ j) (hj : j < tokens.size) :
    (tokenAt tokens i).span.start ≤ (tokenAt tokens j).span.start := by
  obtain rfl | hlt := Nat.eq_or_lt_of_le hij
  · exact Nat.le_refl _
  · have := h.nonempty i (by omega)
    have := h.ordered i j hlt hj
    omega

theorem stop_le (h : SideBySide tokens) (hij : i ≤ j) (hj : j < tokens.size) :
    (tokenAt tokens i).span.stop ≤ (tokenAt tokens j).span.stop := by
  obtain rfl | hlt := Nat.eq_or_lt_of_le hij
  · exact Nat.le_refl _
  · have := h.nonempty j hj
    have := h.ordered i j hlt hj
    omega

end SideBySide

variable {tokens : Array Token} {m p q : Mention} {i j : Nat}

/-- A node extends from its first token to its last one. -/
theorem Mention.span_node (side : SideBySide tokens) (within : m.Within tokens i tokens.size) :
    (m.node tokens).span =
      ⟨(tokenAt tokens m.first).span.start, (tokenAt tokens m.last).span.stop⟩ := by
  have hname := Nat.lt_of_le_of_lt within.name_le within.last_lt
  cases hflavor : m.flavor with
  | none =>
    obtain ⟨hfirst, hlast⟩ := within.single hflavor
    simp [node, hflavor, hfirst, hlast, Node.span, identifierAt]
  | some flavor =>
    have hstart := side.start_le within.first_le hname
    have hstop := side.stop_le within.name_le within.last_lt
    have hnonempty := side.nonempty m.name hname
    simp only [node, hflavor, Node.extendTo, Node.span, identifierAt, Span.mk.injEq]
    omega

/-- Mentions are in the order of their names. -/
theorem Mention.Apart.name_lt (h : p.Apart q) (hp : p.Within tokens i j)
    (hq : q.Within tokens i j) : p.name < q.name := by
  have := hp.name_le
  have := hq.first_le
  unfold Apart at h
  omega

end Grammar

namespace SyntaxTree

open Grammar

variable {source : String} {node : Node} {problem : Problem}

/-- The nodes of a tree are those that the grammar records. -/
theorem nodes_perm (source : String) :
    (ofSource source).nodes.Perm (read (tokenize source).tokens source.utf8ByteSize).nodes.toList :=
  List.mergeSort_perm _ _

/-- The problems of a tree are told by the scanner, by the grammar and by the imports. -/
theorem problems_perm_parts (source : String) :
    let parsed := read (tokenize source).tokens source.utf8ByteSize
    (ofSource source).problems.Perm ((tokenize source).findings.map Finding.problem ++
      parsed.findings.toList.map Finding.problem ++
      Import.unused parsed.imports.toList parsed.nodes.toList) :=
  List.mergeSort_perm _ _

theorem mem_problems_iff :
    problem ∈ (ofSource source).problems ↔
      let parsed := read (tokenize source).tokens source.utf8ByteSize
      problem ∈ (tokenize source).findings.map Finding.problem ++
        parsed.findings.toList.map Finding.problem ++
        Import.unused parsed.imports.toList parsed.nodes.toList :=
  (problems_perm_parts source).mem_iff

/-- What the grammar finds is told by a problem of the tree. -/
theorem problem_mem_of_finding {finding : Finding}
    (h : finding ∈ (read (tokenize source).tokens source.utf8ByteSize).findings.toList) :
    finding.problem ∈ (ofSource source).problems :=
  mem_problems_iff.2 (List.mem_append_left _ (List.mem_append_right _ (List.mem_map_of_mem h)))

/-- The nodes of a tree are the mentions of a reading of all tokens, put in order. -/
theorem exists_mentions (source : String) :
    let tokens := (tokenize source).tokens
    let findings := (read tokens source.utf8ByteSize).findings.toList
    ∃ mentions, (ofSource source).nodes.Perm (mentions.map (Mention.node tokens.toArray)) ∧
      Moves tokens.toArray source.utf8ByteSize maxNesting 0 tokens.toArray.size mentions
        findings := by
  obtain ⟨mentions, hnodes, moves⟩ := read_moves (tokenize source).tokens source.utf8ByteSize
  exact ⟨mentions, hnodes ▸ nodes_perm source, moves⟩

/-- A node of a tree is a mention that lies in the tokens. -/
theorem exists_mention_of_mem (h : node ∈ (ofSource source).nodes) :
    ∃ m : Mention, node = m.node (tokenize source).tokens.toArray ∧
      m.Within (tokenize source).tokens.toArray 0 (tokenize source).tokens.toArray.size := by
  obtain ⟨mentions, perm, moves⟩ := exists_mentions source
  obtain ⟨m, hm, rfl⟩ := List.mem_map.1 (perm.mem_iff.1 h)
  exact ⟨m, rfl, moves.within m hm⟩

end SyntaxTree

end JavaLens
