import JavaLens.Proofs.SyntaxTree.Mentions

/-!
# The spans of a tree

Every span in a tree belongs to its source: it does not leave the text, is not inverted and splits
no character. Nodes are placed by tokens, and so are the findings of the grammar and the imports;
the findings of the scanner are placed by lexemes.

## Main statements

* `SyntaxTree.spans_wellFormed` — the spans of nodes, names and problems belong to the source, and
  nodes start and end with tokens.
-/

namespace JavaLens

open Grammar

theorem tokenAt_wellFormed (source : String) {i : Nat} (h : i < (tokenize source).tokens.length) :
    (tokenAt (tokenize source).tokens.toArray i).span.WellFormed source :=
  (tokenize_tokens_marks (tokenAt_mem h)).wellFormed

variable {source : String}

/-- Spans that are made of the tokens of a source belong to it. -/
theorem Grammar.Spanned.wellFormed {span : Span}
    (h : Spanned (tokenize source).tokens.toArray source.utf8ByteSize span) :
    span.WellFormed source := by
  have side := sideBySide_tokenize source
  cases h with
  | run ordered bounded =>
    have first := tokenAt_wellFormed source (Nat.lt_of_le_of_lt ordered bounded)
    have last := tokenAt_wellFormed source bounded
    have := side.start_le ordered bounded
    exact .of_boundaries (Nat.le_trans this last.ordered) first.start_boundary last.stop_boundary
  | front bounded => exact .point (tokenAt_wellFormed source bounded).start_boundary
  | atEnd => exact .point String.Pos.Raw.isValid_rawEndPos

namespace SyntaxTree

/-- A problem of a tree is placed by tokens, or comes from the scanner. -/
theorem problem_span_cases {problem : Problem} (h : problem ∈ (ofSource source).problems) :
    (∃ finding ∈ (tokenize source).findings, finding.span = problem.span) ∨
      Spanned (tokenize source).tokens.toArray source.utf8ByteSize problem.span := by
  obtain ⟨_, _, moves⟩ := exists_mentions source
  obtain (h | h) | h := by simpa only [mem_problems_iff, List.mem_append] using h
  · obtain ⟨finding, hfinding, rfl⟩ := List.mem_map.1 h
    exact .inl ⟨finding, hfinding, rfl⟩
  · obtain ⟨finding, hfinding, rfl⟩ := List.mem_map.1 h
    exact .inr (moves.spanned (Nat.zero_le _) finding hfinding)
  · obtain ⟨declared, hdeclared, rfl⟩ := List.mem_map.1 h
    exact .inr (read_imports_spanned (by simpa using (List.mem_filter.1 hdeclared).1))

/-- Every span in a tree belongs to the source. The name of a node is not empty and lies in the
node, which starts with a token and ends with one. -/
theorem spans_wellFormed (source : String) :
    (∀ node ∈ (ofSource source).nodes,
      node.span.WellFormed source ∧ node.identifier.span.WellFormed source ∧
      node.identifier.span.start < node.identifier.span.stop ∧
      node.span.Encloses node.identifier.span ∧
      (∃ token ∈ (tokenize source).tokens, token.span.start = node.span.start) ∧
      (∃ token ∈ (tokenize source).tokens, token.span.stop = node.span.stop)) ∧
    ∀ problem ∈ (ofSource source).problems, problem.span.WellFormed source := by
  have side := sideBySide_tokenize source
  refine ⟨fun node hnode => ?_, fun problem hproblem => ?_⟩
  · obtain ⟨m, rfl, within⟩ := exists_mention_of_mem hnode
    have hlast := within.last_lt
    have hname := Nat.lt_of_le_of_lt within.name_le hlast
    have hfirst := Nat.lt_of_le_of_lt within.first_le hname
    rw [Mention.identifier_node, Mention.span_node side within]
    refine ⟨(Spanned.run (Nat.le_trans within.first_le within.name_le) hlast).wellFormed,
      tokenAt_wellFormed source hname, side.nonempty _ hname, ?_, ?_, ?_⟩
    · exact ⟨side.start_le within.first_le hname, side.stop_le within.name_le hlast⟩
    · exact ⟨_, tokenAt_mem hfirst, rfl⟩
    · exact ⟨_, tokenAt_mem hlast, rfl⟩
  · obtain ⟨finding, hfinding, hspan⟩ | spanned := problem_span_cases hproblem
    · exact hspan ▸ tokenize_findings_wellFormed hfinding
    · exact spanned.wellFormed

/-- A class without a body, whose name takes two bytes. -/
theorem spans_wellFormed_of_bodiless_class :
    let node : Node := .declaration ⟨.class, ⟨"É", 6, 8⟩, 0, 8⟩
    node ∈ (ofSource "class É").nodes ∧ node.span.WellFormed "class É" ∧
      node.span.Encloses node.identifier.span := by
  intro node
  have hmem : node ∈ (ofSource "class É").nodes := (nodes_perm _).mem_iff.2 (by decide +kernel)
  obtain ⟨wellFormed, _, _, encloses, _⟩ := (spans_wellFormed "class É").1 node hmem
  exact ⟨hmem, wellFormed, encloses⟩

end SyntaxTree

end JavaLens
