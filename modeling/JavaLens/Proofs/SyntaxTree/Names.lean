import JavaLens.Proofs.SyntaxTree.Mentions
import Mathlib.Data.List.Nodup

/-!
# The names in a tree

The names of nodes and the identifiers of a source belong together: every node is named by an
identifier of its own, and every identifier names a node unless it is one of those that the grammar
passes over.

## Main statements

* `SyntaxTree.names_are_identifiers` — the nodes of a tree are named by distinct identifiers.
* `SyntaxTree.identifiers_are_names` — no identifier is lost.
-/

namespace JavaLens

open Grammar

/-! ## Segments of header names, computed -/

/-- Whether the token at an index is a segment of the name of a package or an import. -/
def Grammar.isHeaderSegment (tokens : Array Token) : Nat → Bool
  | 0 => false
  | 1 =>
    kindAt tokens 1 = some .ident ∧
      (kindAt tokens 0 = some (.keyword .package) ∨ kindAt tokens 0 = some (.keyword .import))
  | i + 2 =>
    kindAt tokens (i + 2) = some .ident ∧
      (kindAt tokens (i + 1) = some (.keyword .package) ∨
        kindAt tokens (i + 1) = some (.keyword .import) ∨
        (kindAt tokens i = some (.keyword .import) ∧
          kindAt tokens (i + 1) = some (.keyword .static)) ∨
        (isHeaderSegment tokens i ∧ kindAt tokens (i + 1) = some .dot))

theorem Grammar.isHeaderSegment_iff {tokens : Array Token} {i : Nat} :
    isHeaderSegment tokens i ↔ HeaderSegment tokens i := by
  constructor
  · intro h
    fun_induction isHeaderSegment tokens i with
    | case1 => simp at h
    | case2 =>
      obtain ⟨name, word | word⟩ := of_decide_eq_true h
      · exact .behindPackage word name
      · exact .behindImport word name
    | case3 i ih =>
      obtain ⟨name, word | word | ⟨word, static⟩ | ⟨before, dot⟩⟩ := of_decide_eq_true h
      · exact .behindPackage word name
      · exact .behindImport word name
      · exact .behindStatic word static name
      · exact .segment (ih before) dot name
  · intro h
    induction h with
    | @behindPackage i word name | @behindImport i word name =>
      cases i <;> simp [isHeaderSegment, word, name]
    | behindStatic word static name => simp [isHeaderSegment, word, static, name]
    | segment _ dot name ih => simp [isHeaderSegment, ih, dot, name]

instance (tokens : Array Token) (i : Nat) : Decidable (HeaderSegment tokens i) :=
  decidable_of_iff _ isHeaderSegment_iff

/-! ## Names and identifiers -/

variable {source : String}

theorem tokenize_spans_nodup (source : String) :
    ((tokenize source).tokens.map Token.span).Nodup := by
  refine List.pairwise_map.2 ?_
  refine (tokenize_tokens_ordered source).imp_of_mem fun {a b} ha _ h heq => ?_
  have := tokenize_tokens_nonempty ha
  rw [← heq] at h
  omega

namespace SyntaxTree

theorem name_spans_nodup (source : String) :
    ((ofSource source).nodes.map (·.identifier.span)).Nodup := by
  have side := sideBySide_tokenize source
  obtain ⟨mentions, perm, moves⟩ := exists_mentions source
  rw [(perm.map _).nodup_iff, List.map_map]
  refine List.pairwise_map.2 (moves.apart.imp_of_mem fun {p q} hp hq apart heq => ?_)
  have hp := moves.within p hp
  have hq := moves.within q hq
  have hqname := Nat.lt_of_le_of_lt hq.name_le hq.last_lt
  have hordered := side.ordered _ _ (apart.name_lt hp hq) hqname
  have hnonempty := side.nonempty _ hqname
  simp only [Function.comp_apply, Mention.identifier_node, identifierAt] at heq
  rw [heq] at hordered
  omega

/-- Each node of a tree is named by one of the identifiers of the source, with the text that stands
there, and no two nodes are named by the same one. -/
theorem names_are_identifiers (source : String) :
    (∀ node ∈ (ofSource source).nodes,
      (∃ token ∈ (tokenize source).tokens, token.kind = .ident ∧
        node.identifier = ⟨token.text, token.span⟩ ∧
        ∀ other ∈ (tokenize source).tokens, other.span = node.identifier.span → other = token) ∧
      node.identifier.text = node.identifier.span.slice source) ∧
    ((ofSource source).nodes.map (·.identifier.span)).Nodup := by
  refine ⟨fun node hnode => ?_, name_spans_nodup source⟩
  obtain ⟨m, rfl, within⟩ := exists_mention_of_mem hnode
  have hmem := tokenAt_mem (Nat.lt_of_le_of_lt within.name_le within.last_lt)
  rw [Mention.identifier_node]
  refine ⟨⟨_, hmem, (kindAt_eq_some_iff.1 within.named).2, rfl, fun other hother heq => ?_⟩, ?_⟩
  · exact List.inj_on_of_nodup_map (tokenize_spans_nodup source) hother hmem heq
  · exact (tokenize_tokens_marks hmem).slice_eq.symm

/-- A field whose declaration breaks off behind its name. -/
theorem names_are_identifiers_of_open_field :
    let node : Node := .declaration ⟨.field, ⟨"é", 4, 6⟩, 4, 6⟩
    node ∈ (ofSource "int é").nodes ∧
      node.identifier.text = node.identifier.span.slice "int é" := by
  intro node
  have hmem : node ∈ (ofSource "int é").nodes := (nodes_perm _).mem_iff.2 (by decide +kernel)
  exact ⟨hmem, ((names_are_identifiers "int é").1 node hmem).2⟩

theorem names_nodup (source : String) : ((ofSource source).nodes.map Node.identifier).Nodup := by
  refine List.Nodup.of_map Identifier.span ?_
  rw [List.map_map]
  exact name_spans_nodup source

/-- A fault that the grammar finds is told by a problem of the tree. -/
theorem exists_problem_of_finding {finding : Finding}
    (h : finding ∈ (read (tokenize source).tokens source.utf8ByteSize).findings.toList) :
    ∃ problem ∈ (ofSource source).problems, problem.message = finding.fault.message :=
  ⟨finding.problem, problem_mem_of_finding h, rfl⟩

/-- No identifier is lost, whatever is wrong with the source: if nothing in it is nested too deep,
every identifier names exactly one node, unless it is a word that is reserved in some places, stands
before a colon, or is a segment of the name of a package or an import. -/
theorem identifiers_are_names {i : Nat} {token : Token}
    (shallow : ∀ problem ∈ (ofSource source).problems, problem.message ≠ Fault.tooDeep.message)
    (htoken : (tokenize source).tokens[i]? = some token) (hident : token.kind = .ident)
    (hword : token.text ∉ contextualWords)
    (hcolon : (tokenize source).tokens[i + 1]?.map Token.kind ≠ some .colon)
    (hheader : ¬ HeaderSegment (tokenize source).tokens.toArray i) :
    ((ofSource source).nodes.map Node.identifier).count ⟨token.text, token.span⟩ = 1 := by
  obtain ⟨mentions, perm, moves⟩ := exists_mentions source
  have hlt : i < (tokenize source).tokens.length := (List.getElem?_eq_some_iff.1 htoken).1
  have hat : tokenAt (tokenize source).tokens.toArray i = token := by simp [tokenAt, htoken]
  have hkind : kindAt (tokenize source).tokens.toArray i = some .ident := by
    simp [kindAt, htoken, hident]
  obtain (word | colon | header) | ⟨m, hm, rfl⟩ | ⟨finding, hfinding, deep⟩ :=
    moves.accounted (Nat.zero_le i) hlt hkind
  · exact absurd (hat ▸ word) hword
  · exact absurd (by simpa [kindAt] using colon) hcolon
  · exact absurd header hheader
  · refine List.count_eq_one_of_mem (names_nodup source) ?_
    have hmem := perm.mem_iff.2 (List.mem_map_of_mem hm)
    exact List.mem_map.2 ⟨_, hmem, by rw [Mention.identifier_node, identifierAt, hat]⟩
  · obtain ⟨problem, hproblem, hmessage⟩ := exists_problem_of_finding hfinding
    exact absurd (deep ▸ hmessage) (shallow problem hproblem)

/-- In a source that breaks off, the last name is that of one node. -/
theorem identifiers_are_names_of_open_source :
    let source := "import p.R; class A \x7b void f() \x7b new B("
    (tokenize source).tokens[14]? = some ⟨.ident, "B", 37, 38⟩ ∧
      ((ofSource source).nodes.map Node.identifier).count ⟨"B", 37, 38⟩ = 1 := by
  intro source
  have shallow : ∀ problem ∈ (ofSource source).problems,
      problem.message ≠ Fault.tooDeep.message := by
    simp only [mem_problems_iff]
    decide +kernel
  have located : (tokenize source).tokens[14]? = some ⟨.ident, "B", 37, 38⟩ ∧
      (tokenize source).tokens[15]?.map Token.kind ≠ some .colon ∧
      ¬ HeaderSegment (tokenize source).tokens.toArray 14 := by decide +kernel
  obtain ⟨htoken, hcolon, hheader⟩ := located
  exact ⟨htoken, identifiers_are_names shallow htoken rfl (by decide) hcolon hheader⟩

end SyntaxTree

end JavaLens
