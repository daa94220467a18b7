import JavaLens.Proofs.Grammar.Header
import JavaLens.Proofs.SyntaxTree.Formatting
import JavaLens.Proofs.SyntaxTree.Names
import Mathlib.Data.List.Pairwise

/-!
# Unused imports

The warnings of a tree are about imports. Where the header of a source is complete, there is one
for each import of a single name to which no node refers, in the order of the imports. An identifier
with that name behind the header is such a node, unless it is declared or passed over.

## Main definitions

* `Grammar.ImportClause.isUnused`, `Grammar.ImportClause.warning` — imports that nothing refers to.
* `SyntaxTree.ReferredTo` — an identifier behind the header that stands for an import.

## Main statements

* `SyntaxTree.warnings_eq` — the warnings of a tree.
* `SyntaxTree.exists_node_of_ident` — identifiers that are not passed over name nodes.
-/

namespace JavaLens

open Grammar

namespace Grammar.ImportClause

/-- Whether an import names one thing to which no node of a tree refers. -/
def isUnused (tree : SyntaxTree) (i : ImportClause) : Bool :=
  i.star?.isNone && tree.nodes.all fun node => !node.refersTo i.name.last.text

/-- The warning about an import that is never used. -/
def warning (i : ImportClause) : Problem :=
  ⟨.warning, "The import " ++ String.intercalate "." i.name.segments ++ " is never used",
    i.name.span⟩

theorem simpleName_declared (i : ImportClause) : i.declared.simpleName = i.name.last.text := by
  rw [Import.simpleName, declared, DottedName.segments, DottedName.last, List.getLastD_eq_getLast?,
    List.getLast?_map, List.getLast?_eq_some_getLast i.name.identifiers_ne_nil]
  rfl

end Grammar.ImportClause

namespace SyntaxTree

variable {source : String} {imports : List ImportClause} {rest : List Token}

/-! ## Warnings -/

/-- The warnings of a tree are those about its imports. -/
theorem warnings_eq (source : String) :
    let parsed := read (tokenize source).tokens source.utf8ByteSize
    (ofSource source).problems.filter (·.severity = .warning) =
      (Import.unused parsed.imports.toList parsed.nodes.toList).mergeSort Problem.precedes := by
  intro parsed
  have findings (fs : List Finding) :
      (fs.map Finding.problem).filter (·.severity = .warning) = [] := by
    simp [List.filter_eq_nil_iff, Finding.problem]
  have warnings (imports : List Import) (nodes : List Node) :
      (Import.unused imports nodes).filter (·.severity = .warning) =
        Import.unused imports nodes := by
    refine List.filter_eq_self.2 fun problem hproblem => ?_
    obtain ⟨declared, _, rfl⟩ := List.mem_map.1 hproblem
    simp [Import.warning]
  rw [problems_eq, filter_mergeSort Problem.precedes_trans Problem.precedes_total, found]
  simp only [List.filter_append, findings, warnings, List.nil_append]
  rfl

/-- Whether an import is used can be told from the nodes as they are recorded. -/
theorem isUnused_eq (source : String) (i : ImportClause) :
    i.isUnused (ofSource source) =
      i.declared.isUnused (read (tokenize source).tokens source.utf8ByteSize).nodes.toList := by
  rw [ImportClause.isUnused, Import.isUnused, ImportClause.simpleName_declared,
    (nodes_perm source).all_eq]
  simp [ImportClause.declared, List.all_eq_not_any_not]

section Header

variable {package? : Option PackageClause}

theorem mem_tokens_of_mem_name {i : ImportClause} {token : Token} (hi : i ∈ imports)
    (h : token ∈ i.name.tokens) : token ∈ headerTokens package? imports := by
  refine List.mem_append_right _ (List.mem_flatMap.2 ⟨i, hi, ?_⟩)
  simp [ImportClause.tokens, h]

variable (header : (tokenize source).tokens = headerTokens package? imports ++ rest)
include header

/-- The names of imports start in the order of the imports. -/
theorem imports_ordered :
    imports.Pairwise fun i j => i.name.first.span.start ≤ j.name.first.span.start := by
  have ordered := tokenize_tokens_before source
  rw [header, headerTokens, List.append_assoc, List.pairwise_append,
    List.pairwise_append] at ordered
  obtain ⟨-, ⟨clauses, -, -⟩, -⟩ := ordered
  refine (List.pairwise_flatMap.1 clauses).2.imp fun {i j} before => ?_
  have first (i : ImportClause) : i.name.first ∈ i.tokens := by
    simp [ImportClause.tokens, DottedName.tokens]
  exact Nat.le_of_lt (before _ (first i) _ (first j)).1

/-- The warnings of a source with a complete header. -/
theorem warnings_of_header (noMore : ∀ token ∈ rest, token.kind ≠ .keyword .import) :
    (ofSource source).problems.filter (·.severity = .warning) =
      (imports.filter (·.isUnused (ofSource source))).map ImportClause.warning := by
  have reported (nodes : List Node) :
      Import.unused (imports.map ImportClause.declared) nodes =
        (imports.filter fun i => i.declared.isUnused nodes).map ImportClause.warning := by
    rw [Import.unused, List.filter_map, List.map_map]
    rfl
  rw [warnings_eq, read_imports header noMore, reported, ← funext (isUnused_eq source)]
  refine List.mergeSort_of_pairwise (List.pairwise_map.2 ?_)
  refine ((imports_ordered header).sublist List.filter_sublist).imp fun h => ?_
  exact decide_eq_true h

/-- Imports about which the same is warned end with the same identifier. -/
theorem last_eq_of_warning_eq {i j : ImportClause} (hi : i ∈ imports) (hj : j ∈ imports)
    (same : i.warning = j.warning) : i.name.last = j.name.last := by
  have mem {i : ImportClause} (hi : i ∈ imports) : i.name.last ∈ (tokenize source).tokens := by
    obtain ⟨front, hfront⟩ := i.name.exists_tokens_eq
    rw [header]
    exact List.mem_append_left _ (mem_tokens_of_mem_name hi (by simp [hfront]))
  have stop : i.name.last.span.stop = j.name.last.span.stop :=
    congrArg (fun problem : Problem => problem.span.stop) same
  by_contra other
  have symm : Std.Symm fun a b : Token => a.span.stop ≠ b.span.stop := ⟨fun _ _ h => h.symm⟩
  have apart : (tokenize source).tokens.Pairwise fun a b => a.span.stop ≠ b.span.stop := by
    refine (tokenize_tokens_ordered source).imp_of_mem fun {a b} _ hb ordered => ?_
    have := tokenize_tokens_nonempty hb
    omega
  exact apart.forall (mem hi) (mem hj) other stop

/-- An import to which something refers is not reported. -/
theorem warning_not_mem (noMore : ∀ token ∈ rest, token.kind ≠ .keyword .import)
    {i : ImportClause} (hi : i ∈ imports) {node : Node} (hnode : node ∈ (ofSource source).nodes)
    (refers : node.refersTo i.name.last.text) : i.warning ∉ (ofSource source).problems := by
  intro reported
  have listed : i.warning ∈ (ofSource source).problems.filter (·.severity = .warning) :=
    List.mem_filter.2 ⟨reported, rfl⟩
  rw [warnings_of_header header noMore, List.mem_map] at listed
  obtain ⟨j, hj, same⟩ := listed
  obtain ⟨hj, unused⟩ := List.mem_filter.1 hj
  have none := List.all_eq_true.1 (Bool.and_eq_true_iff.1 unused).2 node hnode
  rw [last_eq_of_warning_eq header hj hi same, refers] at none
  cases none

end Header

/-! ## Identifiers -/

/-- An identifier that the grammar does not pass over names a node, if nothing is nested too
deep. -/
theorem exists_node_of_ident {k : Nat} {token : Token}
    (shallow : ∀ problem ∈ (ofSource source).problems, problem.message ≠ Fault.tooDeep.message)
    (htoken : (tokenize source).tokens[k]? = some token) (hident : token.kind = .ident)
    (recorded : ¬Unrecorded (tokenize source).tokens.toArray k) :
    ∃ node ∈ (ofSource source).nodes, node.identifier = ⟨token.text, token.span⟩ := by
  obtain ⟨mentions, perm, moves⟩ := exists_mentions source
  have hlt : k < (tokenize source).tokens.length := (List.getElem?_eq_some_iff.1 htoken).1
  have hkind : kindAt (tokenize source).tokens.toArray k = some .ident := by
    simp [kindAt, htoken, hident]
  obtain passed | ⟨m, hm, rfl⟩ | ⟨finding, hfinding, deep⟩ :=
    moves.accounted (Nat.zero_le k) hlt hkind
  · exact absurd passed recorded
  · refine ⟨_, perm.mem_iff.2 (List.mem_map_of_mem hm), ?_⟩
    simp [Mention.identifier_node, identifierAt, tokenAt, htoken]
  · obtain ⟨problem, hproblem, hmessage⟩ := exists_problem_of_finding hfinding
    exact absurd (deep ▸ hmessage) (shallow problem hproblem)

/-- Whether behind the header an identifier stands for what an import names: it has the name, is not
itself declared, and is none of those that are passed over. -/
def ReferredTo (source : String) (rest : List Token) (i : ImportClause) : Prop :=
  ∃ k token, rest[k]? = some token ∧ token.kind = .ident ∧ token.text = i.name.last.text ∧
    (∀ d ∈ (ofSource source).declarations, d.name.span ≠ token.span) ∧
    token.text ∉ contextualWords ∧ rest[k + 1]?.map Token.kind ≠ some .colon ∧
    ¬HeaderSegment rest.toArray k

/-- Such an identifier is a node that refers to the import. -/
theorem ReferredTo.exists_node {front : List Token} {i : ImportClause}
    (shallow : ∀ problem ∈ (ofSource source).problems, problem.message ≠ Fault.tooDeep.message)
    (split : (tokenize source).tokens = front ++ rest)
    (ends : ∀ token ∈ front.getLast?, token.kind = .semi) (h : ReferredTo source rest i) :
    ∃ node ∈ (ofSource source).nodes, node.refersTo i.name.last.text := by
  obtain ⟨k, token, htoken, hident, htext, undeclared, hword, hcolon, hheader⟩ := h
  have here : (tokenize source).tokens[front.length + k]? = some token := by
    rw [split, List.getElem?_append_right (Nat.le_add_right _ _), Nat.add_sub_cancel_left, htoken]
  have recorded : ¬Unrecorded (tokenize source).tokens.toArray (front.length + k) := by
    rintro (word | colon | segment)
    · exact hword (by simpa [tokenAt, here] using word)
    · rw [split, Nat.add_assoc, kindAt_append_right] at colon
      exact hcolon (by simpa [kindAt] using colon)
    · exact hheader (.of_append ends (split ▸ segment))
  obtain ⟨node, hnode, named⟩ := exists_node_of_ident shallow here hident recorded
  refine ⟨node, hnode, ?_⟩
  cases node with
  | declaration d =>
    have declared : d ∈ (ofSource source).declarations := List.mem_filterMap.2 ⟨_, hnode, rfl⟩
    exact absurd (congrArg Identifier.span named) (undeclared d declared)
  | reference name =>
    have : name.text = token.text := congrArg Identifier.text named
    simp [Node.refersTo, this, htext]

/-- Behind a complete header without further imports, the warnings are one for each import of a
single name to which nothing in the tree refers, in order. An import that an identifier stands for
is not reported if nothing is nested too deep. -/
theorem unused_imports_reported (source : String) (package? : Option PackageClause)
    (imports : List ImportClause) (rest : List Token)
    (header : (tokenize source).tokens = headerTokens package? imports ++ rest)
    (noMore : ∀ token ∈ rest, token.kind ≠ .keyword .import) :
    (ofSource source).problems.filter (·.severity = .warning) =
        (imports.filter (·.isUnused (ofSource source))).map ImportClause.warning ∧
      ((∀ problem ∈ (ofSource source).problems, problem.message ≠ Fault.tooDeep.message) →
        ∀ i ∈ imports, ReferredTo source rest i → i.warning ∉ (ofSource source).problems) := by
  refine ⟨warnings_of_header header noMore, fun shallow i hi referred => ?_⟩
  obtain ⟨node, hnode, refers⟩ :=
    referred.exists_node shallow header (getLast?_headerTokens package? imports)
  exact warning_not_mem header noMore hi hnode refers

/-- Of two imports behind a package declaration, the static one is unused. -/
theorem unused_imports_of_field :
    let source := "package p; import a.B; import static c.D; B b;"
    (ofSource source).problems.filter (·.severity = .warning) =
        [⟨.warning, "The import c.D is never used", 37, 40⟩] ∧
      ⟨.warning, "The import a.B is never used", 18, 21⟩ ∉ (ofSource source).problems := by
  intro source
  have shallow : ∀ problem ∈ (ofSource source).problems,
      problem.message ≠ Fault.tooDeep.message := by
    simp only [mem_problems_iff]
    decide +kernel
  have undeclared (d : Declaration) (hd : d ∈ (ofSource source).declarations) :
      d.name.span ≠ ⟨42, 43⟩ := by
    have recorded : ∀ d ∈ (read (tokenize source).tokens source.utf8ByteSize).nodes.toList.filterMap
        Node.declaration?, d.name.span ≠ ⟨42, 43⟩ := by decide +kernel
    exact recorded d (((nodes_perm source).filterMap _).mem_iff.1 hd)
  have reported := unused_imports_reported source
    (some ⟨⟨.keyword .package, "package", 0, 7⟩, ⟨⟨.ident, "p", 8, 9⟩, [], rfl, by decide⟩,
      ⟨.semi, ";", 9, 10⟩, rfl, rfl⟩)
    [⟨⟨.keyword .import, "import", 11, 17⟩, none,
      ⟨⟨.ident, "a", 18, 19⟩, [(⟨.dot, ".", 19, 20⟩, ⟨.ident, "B", 20, 21⟩)], rfl, by decide⟩, none,
      ⟨.semi, ";", 21, 22⟩, rfl, by decide, by decide, rfl⟩,
     ⟨⟨.keyword .import, "import", 23, 29⟩, some ⟨.keyword .static, "static", 30, 36⟩,
      ⟨⟨.ident, "c", 37, 38⟩, [(⟨.dot, ".", 38, 39⟩, ⟨.ident, "D", 39, 40⟩)], rfl, by decide⟩, none,
      ⟨.semi, ";", 40, 41⟩, rfl, by decide, by decide, rfl⟩]
    [⟨.ident, "B", 42, 43⟩, ⟨.ident, "b", 44, 45⟩, ⟨.semi, ";", 45, 46⟩]
    (by decide +kernel) (by decide)
  rw [funext (isUnused_eq source)] at reported
  obtain ⟨warnings, used⟩ := reported
  refine ⟨warnings.trans (by decide +kernel), used shallow _ List.mem_cons_self ?_⟩
  exact ⟨0, ⟨.ident, "B", 42, 43⟩, rfl, rfl, rfl, undeclared, by decide, by decide, by decide⟩

end SyntaxTree

end JavaLens
