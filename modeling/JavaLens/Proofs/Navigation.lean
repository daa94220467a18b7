import JavaLens.Proofs.Editor.Outline
import JavaLens.Proofs.SyntaxTree.Order
import Mathlib.Data.List.Pairwise

/-!
# Navigation in a tree

The node at an offset is the shortest of those that touch it, and the last one where several are
equally short. Nodes with the same span stay in the order in which they are given, whatever else a
caller puts into a tree, so of these the last one given is chosen.

Two questions about the node at an offset are answered on ways of their own: what it is, and where
its name is declared. A declaration describes itself, while its name may have been declared before;
nevertheless the one question has an answer if and only if the other has, since a declaration is
found among the declarations of its name. In the tree of a source, nodes are nested so strictly that
pointing at a name finds the node that it names.

## Main definitions

* `SyntaxTree.IsInnermost` — a node that is the innermost one at an offset.
* `SyntaxTree.IsFirst` — a declaration that is the first one of its name.
* `SyntaxTree.Points` — what an offset in the name of a node points at.

## Main statements

* `SyntaxTree.foldl_innermost_eq_some` — the last of the shortest nodes is chosen.
* `SyntaxTree.innermost_node_found` — the node at an offset, whatever the spans of the nodes.
* `Session.hover_agrees_with_definition` — a hover has an answer if and only if a definition has.
* `SyntaxTree.pointing_finds_name` — pointing at a name finds it.
-/

namespace JavaLens

namespace SyntaxTree

variable {t : SyntaxTree} {nodes : List Node} {node : Node} {offset : Nat} {name : String}
  {d : Declaration}

/-! ## The innermost node -/

theorem innermost_ne_none (best : Option Node) (node : Node) : innermost best node ≠ none := by
  unfold innermost
  grind

/-- Something is chosen if there is anything to choose from. -/
theorem foldl_innermost_eq_none_iff : nodes.foldl innermost none = none ↔ nodes = [] := by
  cases nodes using List.reverseRecOn with
  | nil => simp
  | append_singleton init last _ => simp [innermost_ne_none]

/-- The last of the shortest nodes is chosen: no node is shorter, and every node behind it is
longer. -/
theorem foldl_innermost_eq_some (h : nodes.foldl innermost none = some node) :
    ∃ front back, nodes = front ++ node :: back ∧
      (∀ other ∈ front, node.span.length ≤ other.span.length) ∧
      ∀ other ∈ back, node.span.length < other.span.length := by
  induction nodes using List.reverseRecOn generalizing node with
  | nil => cases h
  | append_singleton init last ih =>
    rw [List.foldl_concat] at h
    cases best : init.foldl innermost none with
    | none =>
      obtain rfl := foldl_innermost_eq_none_iff.1 best
      cases h
      exact ⟨[], [], rfl, by simp, by simp⟩
    | some current =>
      obtain ⟨front, back, rfl, before, behind⟩ := ih best
      rw [best, innermost] at h
      split at h
      · cases h
        refine ⟨front, back ++ [last], by simp, before, ?_⟩
        grind
      · cases h
        refine ⟨front ++ current :: back, [], rfl, ?_, by simp⟩
        grind

theorem touches_of_nodeAt? (h : t.nodeAt? offset = some node) : node.span.Touches offset := by
  obtain h | h := mem_of_foldl_innermost h
  · cases h
  · exact of_decide_eq_true (List.mem_filter.1 h).2

/-! ## The innermost node of any tree -/

/-- Whether the node at an index of a tree is the innermost one at an offset: it touches the offset,
no node that does is shorter, and none that does and is as short comes later. -/
structure IsInnermost (t : SyntaxTree) (offset index : Nat) (node : Node) : Prop where
  here : t.nodes[index]? = some node
  touches : node.span.Touches offset
  shortest : ∀ other ∈ t.nodes, other.span.Touches offset → node.span.length ≤ other.span.length
  last : ∀ j other, t.nodes[j]? = some other → other.span.Touches offset →
    other.span.length = node.span.length → j ≤ index

/-- There is at most one innermost node. -/
theorem IsInnermost.unique {i j : Nat} {other : Node} (h : t.IsInnermost offset i node)
    (h' : t.IsInnermost offset j other) : node = other := by
  have le := h.shortest other (List.mem_of_getElem? h'.here) h'.touches
  have le' := h'.shortest node (List.mem_of_getElem? h.here) h.touches
  have same := Nat.le_antisymm le le'
  have later := h.last j other h'.here h'.touches same.symm
  have earlier := h'.last i node h.here h.touches same
  obtain rfl : i = j := Nat.le_antisymm earlier later
  exact Option.some.inj (h.here.symm.trans h'.here)

/-- The nodes of a tree around the one that is found: of those that touch the offset, none in front
of it is shorter, and those behind it are longer. -/
theorem exists_split_of_nodeAt? (h : t.nodeAt? offset = some node) :
    ∃ front back, t.nodes = front ++ node :: back ∧
      (∀ other ∈ front, other.span.Touches offset → node.span.length ≤ other.span.length) ∧
      ∀ other ∈ back, other.span.Touches offset → node.span.length < other.span.length := by
  obtain ⟨front, back, candidates, before, behind⟩ := foldl_innermost_eq_some h
  -- All nodes are split where those that touch the offset are.
  obtain ⟨first, second, nodes, rfl, hsecond⟩ := List.filter_eq_append_iff.1 candidates
  obtain ⟨skipped, later, rfl, untouched, -, rfl⟩ := List.filter_eq_cons_iff.1 hsecond
  refine ⟨first ++ skipped, later, by simp [nodes], ?_, ?_⟩
  · intro other mem touches
    rcases List.mem_append.1 mem with mem | mem
    · exact before other (List.mem_filter.2 ⟨mem, by simpa using touches⟩)
    · exact absurd touches (by simpa using untouched other mem)
  · intro other mem touches
    exact behind other (List.mem_filter.2 ⟨mem, by simpa using touches⟩)

/-- The node that is found is the innermost one. -/
theorem exists_isInnermost (h : t.nodeAt? offset = some node) :
    ∃ index, t.IsInnermost offset index node := by
  obtain ⟨front, back, split, before, behind⟩ := exists_split_of_nodeAt? h
  refine ⟨front.length, by simp [split], touches_of_nodeAt? h, ?_, ?_⟩
  · grind
  · intro j other hother touches same
    by_contra! beyond
    obtain ⟨k, rfl⟩ := Nat.exists_eq_add_of_lt beyond
    rw [split, Nat.add_assoc, List.getElem?_append_right (by omega), Nat.add_sub_cancel_left,
      List.getElem?_cons_succ] at hother
    have := behind other (List.mem_of_getElem? hother) touches
    omega

theorem nodeAt?_eq_none_iff :
    t.nodeAt? offset = none ↔ ∀ node ∈ t.nodes, ¬ node.span.Touches offset := by
  rw [nodeAt?, foldl_innermost_eq_none_iff, List.filter_eq_nil_iff]
  simp

/-- The innermost node is found, wherever it stands. -/
theorem nodeAt?_eq_some_iff :
    t.nodeAt? offset = some node ↔ ∃ index, t.IsInnermost offset index node := by
  refine ⟨exists_isInnermost, fun ⟨index, innermost⟩ => ?_⟩
  cases found : t.nodeAt? offset with
  | none =>
    have mem := List.mem_of_getElem? innermost.here
    exact absurd innermost.touches (nodeAt?_eq_none_iff.1 found node mem)
  | some best =>
    obtain ⟨_, innermost'⟩ := exists_isInnermost found
    rw [innermost'.unique innermost]

/-- A node that touches an offset is found there if every other one that does is longer. -/
theorem nodeAt?_eq_some (mem : node ∈ t.nodes) (touches : node.span.Touches offset)
    (longer : ∀ other ∈ t.nodes, other.span.Touches offset → other ≠ node →
      node.span.length < other.span.length) : t.nodeAt? offset = some node := by
  cases found : t.nodeAt? offset with
  | none => exact absurd touches (nodeAt?_eq_none_iff.1 found node mem)
  | some best =>
    obtain ⟨_, innermost⟩ := exists_isInnermost found
    have shortest := innermost.shortest node mem touches
    by_contra other
    have := longer best (mem_of_nodeAt? found) innermost.touches fun h => other (h ▸ rfl)
    omega

/-- Nodes with the same span stay in the order in which they are given. -/
theorem filter_span_nodes (nodes : List Node) (problems : List Problem) (span : Span) :
    (ofParts nodes problems).nodes.filter (fun other => other.span = span) =
      nodes.filter fun other => other.span = span := by
  have tied : (nodes.filter fun other => other.span = span).Pairwise fun a b => a.precedes b := by
    refine List.pairwise_of_forall_mem_list fun a ha b hb => ?_
    have spans : a.span = span ∧ b.span = span := by grind
    simp [Node.precedes, spans]
  rw [ofParts, filter_mergeSort Node.precedes_trans Node.precedes_total]
  exact List.mergeSort_of_pairwise tied

/-- Of the nodes with its span, the innermost node is the last one given. -/
theorem getLast?_of_nodeAt? {problems : List Problem}
    (h : (ofParts nodes problems).nodeAt? offset = some node) :
    (nodes.filter fun other => other.span = node.span).getLast? = some node := by
  obtain ⟨front, back, split, -, behind⟩ := exists_split_of_nodeAt? h
  have none_behind : back.filter (fun other => other.span = node.span) = [] := by
    refine List.filter_eq_nil_iff.2 fun other mem same => ?_
    have same : other.span = node.span := by simpa using same
    have := behind other mem (same ▸ touches_of_nodeAt? h)
    rw [same] at this
    omega
  rw [← filter_span_nodes nodes problems, split, List.filter_append,
    List.filter_cons_of_pos (by simp), none_behind, List.getLast?_concat]

/-- The node that is found in a tree is the innermost one at the offset, whatever the nodes that the
tree is made of. There is none if and only if no node touches the offset. Otherwise it is the one
that touches the offset, has no shorter one beside it and comes last in document order among those
that are as short. Of the nodes with its span, it is the one given last. -/
theorem innermost_node_found (nodes : List Node) (problems : List Problem) (offset : Nat) :
    let t := ofParts nodes problems
    t.nodes.Perm nodes ∧ t.nodes.Pairwise (fun a b => a.precedes b) ∧
    (t.nodeAt? offset = none ↔ ∀ node ∈ nodes, ¬ node.span.Touches offset) ∧
    ∀ node,
      (t.nodeAt? offset = some node ↔ ∃ index, t.IsInnermost offset index node) ∧
      (t.nodeAt? offset = some node →
        (nodes.filter fun other => other.span = node.span).getLast? = some node) := by
  intro t
  have perm : t.nodes.Perm nodes := List.mergeSort_perm nodes _
  refine ⟨perm, List.pairwise_mergeSort Node.precedes_trans Node.precedes_total nodes, ?_, ?_⟩
  · rw [nodeAt?_eq_none_iff]
    exact forall_congr' fun node => by rw [perm.mem_iff]
  · exact fun node => ⟨nodeAt?_eq_some_iff, getLast?_of_nodeAt?⟩

-- All three nodes are equally long. Two of them start later, and of these one is given later.
example :
    let declared : Node := .declaration ⟨.localVariable, ⟨"v", 2, 6⟩, 2, 6⟩
    let mentioned : Node := .reference ⟨"v", 2, 6⟩
    (ofParts [declared, mentioned, .reference ⟨"w", 0, 4⟩] []).nodeAt? 3 = some mentioned := by
  cbv

/-! ## Declarations of a name -/

/-- Whether a declaration of a tree is the first one of its name, in document order. -/
def IsFirst (t : SyntaxTree) (d : Declaration) : Prop :=
  ∃ before after, t.declarations = before ++ d :: after ∧ ∀ e ∈ before, e.name.text ≠ d.name.text

theorem firstDeclaration?_eq_some_iff :
    t.firstDeclaration? name = some d ↔ d.name.text = name ∧ t.IsFirst d := by
  unfold firstDeclaration? IsFirst
  rw [List.find?_eq_some_iff_append]
  constructor
  · rintro ⟨same, before, after, split, others⟩
    obtain rfl : d.name.text = name := by simpa using same
    exact ⟨rfl, before, after, split, by simpa using others⟩
  · rintro ⟨rfl, before, after, split, others⟩
    exact ⟨by simp, before, after, split, by simpa using others⟩

theorem isSome_firstDeclaration?_iff :
    (t.firstDeclaration? name).isSome ↔ ∃ d ∈ t.declarations, d.name.text = name := by
  simp [firstDeclaration?]

/-- Some declaration has the name of a node whose kind is known. -/
theorem isSome_kindOf?_iff (mem : node ∈ t.nodes) :
    (t.kindOf? node).isSome ↔ (t.firstDeclaration? node.identifier.text).isSome := by
  cases node with
  | declaration d =>
    have declared : (t.firstDeclaration? d.name.text).isSome :=
      isSome_firstDeclaration?_iff.2 ⟨d, mem_declarations_iff.2 mem, rfl⟩
    simpa [kindOf?, Node.identifier] using declared
  | reference name => simp [kindOf?, Node.identifier]

/-! ## Hovers and definitions -/

theorem hover?_eq_some_iff {hover : Hover} :
    t.hover? offset = some hover ↔
      ∃ node kind, t.nodeAt? offset = some node ∧ t.kindOf? node = some kind ∧
        ⟨kind.text ++ " " ++ node.identifier.text, node.identifier.span⟩ = hover := by
  simp [hover?, Option.bind_eq_some_iff]

theorem definition?_eq_some_iff :
    t.definition? offset = some d ↔
      ∃ node, t.nodeAt? offset = some node ∧ d.name.text = node.identifier.text ∧ t.IsFirst d := by
  simp [definition?, identifierAt?, Option.bind_eq_some_iff, firstDeclaration?_eq_some_iff]

theorem definition?_of_nodeAt? (h : t.nodeAt? offset = some node) :
    t.definition? offset = t.firstDeclaration? node.identifier.text := by
  simp [definition?, identifierAt?, h]

/-- There is something to say about a name if and only if it is declared somewhere. -/
theorem isSome_hover?_iff (t : SyntaxTree) (offset : Nat) :
    (t.hover? offset).isSome ↔ (t.definition? offset).isSome := by
  unfold hover? definition? identifierAt?
  cases found : t.nodeAt? offset with
  | none => simp
  | some node =>
    have := isSome_kindOf?_iff (mem_of_nodeAt? found)
    simpa [Option.isSome_bind] using this

/-- A reference is described by the kind of its definition, and a declaration by its own. Either
way the name is that of the definition. -/
theorem contents_of_definition {hover : Hover} (described : t.hover? offset = some hover)
    (defined : t.definition? offset = some d) :
    (∃ kind : Declaration.Kind, hover.contents = kind.text ++ " " ++ d.name.text) ∧
      ∀ name, t.nodeAt? offset = some (.reference name) →
        hover.contents = d.kind.text ++ " " ++ d.name.text := by
  obtain ⟨node, kind, found, hkind, rfl⟩ := hover?_eq_some_iff.1 described
  obtain ⟨same, found', named, first⟩ := definition?_eq_some_iff.1 defined
  obtain rfl : node = same := Option.some.inj (found.symm.trans found')
  rw [named]
  refine ⟨⟨kind, rfl⟩, fun name reference => ?_⟩
  obtain rfl : node = .reference name := Option.some.inj (found.symm.trans reference)
  have declared : t.firstDeclaration? name.text = some d :=
    firstDeclaration?_eq_some_iff.2 ⟨named, first⟩
  rw [kindOf?, declared] at hkind
  obtain rfl : d.kind = kind := Option.some.inj hkind
  rfl

end SyntaxTree

namespace Session

open SyntaxTree

variable {uri text : String} {position : Editor.Position} {tree : SyntaxTree}

theorem exists_hoverReply_iff :
    (∃ contents range, hoverReply position text tree = .hover contents range) ↔
      (tree.hover? (Editor.offsetAt text position)).isSome := by
  unfold hoverReply
  cases tree.hover? (Editor.offsetAt text position) <;> simp

theorem exists_definitionReply_iff :
    (∃ range, definitionReply uri position text tree = .location uri range) ↔
      (tree.definition? (Editor.offsetAt text position)).isSome := by
  unfold definitionReply
  cases tree.definition? (Editor.offsetAt text position) <;> simp

/-- Hovers and definitions agree. At an offset of a tree, whatever its nodes, there is a description
if and only if there is a definition. The description then shows the name of the definition, which
is the first declaration of that name in the tree, and that of a reference shows its kind too. So
the server answers a hover if and only if it answers the question for the definition. -/
theorem hover_agrees_with_definition :
    (∀ (t : SyntaxTree) (offset : Nat),
      ((t.hover? offset).isSome ↔ (t.definition? offset).isSome) ∧
      ∀ hover target, t.hover? offset = some hover → t.definition? offset = some target →
        (∃ kind : Declaration.Kind, hover.contents = kind.text ++ " " ++ target.name.text) ∧
        t.IsFirst target ∧
        ∀ name, t.nodeAt? offset = some (.reference name) →
          hover.contents = target.kind.text ++ " " ++ target.name.text) ∧
    ∀ (s : Session) (uri : String) (position : Editor.Position),
      (∃ contents range, (s.step (.hover uri position)).reply = .hover contents range) ↔
        ∃ range, (s.step (.definition uri position)).reply = .location uri range := by
  refine ⟨fun t offset => ⟨isSome_hover?_iff t offset, ?_⟩, fun s uri position => ?_⟩
  · intro hover target described defined
    obtain ⟨shown, borrowed⟩ := contents_of_definition described defined
    obtain ⟨node, -, -, first⟩ := definition?_eq_some_iff.1 defined
    exact ⟨shown, first, borrowed⟩
  · simp only [step]
    cases stored : s.documents.get? uri with
    | none => simp [query, stored, quiet]
    | some text =>
      rw [reply_query stored, reply_query stored, exists_hoverReply_iff, exists_definitionReply_iff]
      exact isSome_hover?_iff _ _

end Session

/-! ## Pointing at a name -/

namespace SyntaxTree

variable {source : String}

/-- Whether the cursor is on the name of a node, and neither right behind another node that ends
where the name starts nor right before one that starts where the name ends. -/
structure Points (t : SyntaxTree) (offset : Nat) (node : Node) : Prop where
  mem : node ∈ t.nodes
  touches : node.identifier.span.Touches offset
  front : offset = node.identifier.span.start → ∀ other ∈ t.nodes, other.span.stop ≠ offset
  back : offset = node.identifier.span.stop → ∀ other ∈ t.nodes, other.span.start ≠ offset

/-- A strictly enclosing span is longer. -/
theorem length_lt_of_encloses {inner outer : Span} (h : outer.Encloses inner) (hne : inner ≠ outer)
    (nonempty : inner.start < inner.stop) : inner.length < outer.length := by
  obtain ⟨starts, stops⟩ := h
  have : ¬ (inner.start = outer.start ∧ inner.stop = outer.stop) := fun ⟨hstart, hstop⟩ =>
    hne (Span.mk.injEq .. ▸ ⟨hstart, hstop⟩)
  simp only [Span.length]
  omega

/-- Of two nodes of a source one leads the other. -/
theorem leads_or_leads {a b : Node} (ha : a ∈ (ofSource source).nodes)
    (hb : b ∈ (ofSource source).nodes) (hne : a ≠ b) : a.Leads b ∨ b.Leads a := by
  have : Std.Symm fun a b : Node => a.Leads b ∨ b.Leads a := ⟨fun _ _ => Or.symm⟩
  exact (nodes_pairwise_leads_or source).forall ha hb hne

/-- Every other node that touches the cursor encloses the one that it points at. -/
theorem Points.length_lt {other : Node} (h : (ofSource source).Points offset node)
    (mem : other ∈ (ofSource source).nodes) (touches : other.span.Touches offset)
    (hne : other ≠ node) : node.span.length < other.span.length := by
  obtain ⟨⟨starts, stops⟩, named⟩ := encloses_identifier h.mem
  obtain ⟨hstart, hstop⟩ := h.touches
  obtain ⟨touchesStart, touchesStop⟩ := touches
  have front := fun hoffset => h.front hoffset other mem
  have back := fun hoffset => h.back hoffset other mem
  rcases leads_or_leads mem h.mem hne with (before | ⟨encloses, smaller, -⟩) | inside
  · -- The other node ends where the name starts.
    omega
  · exact length_lt_of_encloses encloses smaller (node_nonempty h.mem)
  · -- The other node lies behind the node, or in it and clear of its name.
    rcases inside with behind | ⟨-, -, before | behind⟩ <;> omega

/-- Pointing at a name finds it. -/
theorem nodeAt?_of_points (h : (ofSource source).Points offset node) :
    (ofSource source).nodeAt? offset = some node := by
  have touches : node.span.Touches offset := by
    obtain ⟨⟨starts, stops⟩, -⟩ := encloses_identifier h.mem
    exact ⟨Nat.le_trans starts h.touches.1, Nat.le_trans h.touches.2 stops⟩
  exact nodeAt?_eq_some h.mem touches fun other mem reached hne => h.length_lt mem reached hne

/-- Pointing at a name finds it, in the tree of any source. The node at the cursor is the one that
bears the name. What is said about it is said of the name, and there is something to say if and only
if the name is declared. A declaration is described by its own kind. The definition is the first
declaration of the name, which a declaration always has. -/
theorem pointing_finds_name (h : (ofSource source).Points offset node) :
    let t := ofSource source
    t.nodeAt? offset = some node ∧
    (∀ hover, t.hover? offset = some hover → hover.span = node.identifier.span) ∧
    ((t.hover? offset).isSome ↔ ∃ d ∈ t.declarations, d.name.text = node.identifier.text) ∧
    (∀ d, node = .declaration d →
      t.hover? offset = some ⟨d.kind.text ++ " " ++ d.name.text, d.name.span⟩ ∧
      (t.definition? offset).isSome) ∧
    ∀ target, t.definition? offset = some target ↔
      target.name.text = node.identifier.text ∧ t.IsFirst target := by
  intro t
  have found : t.nodeAt? offset = some node := nodeAt?_of_points h
  refine ⟨found, ?span, ?declared, ?itself, ?first⟩
  case span =>
    intro hover described
    obtain ⟨other, kind, found', -, rfl⟩ := hover?_eq_some_iff.1 described
    obtain rfl : node = other := Option.some.inj (found.symm.trans found')
    rfl
  case declared =>
    rw [isSome_hover?_iff, definition?_of_nodeAt? found, isSome_firstDeclaration?_iff]
  case itself =>
    rintro d rfl
    have described := hover?_eq_some_iff.2 ⟨.declaration d, d.kind, found, rfl, rfl⟩
    exact ⟨described, (isSome_hover?_iff t offset).1 (by rw [described]; rfl)⟩
  case first =>
    intro target
    rw [definition?_of_nodeAt? found, firstDeclaration?_eq_some_iff]

/-- A field at the end of a source that breaks off: the class ends where the name of the field
ends. -/
theorem pointing_finds_last_name :
    let t := ofSource "class A \x7b A b"
    let field : Declaration := ⟨.field, ⟨"b", 12, 13⟩, 12, 13⟩
    t.Points 13 (.declaration field) ∧ t.nodeAt? 13 = some (.declaration field) ∧
      t.hover? 13 = some ⟨"variable b", 12, 13⟩ := by
  intro t field
  have recorded : (Grammar.read (tokenize "class A \x7b A b").tokens 13).nodes.toList =
      [.declaration ⟨.class, ⟨"A", 6, 7⟩, 0, 13⟩, .reference ⟨"A", 10, 11⟩,
        .declaration field] := by
    decide +kernel
  have mem_iff (node : Node) : node ∈ t.nodes ↔ node ∈ _ :=
    ((nodes_perm _).trans (.of_eq recorded)).mem_iff
  have points : t.Points 13 (.declaration field) :=
    { mem := (mem_iff _).2 (by simp)
      touches := by decide
      front := fun h => absurd h (by decide)
      back := fun _ other mem => by
        rcases (by simpa using (mem_iff other).1 mem) with rfl | rfl | rfl <;> decide }
  have pointing := pointing_finds_name points
  exact ⟨points, pointing.1, (pointing.2.2.2.1 field rfl).1⟩

end SyntaxTree

end JavaLens
