import JavaLens.Proofs.SyntaxTree.Mentions

/-!
# How nodes nest

The nodes of a tree are a strict laminar family in preorder: of two nodes the later one lies behind
the earlier one, or strictly inside it and clear of its name. The grammar records nodes in another
order, by their names; sorting them by where they start is what brings the enclosing ones to the
front.

## Main definitions

* `Node.Leads` — a node lies before another or strictly encloses it.

## Main statements

* `SyntaxTree.nodes_laminar` — every node leads those behind it.
-/

namespace JavaLens

namespace Node

/-- Whether the second node lies behind the first, or inside it, smaller and clear of its name. -/
def Leads (a b : Node) : Prop :=
  a.span.stop ≤ b.span.start ∨
    (a.span.Encloses b.span ∧ b.span ≠ a.span ∧
      (b.span.stop ≤ a.identifier.span.start ∨ a.identifier.span.stop ≤ b.span.start))

variable {a b : Node}

theorem Leads.disjoint_or_encloses (h : a.Leads b) :
    a.span.stop ≤ b.span.start ∨ a.span.Encloses b.span := h.imp id And.left

theorem Leads.not_encloses (h : a.Leads b) (ha : a.span.start < a.span.stop) :
    ¬ b.span.Encloses a.span := by
  intro encloses
  obtain behind | ⟨inside, hne, _⟩ := h
  · have := encloses.1
    omega
  · exact hne (encloses.antisymm inside)

/-- Of two nodes that are apart, the one that comes first in document order leads. -/
theorem Leads.of_precedes (h : a.Leads b ∨ b.Leads a) (hb : b.span.start < b.span.stop)
    (hab : a.precedes b) : a.Leads b := by
  obtain h | h := h
  · exact h
  simp only [precedes, decide_eq_true_eq] at hab
  obtain behind | encloses := h.disjoint_or_encloses
  · omega
  · obtain before | ⟨hstart, hstop⟩ := hab
    · have := encloses.1
      omega
    · exact absurd ⟨Nat.le_of_eq hstart, hstop⟩ (h.not_encloses hb)

theorem precedes_trans (a b c : Node) (hab : a.precedes b) (hbc : b.precedes c) : a.precedes c := by
  simp only [precedes, decide_eq_true_eq] at *
  omega

theorem precedes_total (a b : Node) : a.precedes b || b.precedes a := by
  simp only [precedes, Bool.or_eq_true, decide_eq_true_eq]
  omega

end Node

namespace Grammar

variable {tokens : Array Token} {p q m : Mention} {i : Nat}

theorem Mention.node_nonempty (side : SideBySide tokens) (h : m.Within tokens i tokens.size) :
    (m.node tokens).span.start < (m.node tokens).span.stop := by
  have hlast := h.last_lt
  rw [span_node side h]
  exact Nat.lt_of_le_of_lt (side.start_le (Nat.le_trans h.first_le h.name_le) hlast)
    (side.nonempty _ hlast)

/-- Of two mentions that are apart, one leads the other. -/
theorem Mention.Apart.leads (side : SideBySide tokens) (hp : p.Within tokens i tokens.size)
    (hq : q.Within tokens i tokens.size) (h : p.Apart q) :
    (p.node tokens).Leads (q.node tokens) ∨ (q.node tokens).Leads (p.node tokens) := by
  simp only [Node.Leads, span_node side hp, span_node side hq, identifier_node]
  obtain ⟨_, hpfirst, hpname, hplast, _, _⟩ := hp
  obtain ⟨_, hqfirst, hqname, hqlast, _, _⟩ := hq
  obtain behind | ⟨hname, hlast⟩ | ⟨hfirst, hname⟩ := h
  · exact .inl (.inl (side.ordered _ _ behind (by omega)))
  · -- The second lies in the first, behind its name, so it starts later.
    have hclear := side.ordered _ _ hname (by omega)
    have hnonempty := side.nonempty p.name (by omega)
    have hstart := side.start_le hpfirst (by omega)
    refine .inl (.inr ⟨⟨side.start_le (by omega) (by omega), side.stop_le hlast hplast⟩, ?_,
      .inr hclear⟩)
    simp only [ne_eq, Span.mk.injEq]
    omega
  · -- The first lies in the second, in front of its name, so it ends earlier.
    have hclear := side.ordered _ _ hname (by omega)
    have hnonempty := side.nonempty q.name (by omega)
    have hstop := side.stop_le hqname hqlast
    refine .inr (.inr ⟨⟨side.start_le hfirst (by omega), side.stop_le (by omega) hqlast⟩, ?_,
      .inl hclear⟩)
    simp only [ne_eq, Span.mk.injEq]
    omega

end Grammar

namespace SyntaxTree

open Grammar

/-- The grammar records nodes of which one always leads the other. -/
theorem nodes_pairwise_leads_or (source : String) :
    (ofSource source).nodes.Pairwise fun a b => a.Leads b ∨ b.Leads a := by
  have side := sideBySide_tokenize source
  obtain ⟨mentions, perm, moves⟩ := exists_mentions source
  refine (perm.pairwise_iff fun h => h.symm).2 (List.pairwise_map.2 ?_)
  refine moves.apart.imp_of_mem fun {p q} hp hq apart => ?_
  exact apart.leads side (moves.within p hp) (moves.within q hq)

theorem node_nonempty {source : String} {node : Node} (h : node ∈ (ofSource source).nodes) :
    node.span.start < node.span.stop := by
  obtain ⟨m, rfl, within⟩ := exists_mention_of_mem h
  exact m.node_nonempty (sideBySide_tokenize source) within

theorem nodes_pairwise_leads (source : String) : (ofSource source).nodes.Pairwise Node.Leads := by
  have sorted : (ofSource source).nodes.Pairwise fun a b => a.precedes b :=
    List.pairwise_mergeSort Node.precedes_trans Node.precedes_total _
  refine (sorted.and (nodes_pairwise_leads_or source)).imp_of_mem fun {a b} _ hb h => ?_
  exact .of_precedes h.2 (node_nonempty hb) h.1

/-- The nodes of a tree are a strict laminar family in preorder. Each node lies before those behind
it in the list, or strictly encloses them and keeps its name clear of them. So no two nodes overlap
in part, no two have the same span, and none comes before a node that encloses it. -/
theorem nodes_laminar (source : String) :
    (ofSource source).nodes.Pairwise Node.Leads ∧
    (ofSource source).nodes.Pairwise (fun a b =>
      a.span.stop ≤ b.span.start ∨ b.span.stop ≤ a.span.start ∨ a.span.Encloses b.span ∨
        b.span.Encloses a.span) ∧
    ((ofSource source).nodes.map Node.span).Nodup ∧
    (ofSource source).nodes.Pairwise (fun a b => ¬ b.span.Encloses a.span) := by
  have leads := nodes_pairwise_leads source
  have outside : (ofSource source).nodes.Pairwise fun a b => ¬ b.span.Encloses a.span :=
    leads.imp_of_mem fun ha _ h => h.not_encloses (node_nonempty ha)
  refine ⟨leads, leads.imp fun h => ?_, List.pairwise_map.2 (outside.imp fun h heq => ?_), outside⟩
  · exact h.disjoint_or_encloses.imp id fun encloses => .inr (.inl encloses)
  · exact h (heq ▸ .refl _)

end SyntaxTree

end JavaLens
