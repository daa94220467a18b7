import JavaLens.Proofs.Editor.Ranges
import JavaLens.Proofs.SyntaxTree.Nesting

/-!
# The outline that an editor is sent

An editor shows the outline of a document as a tree and rejects one that is not properly nested. The
declarations of a source are a laminar family in document order, so nesting them by enclosure puts
each entry into those that enclose it and leaves siblings side by side. Positions are in the order
of offsets, so what holds for the spans of the entries also holds for their ranges.

## Main definitions

* `Symbol.Leads` — an entry lies before another or encloses it.
* `Editor.Range.Within` — a range that lies in another.
* `Editor.DocumentSymbol.SideBySide`, `Editor.DocumentSymbol.Nested` — siblings in order, and an
  entry that holds its selection and its children.

## Main statements

* `Symbol.forest_sideBySide` — the entries of a laminar family are nested side by side.
* `Session.outline_nested` — the outline of a document is properly nested.
-/

namespace JavaLens

/-! ## Nesting a laminar family -/

namespace Symbol

/-- Whether the second entry lies behind the first or inside it. -/
def Leads (a b : Symbol) : Prop := a.span.stop ≤ b.span.start ∨ a.span.Encloses b.span

variable {s root : Symbol} {symbols rest : List Symbol}

/-- Entries behind one that is not enclosed are not enclosed either. -/
theorem stop_le_of_mem_dropWhile (leads : ∀ t ∈ rest, s.Leads t) (ordered : rest.Pairwise Leads)
    (proper : ∀ t ∈ rest, t.span.start ≤ t.span.stop) :
    ∀ t ∈ rest.dropWhile fun t => s.span.Encloses t.span, s.span.stop ≤ t.span.start := by
  induction rest with
  | nil => simp
  | cons first later ih =>
    obtain ⟨ahead, ordered⟩ := List.pairwise_cons.1 ordered
    by_cases inside : s.span.Encloses first.span
    · rw [List.dropWhile_cons_of_pos (by simpa using inside)]
      exact ih (fun t ht => leads t (.tail _ ht)) ordered fun t ht => proper t (.tail _ ht)
    · rw [List.dropWhile_cons_of_neg (by simpa using inside)]
      have clear : s.span.stop ≤ first.span.start := (leads first (.head _)).resolve_right inside
      have forward := proper first (.head _)
      intro t ht
      rcases List.mem_cons.1 ht with rfl | ht
      · exact clear
      · -- Whether `first` lies before `t` or encloses it, `t` does not start earlier.
        rcases ahead t ht with behind | encloses
        · omega
        · exact Nat.le_trans clear encloses.1

/-- Nesting changes nothing but what an entry holds. -/
theorem exists_mem_of_mem_forest (h : root ∈ forest symbols) :
    ∃ s ∈ symbols, root.span = s.span := by
  fun_induction forest symbols with
  | case1 => cases h
  | case2 symbol rest inside behind _ ih =>
    rcases List.mem_cons.1 h with rfl | h
    · exact ⟨symbol, .head _, rfl⟩
    · obtain ⟨s, mem, same⟩ := ih h
      exact ⟨s, .tail _ ((List.dropWhile_sublist _).subset mem), same⟩

/-- Nested entries lie side by side. -/
theorem forest_sideBySide (ordered : symbols.Pairwise Leads)
    (proper : ∀ s ∈ symbols, s.span.start ≤ s.span.stop) :
    (forest symbols).Pairwise fun a b => a.span.stop ≤ b.span.start := by
  fun_induction forest symbols with
  | case1 => exact .nil
  | case2 symbol rest inside behind _ ih =>
    obtain ⟨ahead, ordered⟩ := List.pairwise_cons.1 ordered
    have proper : ∀ s ∈ rest, s.span.start ≤ s.span.stop := fun s hs => proper s (.tail _ hs)
    have sublist : behind.Sublist rest := List.dropWhile_sublist _
    refine .cons (fun root hroot => ?_)
      (ih (ordered.sublist sublist) fun s hs => proper s (sublist.subset hs))
    obtain ⟨s, hs, same⟩ := exists_mem_of_mem_forest hroot
    rw [same]
    exact stop_le_of_mem_dropWhile ahead ordered proper s hs

end Symbol

/-! ## The declarations of a source -/

namespace SyntaxTree

open Grammar

variable {source : String} {s : Symbol}

/-- A node encloses its name, which covers something. -/
theorem encloses_identifier {node : Node} (h : node ∈ (ofSource source).nodes) :
    node.span.Encloses node.identifier.span ∧
      node.identifier.span.start < node.identifier.span.stop := by
  have side := sideBySide_tokenize source
  obtain ⟨m, rfl, within⟩ := exists_mention_of_mem h
  have hname := Nat.lt_of_le_of_lt within.name_le within.last_lt
  rw [Mention.identifier_node, Mention.span_node side within]
  exact ⟨⟨side.start_le within.first_le hname, side.stop_le within.name_le within.last_lt⟩,
    side.nonempty _ hname⟩

theorem entries_pairwise_leads (source : String) :
    (ofSource source).entries.Pairwise Symbol.Leads := by
  have leads : (ofSource source).declarations.Pairwise fun c d =>
      c.span.stop ≤ d.span.start ∨ c.span.Encloses d.span := by
    refine (nodes_pairwise_leads source).filterMap _ ?_
    intro a b h c hc d hd
    cases a <;> cases hc
    cases b <;> cases hd
    exact h.disjoint_or_encloses
  refine leads.filterMap _ ?_
  intro c d h a ha b hb
  obtain ⟨_, -, rfl⟩ := Option.map_eq_some_iff.1 ha
  obtain ⟨_, -, rfl⟩ := Option.map_eq_some_iff.1 hb
  exact h

end SyntaxTree

/-! ## On the wire -/

namespace Editor

/-- Whether a range lies in another. -/
structure Range.Within (inner outer : Range) : Prop where
  start_le : outer.start ≤ inner.start
  ordered : inner.start ≤ inner.stop
  stop_le : inner.stop ≤ outer.stop

theorem Range.ofSpan_within {text : String} (short : text.utf8ByteSize < 2 ^ 32)
    {inner outer : Span} (h : outer.Encloses inner) (proper : inner.start ≤ inner.stop) :
    (ofSpan (LineIndex.ofText text) inner).Within (ofSpan (LineIndex.ofText text) outer) :=
  ⟨Position.ofPosition_mono short h.1, Position.ofPosition_mono short proper,
    Position.ofPosition_mono short h.2⟩

namespace DocumentSymbol

/-- Whether siblings are in order and none of them reaches into the next. -/
def SideBySide (siblings : List DocumentSymbol) : Prop :=
  siblings.Pairwise fun a b => a.range.stop ≤ b.range.start

/-- Whether an entry selects something in its range and holds its children in it, side by side. -/
structure Nested (entry : DocumentSymbol) : Prop where
  selection : entry.selectionRange.Within entry.range
  children : ∀ child ∈ entry.children, child.range.Within entry.range
  siblings : SideBySide entry.children

theorem ofSymbols_eq_map (index : LineIndex) (symbols : List Symbol) :
    ofSymbols index symbols = symbols.map (ofSymbol index) := by
  induction symbols with
  | nil => rfl
  | cons s rest ih => rw [ofSymbols, ih, List.map_cons]

end DocumentSymbol

end Editor

/-! ## The outline of a document -/

namespace Session

open Editor DocumentSymbol

variable {text : String}

/-- A forest of symbols of a text is sent side by side. -/
theorem forest_sent_sideBySide (short : text.utf8ByteSize < 2 ^ 32) {symbols : List Symbol}
    (sublist : symbols.Sublist (SyntaxTree.ofSource text).entries) :
    SideBySide (ofSymbols (LineIndex.ofText text) (Symbol.forest symbols)) := by
  have proper : ∀ s ∈ symbols, s.span.start ≤ s.span.stop := by
    intro s hs
    obtain ⟨node, mem, -, same, -⟩ := SyntaxTree.exists_node_of_mem_entries (sublist.subset hs)
    rw [same]
    exact Nat.le_of_lt (SyntaxTree.node_nonempty mem)
  have apart := Symbol.forest_sideBySide
    ((SyntaxTree.entries_pairwise_leads text).sublist sublist) proper
  rw [SideBySide, ofSymbols_eq_map, List.pairwise_map]
  refine apart.imp fun {a b} h => ?_
  simp only [range_ofSymbol]
  exact Position.ofPosition_mono short h

/-- An entry of the outline of a text is properly nested. -/
theorem entry_nested (short : text.utf8ByteSize < 2 ^ 32) {entry : DocumentSymbol}
    (h : entry ∈ entries (ofSymbols (LineIndex.ofText text) (SyntaxTree.ofSource text).outline)) :
    entry.Nested := by
  obtain ⟨s, mem, inside, sublist, enclosed, rfl⟩ := exists_symbol_of_mem h
  refine ⟨?selection, ?children, forest_sent_sideBySide short sublist⟩
  case selection =>
    obtain ⟨node, mem, -, span, selection⟩ := SyntaxTree.exists_node_of_mem_entries mem
    obtain ⟨encloses, nonempty⟩ := SyntaxTree.encloses_identifier mem
    simp only [range_ofSymbol, selectionRange_ofSymbol, span, selection]
    exact Range.ofSpan_within short encloses (Nat.le_of_lt nonempty)
  case children =>
    intro child hchild
    simp only [children_ofSymbol, ofSymbols_eq_map, List.mem_map] at hchild
    obtain ⟨root, hroot, rfl⟩ := hchild
    obtain ⟨t, ht, same⟩ := Symbol.exists_mem_of_mem_forest hroot
    obtain ⟨node, mem, -, span, -⟩ := SyntaxTree.exists_node_of_mem_entries (sublist.subset ht)
    have proper := Nat.le_of_lt (SyntaxTree.node_nonempty mem)
    simp only [range_ofSymbol, same]
    exact Range.ofSpan_within short (enclosed t ht) (span ▸ proper)

/-- The outline of an open document shorter than `2 ^ 32` bytes is properly nested. Every entry, at
any depth, selects a part of its own range and holds its children in that range, and both the
outermost entries and the children of each entry are in order and do not overlap. -/
theorem outline_nested (s : Session) (uri : String) (short : text.utf8ByteSize < 2 ^ 32)
    (stored : s.documents.get? uri = some text) :
    ∃ symbols, (s.step (.symbols uri)).reply = .symbols symbols ∧ SideBySide symbols ∧
      ∀ entry ∈ entries symbols, entry.Nested := by
  refine ⟨_, reply_query stored _ _, ?_, fun entry mem => entry_nested short mem⟩
  exact forest_sent_sideBySide short (.refl _)

/-- A class that holds a field. -/
theorem outline_nested_of_class_with_field :
    let text := "class A \x7b int b; \x7d"
    let s := ((start default).step (.didOpen "A.java" text 1)).session
    text.utf8ByteSize < 2 ^ 32 ∧ s.documents.get? "A.java" = some text ∧
      ∃ symbols, (s.step (.symbols "A.java")).reply = .symbols symbols ∧
        symbols.map (fun entry => (entry.name, entry.children.map (·.name))) = [("A", ["b"])] ∧
        SideBySide symbols ∧ ∀ entry ∈ entries symbols, entry.Nested := by
  intro text s
  have short : text.utf8ByteSize < 2 ^ 32 := by decide +kernel
  have stored : s.documents.get? "A.java" = some text := Documents.get?_put_self ..
  have recorded : (Grammar.read (tokenize text).tokens text.utf8ByteSize).nodes.toList =
      [.declaration ⟨.class, ⟨"A", 6, 7⟩, 0, 18⟩,
        .declaration ⟨.field, ⟨"b", 14, 15⟩, 14, 15⟩] := by
    decide +kernel
  have nodes : (SyntaxTree.ofSource text).nodes = _ :=
    (List.mergeSort_of_pairwise (by rw [recorded]; decide)).trans recorded
  obtain ⟨symbols, reply, siblings, nested⟩ := outline_nested s "A.java" short stored
  refine ⟨short, stored, symbols, reply, ?_, siblings, nested⟩
  have sent := (reply_query stored .none symbolsReply).symm.trans reply
  obtain rfl : _ = symbols := Reply.symbols.inj sent
  simp [SyntaxTree.outline, SyntaxTree.entries, SyntaxTree.declarations, nodes,
    Node.declaration?, Symbol.ofDeclaration?, Symbol.Kind.ofFlavor?, Symbol.forest, Span.Encloses,
    ofSymbols_eq_map, ofSymbol]

end Session

end JavaLens
