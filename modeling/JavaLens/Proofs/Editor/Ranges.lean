import Mathlib.Data.List.Forall2
import JavaLens.Proofs.Position.Order
import JavaLens.Proofs.Session.Publications
import JavaLens.Proofs.SyntaxTree.Spans

/-!
# The ranges that an editor is sent

Spans leave the library as ranges of lines and columns. A range is read back by converting its two
ends to offsets, and in a text that is short enough this gives the span that was sent. So a
diagnostic covers its problem, and the ranges in the answers to queries cover the names that the
answers are about.

## Main definitions

* `Editor.Range.decode` — the span that a range stands for in a text.
* `Editor.DocumentSymbol.entries` — all entries of an outline, at every depth.

## Main statements

* `Editor.Range.decode_ofSpan` — a range stands for the span that it was made from.
* `Editor.DocumentSymbol.exists_symbol_of_mem` — what an entry at any depth was made from.
* `Session.ranges_decode` — what the ranges of publications and replies stand for.
-/

namespace JavaLens

/-! ## The order of positions -/

/-- Positions on the wire are ordered as those that they stand for. -/
instance : LE Editor.Position := ⟨fun p q => p.toPosition ≤ q.toPosition⟩

variable {text : String}

/-- Positions on the wire are in the order of the offsets, in a text that is short enough. -/
theorem Editor.Position.ofPosition_mono (short : text.utf8ByteSize < 2 ^ 32) {a b : Nat}
    (h : a ≤ b) : ofPosition (positionOf text a) ≤ ofPosition (positionOf text b) := by
  change (ofPosition (positionOf text a)).toPosition ≤ (ofPosition (positionOf text b)).toPosition
  rw [toPosition_ofPosition short, toPosition_ofPosition short]
  exact key_positionOf_le h

/-! ## Reading ranges back -/

namespace Editor.Range

/-- The span that a range stands for in a text. -/
def decode (text : String) (r : Range) : Span := ⟨offsetAt text r.start, offsetAt text r.stop⟩

variable {span : Span}

/-- A range stands for the span that it was made from. -/
theorem decode_ofSpan (short : text.utf8ByteSize < 2 ^ 32) (h : span.WellFormed text) :
    (ofSpan (LineIndex.ofText text) span).decode text = span := by
  have back {offset : Nat} (boundary : (⟨offset⟩ : String.Pos.Raw).IsValid text) :
      offsetAt text (.ofPosition (positionOf text offset)) = offset := by
    obtain ⟨before, after, cut⟩ := exists_cutAt text offset
    rw [offsetAt, Position.toPosition_ofPosition short, offsetOf_positionOf cut]
    exact eq_of_isGreatest (isGreatest_utf8Len cut) boundary
  have start := back h.start_boundary
  have stop := back h.stop_boundary
  exact congrArg₂ Span.mk start stop

/-- A range is not inverted. -/
theorem ofSpan_ordered (short : text.utf8ByteSize < 2 ^ 32) (h : span.start ≤ span.stop) :
    (ofSpan (LineIndex.ofText text) span).start ≤ (ofSpan (LineIndex.ofText text) span).stop :=
  Position.ofPosition_mono short h

end Editor.Range

/-! ## The names of a tree -/

namespace SyntaxTree

variable {node : Node} {d : Declaration} {problem : Problem}

open Grammar

/-- The name of a node is the piece of the text at its place. -/
theorem identifier_marks (h : node ∈ (ofSource text).nodes) :
    node.identifier.span.Marks text node.identifier.text := by
  obtain ⟨m, rfl, within⟩ := exists_mention_of_mem h
  rw [Mention.identifier_node]
  exact tokenize_tokens_marks (tokenAt_mem (Nat.lt_of_le_of_lt within.name_le within.last_lt))

theorem problem_wellFormed (h : problem ∈ (ofSource text).problems) :
    problem.span.WellFormed text := by
  obtain ⟨finding, hfinding, hspan⟩ | spanned := problem_span_cases h
  · exact hspan ▸ tokenize_findings_wellFormed hfinding
  · exact spanned.wellFormed

theorem mem_of_foldl_innermost {nodes : List Node} {best : Option Node}
    (h : nodes.foldl innermost best = some node) : best = some node ∨ node ∈ nodes := by
  induction nodes generalizing best with
  | nil => exact .inl h
  | cons first nodes ih =>
    obtain h | h := ih h
    · unfold innermost at h
      grind
    · exact .inr (List.mem_cons_of_mem _ h)

theorem mem_of_nodeAt? {t : SyntaxTree} {offset : Nat} (h : t.nodeAt? offset = some node) :
    node ∈ t.nodes := by
  obtain h | h := mem_of_foldl_innermost h
  · nomatch h
  · exact (List.mem_filter.1 h).1

theorem mem_declarations_iff {t : SyntaxTree} : d ∈ t.declarations ↔ .declaration d ∈ t.nodes := by
  simp only [declarations, List.mem_filterMap]
  constructor
  · rintro ⟨node | _, mem, h⟩
    · cases h
      exact mem
    · nomatch h
  · exact fun h => ⟨_, h, rfl⟩

/-- An entry is made from a node: it has its name and lies where it lies. -/
theorem exists_node_of_mem_entries {t : SyntaxTree} {s : Symbol} (h : s ∈ t.entries) :
    ∃ node ∈ t.nodes, s.name = node.identifier.text ∧ s.span = node.span ∧
      s.selection = node.identifier.span := by
  obtain ⟨d, declared, made⟩ := List.mem_filterMap.1 h
  obtain ⟨kind, -, rfl⟩ := Option.map_eq_some_iff.1 made
  exact ⟨.declaration d, mem_declarations_iff.1 declared, rfl, rfl, rfl⟩

theorem mem_of_firstDeclaration? {t : SyntaxTree} {name : String}
    (h : t.firstDeclaration? name = some d) : .declaration d ∈ t.nodes ∧ d.name.text = name := by
  refine ⟨mem_declarations_iff.1 (List.mem_of_find?_eq_some h), ?_⟩
  simpa using List.find?_some h

end SyntaxTree

/-! ## The entries of an outline -/

namespace Editor.DocumentSymbol

/-- All entries of an outline: each with those inside it, at every depth. -/
def entries : List DocumentSymbol → List DocumentSymbol
  | [] => []
  | ⟨name, detail, kind, range, selectionRange, children⟩ :: rest =>
    ⟨name, detail, kind, range, selectionRange, children⟩ :: entries children ++ entries rest

variable {index : LineIndex} {symbols : List Symbol} {entry : DocumentSymbol}

@[simp] theorem name_ofSymbol (index : LineIndex) (s : Symbol) :
    (ofSymbol index s).name = s.name := by
  cases s
  rfl

@[simp] theorem range_ofSymbol (index : LineIndex) (s : Symbol) :
    (ofSymbol index s).range = .ofSpan index s.span := by
  cases s
  rfl

@[simp] theorem selectionRange_ofSymbol (index : LineIndex) (s : Symbol) :
    (ofSymbol index s).selectionRange = .ofSpan index s.selection := by
  cases s
  rfl

@[simp] theorem children_ofSymbol (index : LineIndex) (s : Symbol) :
    (ofSymbol index s).children = ofSymbols index s.children := by
  cases s
  rfl

/-- An entry at any depth was made from one of the symbols, and holds the forest of some symbols
that this one encloses. -/
theorem exists_symbol_of_mem (h : entry ∈ entries (ofSymbols index (Symbol.forest symbols))) :
    ∃ s ∈ symbols, ∃ inside : List Symbol, inside.Sublist symbols ∧
      (∀ t ∈ inside, s.span.Encloses t.span) ∧
      entry = ofSymbol index { s with children := Symbol.forest inside } := by
  fun_induction Symbol.forest symbols with
  | case1 => simp [ofSymbols, entries] at h
  | case2 symbol rest inside behind ihInside ihBehind =>
    have within : inside.Sublist rest := List.takeWhile_sublist _
    have beyond : behind.Sublist rest := List.dropWhile_sublist _
    simp only [ofSymbols, ofSymbol, entries, List.cons_append, List.mem_cons, List.mem_append] at h
    rcases h with rfl | h | h
    · refine ⟨symbol, .head _, inside, within.cons _, fun t ht => ?_, rfl⟩
      simpa using List.mem_takeWhile_imp ht
    · obtain ⟨s, mem, held, sublist, spec⟩ := ihInside h
      exact ⟨s, .tail _ (within.subset mem), held, (sublist.trans within).cons _, spec⟩
    · obtain ⟨s, mem, held, sublist, spec⟩ := ihBehind h
      exact ⟨s, .tail _ (beyond.subset mem), held, (sublist.trans beyond).cons _, spec⟩

end Editor.DocumentSymbol

/-! ## Publications and replies -/

namespace Session

open Editor (offsetAt)

variable {s : Session} {uri : String} {position : Editor.Position}

/-- Whether a diagnostic tells an editor about a problem of a text. -/
structure Describes (text : String) (problem : Problem) (d : Editor.Diagnostic) : Prop where
  decoded : d.range.decode text = problem.span
  ordered : d.range.start ≤ d.range.stop
  severity : d.severity = problem.severity
  message : d.message = problem.message

/-- The problems of a text that are published. -/
def reported (settings : Settings.Diagnostics) (text : String) : List Problem :=
  (SyntaxTree.ofSource text).problems.filter fun problem =>
    settings.publishWarnings || problem.isError

theorem describes_diagnostics (short : text.utf8ByteSize < 2 ^ 32)
    (settings : Settings.Diagnostics) :
    List.Forall₂ (Describes text) (reported settings text)
      ((SyntaxTree.ofSource text).diagnostics text settings) := by
  rw [SyntaxTree.diagnostics, reported, List.forall₂_map_right_iff, List.forall₂_same]
  intro problem mem
  have wellFormed := SyntaxTree.problem_wellFormed (List.mem_filter.1 mem).1
  exact ⟨Editor.Range.decode_ofSpan short wellFormed,
    Editor.Range.ofSpan_ordered short wellFormed.ordered, rfl, rfl⟩

/-- The reply to a query about an open document. -/
theorem reply_query (stored : s.documents.get? uri = some text) (absent : Reply)
    (answer : String → SyntaxTree → Reply) :
    (s.query uri absent answer).reply = answer text (SyntaxTree.ofSource text) := by
  rw [query, stored]

/-- What the range of a name covers. -/
theorem slice_decode_name (short : text.utf8ByteSize < 2 ^ 32) {node : Node}
    (h : node ∈ (SyntaxTree.ofSource text).nodes) :
    ((Editor.Range.ofSpan (LineIndex.ofText text) node.identifier.span).decode text).slice text =
      node.identifier.text := by
  have marks := SyntaxTree.identifier_marks h
  rw [Editor.Range.decode_ofSpan short marks.wellFormed, marks.slice_eq]

theorem hoverReply_decodes (short : text.utf8ByteSize < 2 ^ 32) {contents : String}
    {range : Editor.Range}
    (h : hoverReply position text (SyntaxTree.ofSource text) = .hover contents range) :
    ∃ kind : Declaration.Kind, ∃ name,
      (SyntaxTree.ofSource text).identifierAt? (offsetAt text position) = some name ∧
      contents = kind.text ++ " " ++ name.text ∧ (range.decode text).slice text = name.text := by
  unfold hoverReply SyntaxTree.hover? at h
  cases hnode : (SyntaxTree.ofSource text).nodeAt? (offsetAt text position) with
  | none => simp [hnode] at h
  | some node =>
    cases hkind : (SyntaxTree.ofSource text).kindOf? node with
    | none => simp [hnode, hkind] at h
    | some kind =>
      simp only [hnode, hkind, Option.bind_eq_bind, Option.bind_some, Option.pure_def,
        Reply.hover.injEq] at h
      obtain ⟨rfl, rfl⟩ := h
      exact ⟨kind, node.identifier, by simp [SyntaxTree.identifierAt?, hnode], rfl,
        slice_decode_name short (SyntaxTree.mem_of_nodeAt? hnode)⟩

theorem definitionReply_decodes (short : text.utf8ByteSize < 2 ^ 32) {target : String}
    {range : Editor.Range}
    (h : definitionReply uri position text (SyntaxTree.ofSource text) = .location target range) :
    target = uri ∧ ∃ name,
      (SyntaxTree.ofSource text).identifierAt? (offsetAt text position) = some name ∧
      (range.decode text).slice text = name.text := by
  unfold definitionReply SyntaxTree.definition? at h
  cases hname : (SyntaxTree.ofSource text).identifierAt? (offsetAt text position) with
  | none => simp [hname] at h
  | some name =>
    cases hfirst : (SyntaxTree.ofSource text).firstDeclaration? name.text with
    | none => simp [hname, hfirst] at h
    | some declared =>
      simp only [hname, hfirst, Option.bind_eq_bind, Option.bind_some, Reply.location.injEq] at h
      obtain ⟨rfl, rfl⟩ := h
      obtain ⟨mem, same⟩ := SyntaxTree.mem_of_firstDeclaration? hfirst
      exact ⟨rfl, name, rfl, (slice_decode_name short mem).trans same⟩

theorem outline_decodes (short : text.utf8ByteSize < 2 ^ 32) {entry : Editor.DocumentSymbol}
    (mem : entry ∈ Editor.DocumentSymbol.entries (Editor.DocumentSymbol.ofSymbols
      (LineIndex.ofText text) (SyntaxTree.ofSource text).outline)) :
    (entry.selectionRange.decode text).slice text = entry.name := by
  obtain ⟨symbol, hsymbol, inside, -, -, rfl⟩ := Editor.DocumentSymbol.exists_symbol_of_mem mem
  obtain ⟨node, hnode, name, -, selection⟩ := SyntaxTree.exists_node_of_mem_entries hsymbol
  simp only [Editor.DocumentSymbol.name_ofSymbol, Editor.DocumentSymbol.selectionRange_ofSymbol,
    name, selection]
  exact slice_decode_name short hnode

/-- The ranges that are sent about a text shorter than `2 ^ 32` bytes stand for what they describe.
The diagnostics that are published for it tell of its problems, one by one and in order, each with
the span of its problem. What is hovered over is named by the piece of the text in the range of the
reply, a definition is a place where the name asked for stands, and every entry of an outline
selects its name. -/
theorem ranges_decode (s : Session) (uri : String) (short : text.utf8ByteSize < 2 ^ 32) :
    (∀ message, ∀ p ∈ s.publishedTo uri message,
      (s.step message).session.documents.get? uri = some text →
      List.Forall₂ (Describes text) (reported s.settings.diagnostics text) p.diagnostics) ∧
    (s.documents.get? uri = some text →
      (∀ position contents range,
        (s.step (.hover uri position)).reply = .hover contents range →
        ∃ kind : Declaration.Kind, ∃ name,
          (SyntaxTree.ofSource text).identifierAt? (offsetAt text position) = some name ∧
          contents = kind.text ++ " " ++ name.text ∧
          (range.decode text).slice text = name.text) ∧
      (∀ position target range,
        (s.step (.definition uri position)).reply = .location target range →
        target = uri ∧ ∃ name,
          (SyntaxTree.ofSource text).identifierAt? (offsetAt text position) = some name ∧
          (range.decode text).slice text = name.text) ∧
      ∀ symbols, (s.step (.symbols uri)).reply = .symbols symbols →
        ∀ entry ∈ Editor.DocumentSymbol.entries symbols,
          (entry.selectionRange.decode text).slice text = entry.name) := by
  refine ⟨fun message p told stored => ?_, fun stored => ⟨?_, ?_, ?_⟩⟩
  · cases effect s uri message with
    | written current _ _ now sent | repeated current _ _ now sent =>
      obtain rfl : text = current := Option.some.inj (stored.symm.trans now)
      obtain rfl := List.mem_singleton.1 (sent ▸ told)
      exact describes_diagnostics short _
    | withdrawn _ now | ended _ now => exact absurd (stored.symm.trans now) (by simp)
    | spared _ _ silent => simp [silent] at told
  · intro position contents range h
    exact hoverReply_decodes short ((reply_query stored _ _).symm.trans h)
  · intro position target range h
    exact definitionReply_decodes short ((reply_query stored _ _).symm.trans h)
  · intro symbols h entry mem
    have reply := (reply_query stored _ _).symm.trans h
    rw [symbolsReply, Reply.symbols.injEq] at reply
    exact outline_decodes short (reply ▸ mem)

/-- A class without a body is published with a diagnostic that covers its name, of two bytes. -/
theorem ranges_decode_of_bodiless_class :
    let text := "class É"
    let told := (start default).publishedTo "A.java" (.didOpen "A.java" text 1)
    text.utf8ByteSize < 2 ^ 32 ∧
      ∃ p ∈ told, ∃ d ∈ p.diagnostics, d.range.decode text = ⟨6, 8⟩ := by
  intro text told
  have short : text.utf8ByteSize < 2 ^ 32 := by decide +kernel
  have mem : ⟨"A.java", diagnose (start default) text, some 1⟩ ∈ told := by
    simp [told, publishedTo, step, store]
  have describes := (ranges_decode (start default) "A.java" short).1 _ _ mem
    (Documents.get?_put_self ..)
  have problem :
      ⟨.error, "Syntax error, insert \"ClassBody\" to complete TypeDeclaration", ⟨6, 8⟩⟩ ∈
        reported (start default).settings.diagnostics text :=
    List.mem_filter.2 ⟨SyntaxTree.mem_problems_iff.2 (by decide +kernel), rfl⟩
  obtain ⟨i, hi, hproblem⟩ := List.getElem_of_mem problem
  have hi' : i < (diagnose (start default) text).length := describes.length_eq ▸ hi
  exact ⟨short, _, mem, _, List.getElem_mem hi',
    (describes.get hi hi').decoded.trans (congrArg Problem.span hproblem)⟩

end Session

end JavaLens
