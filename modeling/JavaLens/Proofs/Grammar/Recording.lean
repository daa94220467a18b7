import JavaLens.Proofs.Grammar.Progress
import JavaLens.Proofs.Tokenization.Words

/-!
# Recording

A reading in which all goes well: it moves over certain words, reports nothing, and opens certain
declarations one behind the other. What the grammar decides on the way depends on the words ahead
only, so such a reading is known from them.

## Main definitions

* `State.ahead` — the words from the cursor on.
* `State.heads` — what the declarations are opened with, which does not change any more.
* `Records` — a reading over given words that opens given declarations and reports nothing.

## Main statements

* `peekAt_eq`, `spells_eq` — what the grammar sees, by the words ahead.
* `Records.trans`, `Records.again`, `Records.stop` — readings one behind the other, and loops.
* `Records.openDeclaration` — the declaration behind some modifiers and a type is opened.
-/

namespace JavaLens

/-- What a declaration introduces, under which name, and where it starts. -/
def Declaration.head (d : Declaration) : (Flavor × String) × Nat :=
  ((d.flavor, d.name.text), d.span.start)

namespace Grammar

/-- The words from the cursor on. -/
def State.ahead (s : State) : List Word := (s.tokens.toList.drop s.cursor).map Token.word

/-- What the declarations recorded so far are opened with. -/
def State.heads (s : State) : List ((Flavor × String) × Nat) :=
  s.nodes.toList.filterMap fun node => node.declaration?.map Declaration.head

/-- A declaration by the indices of its first token and of its name. -/
structure Opening where
  declared : Flavor × String
  first : Nat
  name : Nat

/-- What a declaration is recorded with when it is opened. -/
def Opening.head (tokens : Array Token) (o : Opening) : (Flavor × String) × Nat :=
  (o.declared, min (tokenAt tokens o.first).span.start (tokenAt tokens o.name).span.start)

/-- Declarations that are opened one behind the other, between two tokens. -/
structure Openings (i j : Nat) (os : List Opening) : Prop where
  ordered : os.Pairwise (·.first < ·.first)
  within : ∀ o ∈ os, i ≤ o.first ∧ o.first ≤ o.name ∧ o.name < j

/-- The reading from `s` to `t` moves over the words `ws`, opens the declarations `ds` in this order
and reports nothing. -/
structure Records (ws : List Word) (ds : List (Flavor × String)) (s t : State) : Prop where
  tokens : t.tokens = s.tokens
  depth : t.depth = s.depth
  findings : t.findings = s.findings
  imports : t.imports = s.imports
  ahead : s.ahead = ws ++ t.ahead
  cursor : t.cursor = s.cursor + ws.length
  opened : ∃ os, os.map Opening.declared = ds ∧ Openings s.cursor t.cursor os ∧
    t.heads = s.heads ++ os.map (Opening.head s.tokens)

variable {s t u : State} {w : Word} {ws ws' others : List Word} {ds ds' : List (Flavor × String)}

/-! ## Looking at the words ahead -/

theorem word_tokenAt? (s : State) (n : Nat) : (s.tokenAt? n).map Token.word = s.ahead[n]? := by
  simp [State.tokenAt?, State.ahead]

theorem peekAt_eq (s : State) (n : Nat) : s.peekAt n = s.ahead[n]?.map Word.kind := by
  rw [← word_tokenAt?, State.peekAt, Option.map_map]
  rfl

theorem spells_eq (s : State) (n : Nat) (kind : Token.Kind) (text : String) :
    s.spells n kind text = (s.ahead[n]? == some ⟨kind, text⟩) := by
  rw [← word_tokenAt?, State.spells, Bool.eq_iff_iff]
  cases s.tokenAt? n <;> simp [Token.word]

theorem ahead_advance (h : s.ahead = ws ++ others) : (s.advance ws.length).ahead = others := by
  have : (s.advance ws.length).ahead = s.ahead.drop ws.length := by
    simp [State.ahead, State.advance, List.map_drop]
  rw [this, h, List.drop_left]

theorem peek_of_ahead (h : s.ahead = w :: others) : s.peek = some w.kind := by
  rw [State.peek, peekAt_eq, h]
  rfl

theorem peek_of_ahead_nil (h : s.ahead = []) : s.peek = none := by
  rw [State.peek, peekAt_eq, h]
  rfl

theorem sees_of_ahead (h : s.ahead = w :: others) (kind : Token.Kind) :
    s.sees kind = (w.kind == kind) := by
  rw [State.sees, peek_of_ahead h]
  rfl

theorem sees_head (h : s.ahead = w :: others) : s.sees w.kind := by
  rw [sees_of_ahead h, beq_self_eq_true]

theorem not_sees_of_ahead (h : s.ahead = w :: others) {kind : Token.Kind} (hw : w.kind ≠ kind) :
    ¬ s.sees kind := by
  rwa [sees_of_ahead h, beq_iff_eq]

theorem identifier?_of_ahead (h : s.ahead = w :: others) (hw : w.kind = .ident) :
    s.identifier? = some (identifierAt s.tokens s.cursor, s.advance 1) :=
  identifier?_eq_some_iff.2 ⟨hw ▸ peek_of_ahead h, rfl, rfl⟩

theorem identifier?_eq_none (h : s.ahead = w :: others) (hw : w.kind ≠ .ident) :
    s.identifier? = none := by
  refine Option.eq_none_iff_forall_ne_some.2 fun (name, t) heq => hw ?_
  have := (identifier?_eq_some_iff.1 heq).1
  rwa [peek_of_ahead h, Option.some_inj] at this

theorem tokenAt_of_ahead (h : s.ahead = w :: others) : (tokenAt s.tokens s.cursor).word = w := by
  have : (s.tokens[s.cursor]?).map Token.word = some w := by
    simpa only [State.tokenAt?, Nat.add_zero, h, List.getElem?_cons_zero] using word_tokenAt? s 0
  obtain ⟨token, htoken, hw⟩ := Option.map_eq_some_iff.1 this
  rw [tokenAt, htoken]
  exact hw

theorem currentStart_of_ahead (h : s.ahead = w :: others) :
    s.currentStart = (tokenAt s.tokens s.cursor).span.start := by
  have hlt := lt_size_of_peek (peek_of_ahead h)
  simp [State.currentStart, State.tokenAt?, tokenAt, hlt]

theorem start_identifierAt (h : s.ahead = w :: others) :
    (identifierAt s.tokens s.cursor).span.start = s.currentStart := (currentStart_of_ahead h).symm

/-! ## Readings one behind the other -/

theorem Openings.append {i j k : Nat} {os os' : List Opening} (h : Openings i j os)
    (h' : Openings j k os') (hij : i ≤ j) (hjk : j ≤ k) : Openings i k (os ++ os') where
  ordered := by
    refine List.pairwise_append.2 ⟨h.ordered, h'.ordered, fun o ho o' ho' => ?_⟩
    have := h.within o ho
    have := h'.within o' ho'
    omega
  within o ho := by
    obtain ho | ho := List.mem_append.1 ho
    · have := h.within o ho
      omega
    · have := h'.within o ho
      omega

namespace Records

/-- A reading that opens no declaration. -/
theorem of_heads (tokens : t.tokens = s.tokens) (depth : t.depth = s.depth)
    (findings : t.findings = s.findings) (imports : t.imports = s.imports)
    (ahead : s.ahead = ws ++ t.ahead) (cursor : t.cursor = s.cursor + ws.length)
    (heads : t.heads = s.heads) : Records ws [] s t :=
  ⟨tokens, depth, findings, imports, ahead, cursor, [], rfl, ⟨.nil, by simp⟩, by simp [heads]⟩

theorem refl (s : State) : Records [] [] s s := of_heads rfl rfl rfl rfl rfl rfl rfl

theorem trans (h : Records ws ds s t) (h' : Records ws' ds' t u) :
    Records (ws ++ ws') (ds ++ ds') s u := by
  obtain ⟨os, hos, opened, heads⟩ := h.opened
  obtain ⟨os', hos', opened', heads'⟩ := h'.opened
  refine
    { tokens := h'.tokens.trans h.tokens
      depth := h'.depth.trans h.depth
      findings := h'.findings.trans h.findings
      imports := h'.imports.trans h.imports
      ahead := by rw [h.ahead, h'.ahead, List.append_assoc]
      cursor := by rw [h'.cursor, h.cursor, List.length_append, Nat.add_assoc]
      opened := ⟨os ++ os', ?_, ?_, ?_⟩ }
  · rw [List.map_append, hos, hos']
  · exact opened.append opened' (h.cursor ▸ Nat.le_add_right ..) (h'.cursor ▸ Nat.le_add_right ..)
  · rw [heads', heads, h.tokens, List.map_append, List.append_assoc]

theorem cast (h : Records ws ds s t) (hws : ws = ws') (hds : ds = ds') : Records ws' ds' s t :=
  hws ▸ hds ▸ h

/-- The words behind those that are read. -/
theorem rest (h : Records ws ds s t) (hs : s.ahead = ws ++ others) : t.ahead = others :=
  List.append_cancel_left (h.ahead.symm.trans hs)

theorem rest_cons (h : Records [w] ds s t) (hs : s.ahead = w :: others) : t.ahead = others :=
  h.rest hs

/-! ## Moving -/

theorem advance (ws : List Word) (h : s.ahead = ws ++ others) :
    Records ws [] s (s.advance ws.length) :=
  of_heads rfl rfl rfl rfl (by rw [ahead_advance h, h]) rfl rfl

theorem bump (h : s.ahead = w :: others) : Records [w] [] s s.bump := by
  rw [bump_eq (peek_of_ahead h)]
  exact advance [w] h

theorem eat (h : s.ahead = w :: others) : Records [w] [] s (s.eat w.kind) := by
  rw [State.eat, if_pos (sees_head h)]
  exact bump h

theorem expect (h : s.ahead = w :: others) (symbol : Missing) (construct : Construct) :
    Records [w] [] s (s.expect w.kind symbol construct) := by
  rw [State.expect, if_pos (sees_head h)]
  exact bump h

/-- A step that has moved needs no guard. -/
theorem guarded_eq_step {step : State → State} (h : Records (w :: ws) ds s (step s)) :
    guarded step s = step s := by
  have := h.cursor
  rw [List.length_cons] at this
  rw [guarded_eq, if_neg (by omega)]

/-- Where the reading may go deeper, it does. -/
theorem descend {region flat : State → State} (hdepth : s.depth < maxNesting)
    (h : Records ws ds { s with depth := s.depth + 1 } (region { s with depth := s.depth + 1 })) :
    Records ws ds s (descend region flat s) := by
  rw [Grammar.descend, enter?_eq_some_iff.2 ⟨hdepth, rfl⟩]
  refine { h with depth := ?_ }
  simp [State.leave, h.depth]

/-! ## Recording -/

theorem reference (h : s.ahead = w :: others) (hw : w.kind = .ident) :
    Records [w] [] s s.reference := by
  have read := advance [w] h
  rw [State.reference, identifier?_of_ahead h hw]
  refine { read with opened := ⟨[], rfl, ⟨.nil, by simp⟩, ?_⟩ }
  simp [State.heads, State.advance, Node.declaration?]

/-- The name behind the words `ws` is declared, from the first of them on. -/
theorem openDeclaration (h : Records ws [] s t) (ht : t.ahead = w :: others) (flavor : Flavor) :
    Records (ws ++ [w]) [(flavor, w.text)] s ((t.advance 1).openDeclaration flavor
      (identifierAt t.tokens t.cursor) s.currentStart).2 := by
  have read := h.trans (advance [w] ht)
  obtain ⟨first, rest', hs⟩ : ∃ first rest', s.ahead = first :: rest' := by
    rw [h.ahead, ht]
    cases ws <;> simp
  obtain ⟨os, hos, _, heads⟩ := h.opened
  rw [List.map_eq_nil_iff.1 hos, List.map_nil, List.append_nil] at heads
  refine { read with opened := ⟨[⟨(flavor, w.text), s.cursor, t.cursor⟩], rfl, ⟨?_, ?_⟩, ?_⟩ }
  · exact List.pairwise_singleton ..
  · have := h.cursor
    simp [State.openDeclaration, State.advance]
    omega
  · have htext : (tokenAt s.tokens t.cursor).text = w.text :=
      h.tokens ▸ congrArg Word.text (tokenAt_of_ahead ht)
    rw [currentStart_of_ahead hs, ← heads]
    simp [State.heads, State.openDeclaration, State.advance, Node.declaration?, Declaration.head,
      Opening.head, identifierAt, htext, h.tokens]

/-- To extend a declaration changes nothing in what it was opened with. -/
theorem closeDeclaration (s : State) (index : Nat) :
    Records [] [] s (s.closeDeclaration index) := by
  refine of_heads rfl rfl rfl rfl rfl rfl ?_
  have same (nodes : List Node) (stop : Nat) :
      (nodes.modify index (Node.extendTo stop)).filterMap
        (fun node => node.declaration?.map Declaration.head) =
      nodes.filterMap fun node => node.declaration?.map Declaration.head := by
    induction nodes generalizing index with
    | nil => simp
    | cons node nodes ih =>
      cases index with
      | zero => cases node <;> rfl
      | succ index => simp [List.filterMap_cons, ih]
  rw [State.heads, State.closeDeclaration, Array.toList_modify, same, State.heads]

/-! ## Loops -/

section Loops

variable {α : Type} {turn : α → State → Turn α} {v : α}

/-- A turn that asks for another one, and what the loop reads from there. -/
theorem again (first : Records ws ds s t) (h : Advances turn) (v' : α)
    (hturn : turn v s = .again v' t)
    (next : Records ws' ds' t (repeatWhile turn v' t).2) :
    Records (ws ++ ws') (ds ++ ds') s (repeatWhile turn v s).2 := by
  rw [h.repeatWhile_eq, hturn]
  exact first.trans next

/-- The last turn. -/
theorem stop (last : Records ws ds s t) (h : Advances turn) (v' : α)
    (hturn : turn v s = .stop v' t) :
    Records ws ds s (repeatWhile turn v s).2 := by
  rw [h.repeatWhile_eq, hturn]
  exact last

end Loops

end Records

section Loops

variable {condition : State → Bool} {step : State → State}

theorem whileSeen_of_seen (h : Advances (whileTurn condition step)) (hs : condition s) :
    whileSeen condition step s = whileSeen condition step (step s) := by
  rw [whileSeen, h.repeatWhile_eq, whileTurn, if_pos hs]
  rfl

theorem whileSeen_of_not_seen (h : Advances (whileTurn condition step))
    (hs : condition s = false) : whileSeen condition step s = s := by
  rw [whileSeen, h.repeatWhile_eq, whileTurn, hs, if_neg Bool.false_ne_true]

end Loops

end Grammar

end JavaLens
