import JavaLens.Proofs.Grammar.Layout
import JavaLens.Proofs.Grammar.Recording

/-!
# Two token lists with the same words

What the grammar decides depends on the words of the tokens only, and what it records is placed by
tokens. When the same words stand in two token lists, at the same or at different places, a state in
one of them has a counterpart in the other that sees the same, and what is recorded on the way from
there can be told by the indices of tokens, for both lists at once.

One of the lists may end where the other one goes on. Then it ends with a token that completes a
construct, so that nothing in front of its end depends on what follows.

## Main definitions

* `Log`, `Logs` — what a reading records, by the indices of tokens.
* `Overlay` — two token lists with the same words.
* `Tandem` — two states at the same word.
* `Looks` — two states that see the same.
* `Parallel` — two readings that have recorded the same log.

## Main statements

* `Logs.declaration` — a declaration is recorded with all that it covers.
* `Tandem.looks` — states at the same word see the same, unless one of them is at its end.
-/

namespace JavaLens.Grammar

/-! ## What is recorded, by tokens -/

/-- The mention with every token index moved on. -/
def Mention.shift (distance : Nat) (m : Mention) : Mention :=
  ⟨m.flavor, m.first + distance, m.name + distance, m.last + distance⟩

/-- A finding by the indices of its first and its last token. -/
structure Remark where
  fault : Fault
  first : Nat
  last : Nat

/-- The finding that a remark stands for. -/
def Remark.finding (tokens : Array Token) (r : Remark) : Finding :=
  ⟨r.fault, (tokenAt tokens r.first).span.start, (tokenAt tokens r.last).span.stop⟩

/-- The remark with every token index moved on. -/
def Remark.shift (distance : Nat) (r : Remark) : Remark :=
  ⟨r.fault, r.first + distance, r.last + distance⟩

/-- An import by the indices of the first and the last segment of its name. -/
structure Citation where
  segments : List String
  first : Nat
  last : Nat
  onDemand : Bool

/-- The import that a citation stands for. -/
def Citation.declared (tokens : Array Token) (c : Citation) : Import :=
  ⟨c.segments, ⟨(tokenAt tokens c.first).span.start, (tokenAt tokens c.last).span.stop⟩, c.onDemand⟩

/-- The citation with every token index moved on. -/
def Citation.shift (distance : Nat) (c : Citation) : Citation :=
  ⟨c.segments, c.first + distance, c.last + distance, c.onDemand⟩

/-- What a reading records. -/
structure Log where
  mentions : List Mention
  remarks : List Remark
  citations : List Citation

namespace Log

/-- Nothing is recorded. -/
def empty : Log := ⟨[], [], []⟩

instance : Append Log :=
  ⟨fun a b => ⟨a.mentions ++ b.mentions, a.remarks ++ b.remarks, a.citations ++ b.citations⟩⟩

/-- The log with every token index moved on. -/
def shift (distance : Nat) (log : Log) : Log where
  mentions := log.mentions.map (Mention.shift distance)
  remarks := log.remarks.map (Remark.shift distance)
  citations := log.citations.map (Citation.shift distance)

/-- Whether all that is recorded is placed by the given tokens. -/
structure Within (tokens : Array Token) (log : Log) : Prop where
  mentions : ∀ m ∈ log.mentions, m.Within tokens 0 tokens.size
  remarks : ∀ r ∈ log.remarks, r.first ≤ r.last ∧ r.last < tokens.size
  citations : ∀ c ∈ log.citations, c.first ≤ c.last ∧ c.last < tokens.size

variable {tokens : Array Token} {a b : Log}

@[simp] theorem mentions_append (a b : Log) : (a ++ b).mentions = a.mentions ++ b.mentions := rfl
@[simp] theorem remarks_append (a b : Log) : (a ++ b).remarks = a.remarks ++ b.remarks := rfl
@[simp] theorem citations_append (a b : Log) :
    (a ++ b).citations = a.citations ++ b.citations := rfl

@[simp] theorem shift_zero (log : Log) : log.shift 0 = log := by
  change Log.mk (log.mentions.map id) (log.remarks.map id) (log.citations.map id) = log
  simp

@[simp] theorem shift_append (d : Nat) (a b : Log) : (a ++ b).shift d = a.shift d ++ b.shift d := by
  change Log.mk _ _ _ = Log.mk _ _ _
  simp [shift]

theorem Within.append (h : a.Within tokens) (k : b.Within tokens) : (a ++ b).Within tokens where
  mentions m hm := (List.mem_append.1 hm).elim (h.mentions m) (k.mentions m)
  remarks r hr := (List.mem_append.1 hr).elim (h.remarks r) (k.remarks r)
  citations c hc := (List.mem_append.1 hc).elim (h.citations c) (k.citations c)

end Log

/-- The reading from `s` to `t` records the log. -/
structure Logs (log : Log) (s t : State) : Prop where
  tokens : t.tokens = s.tokens
  depth : t.depth = s.depth
  le : s.cursor ≤ t.cursor
  nodes : t.nodes.toList = s.nodes.toList ++ log.mentions.map (Mention.node s.tokens)
  findings : t.findings.toList = s.findings.toList ++ log.remarks.map (Remark.finding s.tokens)
  imports : t.imports.toList = s.imports.toList ++ log.citations.map (Citation.declared s.tokens)
  within : log.Within s.tokens

variable {s t u v s' t' u' v' : State} {kind : Token.Kind}

namespace Logs

variable {log log' : Log}

/-- A reading that moves the cursor and records nothing. -/
theorem of_moved (tokens : t.tokens = s.tokens) (depth : t.depth = s.depth)
    (le : s.cursor ≤ t.cursor) (nodes : t.nodes = s.nodes) (findings : t.findings = s.findings)
    (imports : t.imports = s.imports) : Logs .empty s t :=
  ⟨tokens, depth, le, by simp [nodes, Log.empty], by simp [findings, Log.empty],
    by simp [imports, Log.empty], ⟨nofun, nofun, nofun⟩⟩

theorem refl (s : State) : Logs .empty s s := of_moved rfl rfl (Nat.le_refl _) rfl rfl rfl

theorem trans (h : Logs log s t) (k : Logs log' t u) : Logs (log ++ log') s u where
  tokens := k.tokens.trans h.tokens
  depth := k.depth.trans h.depth
  le := Nat.le_trans h.le k.le
  nodes := by simp [k.nodes, h.nodes, h.tokens]
  findings := by simp [k.findings, h.findings, h.tokens]
  imports := by simp [k.imports, h.imports, h.tokens]
  within := h.within.append (h.tokens ▸ k.within)

theorem advance (s : State) (n : Nat) : Logs .empty s (s.advance n) :=
  of_moved rfl rfl (Nat.le_add_right ..) rfl rfl rfl

/-- One level deeper or further out, what is recorded is the same. -/
theorem at_depth (h : Logs log { s with depth := s.depth + 1 } t) : Logs log s t.leave :=
  ⟨h.tokens, by simp [State.leave, h.depth], h.le, h.nodes, h.findings, h.imports, h.within⟩

theorem reference (h : s.peek = some .ident) :
    Logs ⟨[.reference s.cursor], [], []⟩ s s.reference := by
  have hlt := lt_size_of_peek h
  rw [State.reference, identifier?_eq_some_iff.2 ⟨h, rfl, rfl⟩]
  refine ⟨rfl, rfl, Nat.le_add_right .., by simp [State.advance]; rfl, by simp [State.advance],
    by simp [State.advance], ?_, by simp, by simp⟩
  intro m hm
  rw [List.mem_singleton.1 hm]
  exact ⟨Nat.zero_le _, Nat.le_refl _, Nat.le_refl _, hlt, h, fun _ => ⟨rfl, rfl⟩⟩

/-- A fault that is reported over a run of tokens. -/
theorem report (fault : Fault) {i j : Nat} (ordered : i ≤ j) (bounded : j < s.tokens.size) :
    Logs ⟨[], [⟨fault, i, j⟩], []⟩ s
      (s.report fault ⟨(tokenAt s.tokens i).span.start, (tokenAt s.tokens j).span.stop⟩) := by
  refine ⟨rfl, rfl, Nat.le_refl _, by simp [State.report], by simp [State.report, Remark.finding],
    by simp [State.report], nofun, ?_, nofun⟩
  intro r hr
  rw [List.mem_singleton.1 hr]
  exact ⟨ordered, bounded⟩

/-- An import whose name stands on a run of tokens. -/
theorem declared (segments : List String) (onDemand : Bool) {i j : Nat} {span : Span}
    (ordered : i ≤ j) (bounded : j < s.tokens.size)
    (hspan : span = ⟨(tokenAt s.tokens i).span.start, (tokenAt s.tokens j).span.stop⟩) :
    Logs ⟨[], [], [⟨segments, i, j, onDemand⟩]⟩ s
      { s with imports := s.imports.push ⟨segments, span, onDemand⟩ } := by
  refine ⟨rfl, rfl, Nat.le_refl _, by simp, by simp, by simp [Citation.declared, hspan],
    nofun, nofun, ?_⟩
  intro c hc
  rw [List.mem_singleton.1 hc]
  exact ⟨ordered, bounded⟩

/-- A declaration: its name, and what follows until it is closed. It starts at a token before. -/
theorem declaration (flavor : Flavor) {i start : Nat} (hi : i ≤ t.cursor)
    (hstart : start = (tokenAt t.tokens i).span.start) (hname : t.peek = some .ident)
    (rest : Logs log
      ((t.advance 1).openDeclaration flavor (identifierAt t.tokens t.cursor) start).2 v)
    (bounded : v.cursor ≤ v.tokens.size) :
    Logs (⟨[⟨some flavor, i, t.cursor, v.cursor - 1⟩], [], []⟩ ++ log) t
      (v.closeDeclaration t.nodes.size) := by
  have hlt := lt_size_of_peek hname
  have htokens : v.tokens = t.tokens := rest.tokens
  have hle : t.cursor + 1 ≤ v.cursor := rest.le
  have nodes := rest.nodes
  simp only [State.openDeclaration, State.advance, Array.toList_push, hstart] at nodes
  refine ⟨htokens, rest.depth, Nat.le_of_succ_le hle, ?_, ?_, ?_, ?_⟩
  · -- The node stands behind those recorded before, where it was opened.
    rw [List.append_assoc, List.singleton_append] at nodes
    simp only [State.closeDeclaration, Array.toList_modify, nodes, ← Array.length_toList,
      modify_length, lastEnd_eq (show v.cursor = v.cursor - 1 + 1 by omega), htokens]
    simp [Mention.node]
  · simp [State.closeDeclaration, rest.findings, State.openDeclaration, State.advance]
  · simp [State.closeDeclaration, rest.imports, State.openDeclaration, State.advance]
  · refine Log.Within.append ⟨fun m hm => ?_, by simp, by simp⟩ rest.within
    rw [htokens] at bounded
    rw [List.mem_singleton.1 hm]
    exact ⟨Nat.zero_le _, hi, Nat.le_sub_of_add_le hle, by simp only; omega, hname, by simp⟩

end Logs

/-! ## Two token lists -/

/-- Tokens that complete a construct. -/
def completes : Token.Kind → Bool
  | .semi | .rbrace => true
  | _ => false

/-- Tokens that may stand in the middle of an expression and are passed there one by one. -/
def isSkimmed : Token.Kind → Bool
  | .semi | .rbrace | .lbrace | .lparen | .rparen | .keyword .new | .keyword .switch => false
  | _ => true

theorem completes_of_isSkimmed {kind : Token.Kind} (h : isSkimmed kind) :
    completes kind = false := by
  cases kind <;> simp_all [completes, isSkimmed]

/-- Two token lists. All words of the first stand in the second, `shift` tokens on, and unless both
end there, the first ends with a token that completes a construct. -/
structure Overlay where
  here : Array Token
  there : Array Token
  shift : Nat
  words : here.toList.map Token.word <+: (there.toList.drop shift).map Token.word
  closed : here.toList.map Token.word = (there.toList.drop shift).map Token.word ∨
    ∀ token ∈ here.toList.getLast?, completes token.kind

/-- Whether the second token list ends where the first does. -/
def Overlay.Even (x : Overlay) : Prop :=
  x.here.toList.map Token.word = (x.there.toList.drop x.shift).map Token.word

variable {x : Overlay}

namespace Overlay

theorem lt_size {i : Nat} (h : i < x.here.size) : i + x.shift < x.there.size := by
  have := x.words.length_le
  simp only [List.length_map, List.length_drop, Array.length_toList] at this
  omega

/-- The same word stands at a token of the first list and at the one that lies under it. -/
theorem word_tokenAt {i : Nat} (h : i < x.here.size) :
    (tokenAt x.there (i + x.shift)).word = (tokenAt x.here i).word := by
  obtain ⟨rest, hrest⟩ := x.words
  have hword : ((x.there.toList.drop x.shift).map Token.word)[i]? =
      (x.here.toList.map Token.word)[i]? := by
    rw [← hrest, List.getElem?_append_left (by simpa using h)]
  simpa [h, lt_size h, Nat.add_comm x.shift, tokenAt] using hword

end Overlay

/-- Two states at the same word. -/
structure Tandem (x : Overlay) (s s' : State) : Prop where
  here : s.tokens = x.here
  there : s'.tokens = x.there
  cursor : s'.cursor = s.cursor + x.shift
  depth : s'.depth = s.depth
  bounded : s.cursor ≤ x.here.size

namespace Tandem

theorem ahead_eq (h : Tandem x s s') (even : x.Even) : s'.ahead = s.ahead := by
  simp only [State.ahead, h.here, h.there, h.cursor, Nat.add_comm s.cursor, ← List.drop_drop]
  rw [List.map_drop, ← even, ← List.map_drop]

theorem ahead_prefix (h : Tandem x s s') : s.ahead <+: s'.ahead := by
  simp only [State.ahead, h.here, h.there, h.cursor, Nat.add_comm s.cursor, ← List.drop_drop]
  obtain ⟨rest, hrest⟩ := x.words
  rw [List.map_drop, List.map_drop, ← hrest, List.drop_append_of_le_length (by simp [h.bounded])]
  exact List.prefix_append ..

/-- A word that the first state sees, the second sees too. -/
theorem ahead_getElem? (h : Tandem x s s') {n : Nat} {w : Word} (hw : s.ahead[n]? = some w) :
    s'.ahead[n]? = some w := by
  obtain ⟨rest, hrest⟩ := h.ahead_prefix
  rw [← hrest, List.getElem?_append_left (List.getElem?_eq_some_iff.1 hw).1, hw]

theorem peek (h : Tandem x s s') (hs : s.peek = some kind) : s'.peek = some kind := by
  rw [State.peek, peekAt_eq] at hs ⊢
  obtain ⟨w, hw, hkind⟩ := Option.map_eq_some_iff.1 hs
  rw [h.ahead_getElem? hw, Option.map_some, hkind]

/-- The same tokens are at the same places further on. -/
theorem advance (h : Tandem x s s') {n : Nat} (seen : s.peekAt n = some kind) :
    Tandem x (s.advance (n + 1)) (s'.advance (n + 1)) := by
  have := lt_size_of_peekAt seen
  rw [h.here] at this
  refine ⟨h.here, h.there, ?_, h.depth, ?_⟩ <;> simp only [State.advance, h.cursor] <;> omega

/-- What has been recorded plays no part. -/
theorem of_recorded (h : Tandem x s s') (tokens : t.tokens = s.tokens)
    (cursor : t.cursor = s.cursor) (depth : t.depth = s.depth) (tokens' : t'.tokens = s'.tokens)
    (cursor' : t'.cursor = s'.cursor) (depth' : t'.depth = s'.depth) : Tandem x t t' :=
  ⟨tokens.trans h.here, tokens'.trans h.there, by rw [cursor, cursor', h.cursor],
    by rw [depth, depth', h.depth], cursor ▸ h.bounded⟩

end Tandem

/-- The second state sees what the first one sees, at the cursor and behind each token that
completes nothing. -/
structure Looks (s s' : State) : Prop where
  zero : s'.ahead[0]? = s.ahead[0]?
  succ : ∀ n kind, s.peekAt n = some kind → completes kind = false →
    s'.ahead[n + 1]? = s.ahead[n + 1]?

/-- Two states at the same word see the same, unless the first one is at its end. -/
theorem Tandem.looks (h : Tandem x s s') (seen : s.peek = none → x.Even) : Looks s s' where
  zero := by
    cases hw : s.ahead[0]? with
    | some w => exact h.ahead_getElem? hw
    | none =>
      have : s.peek = none := by rw [State.peek, peekAt_eq, hw]; rfl
      rw [h.ahead_eq (seen this), hw]
  succ n kind hn goesOn := by
    obtain even | closed := x.closed
    · rw [h.ahead_eq even]
    · -- The token is not the last one, so another one follows in both lists.
      have hlt := lt_size_of_peekAt hn
      obtain ⟨token, htoken, hkind⟩ := Option.map_eq_some_iff.1 hn
      have : s.cursor + n + 1 ≠ s.tokens.size := by
        intro last
        refine absurd (closed token ?_) (by simp [hkind, goesOn])
        rw [Option.mem_def, List.getLast?_eq_getElem?, ← h.here, Array.length_toList, ← last,
          Nat.add_sub_cancel, Array.getElem?_toList]
        exact htoken
      have hword : s.ahead[n + 1]? = some (tokenAt s.tokens (s.cursor + (n + 1))).word := by
        rw [← word_tokenAt?, State.tokenAt?, tokenAt_of_lt (by omega)]
        rfl
      rw [hword, h.ahead_getElem? hword]

namespace Looks

theorem refl (s : State) : Looks s s := ⟨rfl, fun _ _ _ _ => rfl⟩

theorem peek (h : Looks s s') : s'.peek = s.peek := by
  rw [State.peek, State.peek, peekAt_eq, peekAt_eq, h.zero]

theorem sees (h : Looks s s') (kind : Token.Kind) : s'.sees kind = s.sees kind := by
  rw [State.sees, State.sees, h.peek]

theorem spells (h : Looks s s') (kind : Token.Kind) (text : String) :
    s'.spells 0 kind text = s.spells 0 kind text := by
  rw [spells_eq, spells_eq, h.zero]

/-- What stands behind a token that completes nothing. -/
theorem behind (h : Looks s s') {n : Nat} (hn : s.peekAt n = some kind)
    (goesOn : completes kind = false) :
    s'.peekAt (n + 1) = s.peekAt (n + 1) ∧
      (∀ other, s'.seesAt (n + 1) other = s.seesAt (n + 1) other) ∧
      ∀ other text, s'.spells (n + 1) other text = s.spells (n + 1) other text := by
  have same := h.succ n kind hn goesOn
  simp only [State.seesAt, peekAt_eq, spells_eq, same, implies_true, and_self]

/-- What is looked for behind a certain token. -/
theorem sees_and {c c' : Bool} (h : Looks s s') (kind : Token.Kind)
    (next : s.peek = some kind → c' = c) : (s'.sees kind && c') = (s.sees kind && c) := by
  rw [h.sees]
  cases hs : s.sees kind with
  | false => rfl
  | true => rw [next (sees_iff.1 hs)]

end Looks

/-! ## Two readings -/

/-- The readings from `s` to `t` and from `s'` to `t'` have recorded the same log. -/
structure Parallel (x : Overlay) (s s' t t' : State) : Prop where
  tandem : Tandem x t t'
  logged : ∃ log, Logs log s t ∧ Logs (log.shift x.shift) s' t'

theorem Parallel.refl (h : Tandem x s s') : Parallel x s s' s s' := ⟨h, .empty, .refl s, .refl s'⟩

theorem Parallel.trans (h : Parallel x s s' t t') (k : Parallel x t t' u u') :
    Parallel x s s' u u' := by
  obtain ⟨log, here, there⟩ := h.logged
  obtain ⟨log', here', there'⟩ := k.logged
  exact ⟨k.tandem, log ++ log', here.trans here', Log.shift_append .. ▸ there.trans there'⟩

/-- A reading goes on from `s` to `t`: no token is taken back and no finding withdrawn. -/
structure Grows (s t : State) : Prop where
  tokens : t.tokens = s.tokens
  le : s.cursor ≤ t.cursor
  findings : s.findings.size ≤ t.findings.size

/-- Something has been reported on the way from `s` to `t`. -/
def Reported (s t : State) : Prop := s.findings.size < t.findings.size

/-- There is nothing left to read. -/
def Ended (s : State) : Prop := s.peek = none

theorem Ended.closeDeclaration (h : Ended s) (index : Nat) : Ended (s.closeDeclaration index) := h

namespace Grows

theorem refl (s : State) : Grows s s := ⟨rfl, Nat.le_refl _, Nat.le_refl _⟩

theorem trans (h : Grows s t) (k : Grows t u) : Grows s u :=
  ⟨k.tokens.trans h.tokens, Nat.le_trans h.le k.le, Nat.le_trans h.findings k.findings⟩

theorem bump (s : State) : Grows s s.bump := by
  unfold State.bump
  split
  · exact ⟨rfl, Nat.le_succ _, Nat.le_refl _⟩
  · exact refl s

theorem eat (s : State) (kind : Token.Kind) : Grows s (s.eat kind) := by
  unfold State.eat
  split
  · exact bump s
  · exact refl s

theorem report (s : State) (fault : Fault) (span : Span) : Grows s (s.report fault span) :=
  ⟨rfl, Nat.le_refl _, by simp [State.report]⟩

theorem ite {c : Prop} [Decidable c] (yes : Grows s t) (no : Grows s u) :
    Grows s (if c then t else u) := by
  split
  · exact yes
  · exact no

theorem ended (h : Grows s t) (k : Ended s) : Ended t := by
  have := peek_eq_none_iff.1 k
  have := h.le
  exact peek_eq_none_iff.2 (by rw [h.tokens]; omega)

theorem reported (h : Grows s t) (k : Reported t u) : Reported s u :=
  Nat.lt_of_le_of_lt h.findings k

end Grows

/-- Side by side, something has been reported on both sides or on neither. -/
theorem Parallel.reported_iff (h : Parallel x s s' t t') : Reported s' t' ↔ Reported s t := by
  obtain ⟨log, here, there⟩ := h.logged
  have hsize := congrArg List.length here.findings
  have hsize' := congrArg List.length there.findings
  simp only [List.length_append, List.length_map, Array.length_toList, Log.shift] at hsize hsize'
  unfold Reported
  omega

theorem Reported.grows (h : Reported s t) (k : Grows t u) : Reported s u :=
  Nat.lt_of_lt_of_le h k.findings

theorem Reported.ite {c : Prop} [Decidable c] (yes : Reported s t) (no : Reported s u) :
    Reported s (if c then t else u) := by
  split
  · exact yes
  · exact no

theorem Traces.grows {n : Nat} (h : Traces n s t) : Grows s t := by
  obtain ⟨_, _, _, findings, _⟩ := h.moves
  have := congrArg List.length findings
  simp only [List.length_append, Array.length_toList] at this
  exact ⟨h.tokens, h.cursor_le, by omega⟩

end JavaLens.Grammar
