import JavaLens.Proofs.Grammar.Moves
import JavaLens.Proofs.Tokenization.Words

/-!
# Brackets

Brackets are properly nested if each closing one closes the innermost open one and none is left
open. Where they are, counting brackets of all kinds alike leads to the bracket that matches: a flat
region ends with the same brackets open as before it.

## Main definitions

* `Token.Kind.due?` — the closing brackets that are due behind a token.
* `ProperlyNested` — tokens with properly nested brackets.

## Main statements

* `mem_symbols_of_bracket` — how brackets are spelled.
* `Grammar.FlatRegion.dueAt_eq` — a flat region opens and closes the same brackets.
-/

namespace JavaLens

namespace Lexeme

variable {cs : List Char}

/-! ## Symbols -/

/-- What matches a symbol is spelled like it. -/
theorem mem_symbols_of_longest {c : Char} {kind : Token.Kind} {size : Nat}
    (h : longest (c :: cs) = (.symbol kind, size)) :
    (c :: cs.take (size - 1), kind) ∈ symbols := by
  obtain ⟨pos, rule, hrule, hkind, rfl⟩ := exists_rule h (by simp)
  rw [rules, List.mem_append] at hrule
  rcases hrule with other | symbol
  · have others : ∀ rule ∈ rules.take 15, rule.kind ≠ .symbol kind := by simp [rules]
    exact absurd hkind (others rule other)
  · obtain ⟨⟨spelling, kind⟩, hmem, rfl⟩ := List.mem_map.1 symbol
    cases hkind
    simp only [Recognizer.exactly] at pos ⊢
    split at pos
    · rename_i hprefix
      have htake := List.prefix_iff_eq_take.1 (List.isPrefixOf_iff_prefix.1 hprefix)
      rw [if_pos hprefix, ← List.take_succ_cons, Nat.sub_add_cancel pos, ← htake]
      exact hmem
    · omega

theorem mem_symbols_of_mem_scan {l : Lexeme} {kind : Token.Kind} (h : l ∈ scan cs)
    (hkind : l.kind = .symbol kind) : (l.text, kind) ∈ symbols := by
  suffices ∀ done : Array Lexeme, l ∈ (scanFrom done cs).toList → l ∈ done.toList ∨
      (l.text, kind) ∈ symbols by simpa using this #[] h
  clear h
  intro done hl
  fun_induction scanFrom done cs with
  | case1 done => exact .inl hl
  | case2 done c cs kind' size hlongest ih =>
    rcases ih hl with old | found
    · rw [Array.toList_push, List.mem_append, List.mem_singleton] at old
      rcases old with old | rfl
      · exact .inl old
      · cases hkind
        exact .inr (mem_symbols_of_longest hlongest)
    · exact .inr found

/-- Joining unknown characters makes no other lexemes. -/
theorem mem_of_mem_joinUnknown {l : Lexeme} {ls : List Lexeme} (h : l ∈ joinUnknown ls)
    (known : l.kind ≠ .unknown) : l ∈ ls := by
  induction ls with
  | nil => exact h
  | cons m ls ih =>
    rw [joinUnknown, List.foldr_cons, ← joinUnknown] at h
    revert h ih
    fun_cases consUnknown m (joinUnknown ls) <;> grind

/-- No word is a bracket. -/
theorem wordKind_unlike_bracket (w : String) :
    ¬((wordKind w).isOpener ∨ (wordKind w).isCloser) := by
  unfold wordKind
  split
  · simp [Token.Kind.isOpener, Token.Kind.isCloser]
  · cases Keyword.ofWord? w <;> simp [Token.Kind.isOpener, Token.Kind.isCloser]

/-- Only symbols are brackets. -/
theorem kind_of_bracket {l : Lexeme} {kind : Token.Kind} (h : l.tokenKind? = some kind)
    (bracket : kind.isOpener ∨ kind.isCloser) : l.kind = .symbol kind := by
  obtain ⟨lexical, text⟩ := l
  cases lexical with
  | blank | lineComment | blockComment | unknown => cases h
  | textBlock | string | character | number =>
    cases h
    simp [Token.Kind.isOpener, Token.Kind.isCloser] at bracket
  | word =>
    cases h
    exact absurd bracket (wordKind_unlike_bracket _)
  | symbol => rw [Option.some.inj h]

end Lexeme

/-- A bracket among the tokens of a source has its spelling. -/
theorem mem_symbols_of_bracket {source : String} {token : Token}
    (h : token ∈ (tokenize source).tokens) (bracket : token.kind.isOpener ∨ token.kind.isCloser) :
    (token.text.toList, token.kind) ∈ Lexeme.symbols := by
  rw [tokenize_tokens, List.mem_filterMap] at h
  obtain ⟨p, hp, htoken⟩ := h
  obtain ⟨kind, hkind, rfl⟩ := Option.map_eq_some_iff.1 htoken
  rw [placedLexemes, Lexeme.place_eq] at hp
  obtain ⟨before, after, hls, _, _⟩ := Lexeme.split_of_mem_sideBySide hp
  have hsymbol := Lexeme.kind_of_bracket hkind bracket
  have hmem : p.lexeme ∈ Lexeme.scan source.toList :=
    Lexeme.mem_of_mem_joinUnknown (by simp [hls]) (by simp [hsymbol])
  simpa using Lexeme.mem_symbols_of_mem_scan hmem hsymbol

/-! ## Nesting -/

/-- The closing brackets that are due behind a token, innermost first, unless it closes another than
the innermost open one. -/
def Token.Kind.due? (kind : Token.Kind) (due : List Token.Kind) : Option (List Token.Kind) :=
  match kind with
  | .lparen => some (.rparen :: due)
  | .lbracket => some (.rbracket :: due)
  | .lbrace => some (.rbrace :: due)
  | .rparen | .rbracket | .rbrace => if due.head? = some kind then some due.tail else none
  | _ => some due

/-- The closing brackets that are due behind tokens, unless one of them closes a wrong bracket. -/
def dueBehind (tokens : List Token) : Option (List Token.Kind) :=
  tokens.foldlM (fun due token => token.kind.due? due) []

/-- Whether each closing bracket closes the innermost open one, and none is left open. -/
def ProperlyNested (tokens : List Token) : Prop := dueBehind tokens = some []

instance (tokens : List Token) : Decidable (ProperlyNested tokens) :=
  inferInstanceAs (Decidable (dueBehind tokens = some []))

namespace Grammar

variable {tokens : Array Token} {i j k : Nat} {kind : Token.Kind}
  {inner outer due : List Token.Kind}

theorem exists_kindAt (h : i < tokens.size) : ∃ kind, kindAt tokens i = some kind := by
  simp [kindAt, h]

/-- The closing brackets that are due in front of the token at an index. -/
def dueAt (tokens : Array Token) (i : Nat) : Option (List Token.Kind) :=
  dueBehind (tokens.toList.take i)

theorem dueAt_zero (tokens : Array Token) : dueAt tokens 0 = some [] := rfl

theorem dueAt_size (nested : ProperlyNested tokens.toList) :
    dueAt tokens tokens.size = some [] := by
  rw [dueAt, List.take_of_length_le (by simp)]
  exact nested

theorem dueAt_succ (h : kindAt tokens i = some kind) :
    dueAt tokens (i + 1) = (dueAt tokens i).bind kind.due? := by
  obtain ⟨htoken, rfl⟩ := kindAt_eq_some_iff.1 h
  have hlist : tokens.toList[i]? = some (tokenAt tokens i) := by simpa using htoken
  rw [dueAt, dueBehind, List.take_add_one, hlist, List.foldlM_append]
  simp [dueAt, dueBehind]

theorem exists_dueAt (nested : ProperlyNested tokens.toList) (i : Nat) :
    ∃ due, dueAt tokens i = some due := by
  unfold ProperlyNested dueBehind at nested
  rw [← List.take_append_drop i tokens.toList, List.foldlM_append] at nested
  obtain ⟨due, hdue, _⟩ := Option.bind_eq_some_iff.1 nested
  exact ⟨due, hdue⟩

/-- What a token does to the brackets that were opened inside leaves those outside alone, unless it
closes one of them. -/
theorem due?_append (h : kind.due? (inner ++ outer) = some due)
    (held : kind.isCloser → inner ≠ []) :
    ∃ inner', due = inner' ++ outer ∧ (inner'.length : Int) = inner.length + weight kind := by
  cases kind with
  | lparen | lbracket | lbrace =>
    cases h
    exact ⟨_ :: inner, rfl, rfl⟩
  | rparen | rbracket | rbrace =>
    obtain ⟨top, inner, rfl⟩ := List.exists_cons_of_ne_nil (held rfl)
    rw [Token.Kind.due?, Option.ite_none_right_eq_some] at h
    refine ⟨inner, (Option.some.inj h.2).symm, ?_⟩
    change (inner.length : Int) = (inner.length + 1 : Nat) + -1
    omega
  | _ =>
    cases h
    exact ⟨inner, rfl, (Int.add_zero _).symm⟩

namespace FlatRegion

/-- In a flat region the brackets that were open before it stay open. -/
theorem exists_inner (region : FlatRegion tokens i j) (nested : ProperlyNested tokens.toList)
    (opened : kindAt tokens i = some .lbrace) (houter : dueAt tokens i = some outer)
    (hik : i ≤ k) (hkj : k ≤ j) :
    ∃ inner, dueAt tokens k = some (inner ++ outer) ∧
      (inner.length : Int) = flatCount tokens i k := by
  induction hik with
  | refl => exact ⟨[], houter, by simp⟩
  | @step k hik ih =>
    obtain ⟨inner, hdue, hlength⟩ := ih (Nat.le_of_succ_le hkj)
    obtain ⟨kind, hkind⟩ := exists_kindAt (Nat.lt_of_lt_of_le hkj region.bounded)
    obtain ⟨due, hnext⟩ := exists_dueAt nested (k + 1)
    rw [dueAt_succ hkind, hdue, Option.bind_some] at hnext
    have held : kind.isCloser → inner ≠ [] := by
      rintro closing rfl
      rcases Nat.eq_or_lt_of_le hik with rfl | later
      · rw [Option.some.inj (hkind.symm.trans opened)] at closing
        cases closing
      · have := region.inside k later hkj
        simp only [List.length_nil] at hlength
        omega
    obtain ⟨inner', rfl, hlength'⟩ := due?_append hnext held
    refine ⟨inner', ?_, ?_⟩
    · rw [dueAt_succ hkind, hdue, Option.bind_some, hnext]
    · rw [flatCount_succ hik hkind]
      omega

/-- A flat region closes what it opens. -/
theorem dueAt_eq (region : FlatRegion tokens i j) (nested : ProperlyNested tokens.toList)
    (opened : kindAt tokens i = some .lbrace) : dueAt tokens j = dueAt tokens i := by
  obtain ⟨outer, houter⟩ := exists_dueAt nested i
  obtain ⟨inner, hdue, hlength⟩ :=
    region.exists_inner nested opened houter (Nat.le_of_lt region.nonempty) (Nat.le_refl j)
  rw [hdue, houter]
  rcases Nat.lt_or_eq_of_le region.bounded with hlt | rfl
  · rw [region.closed hlt] at hlength
    simp_all
  · -- No bracket is left open at the end.
    rw [dueAt_size nested] at hdue
    simp_all

end FlatRegion

end Grammar

end JavaLens
