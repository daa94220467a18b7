import JavaLens.Tokenization
import JavaLens.Proofs.Span

/-!
# Where tokens lie

The lexemes of a text, put side by side, are the text. Tokens and findings are some of the lexemes,
so each of them covers a piece of the text, and they stand in the order of the text without
touching one another's pieces.

## Main statements

* `Lexeme.chars_scan`, `Lexeme.chars_joinUnknown` — scanning loses and adds nothing.
* `Lexeme.marks_of_mem_place` — a placed lexeme lies where its text stands.
* `tokenize_tokens_marks`, `tokenize_tokens_ordered` — the same for tokens, and their order.
* `tokenize_findings_wellFormed` — findings lie in the text.
-/

namespace JavaLens

namespace Lexeme

/-! ## Lexemes are the text -/

/-- The characters of lexemes side by side. -/
def chars (ls : List Lexeme) : List Char := ls.flatMap (·.text)

@[simp] theorem chars_nil : chars [] = [] := rfl

@[simp] theorem chars_cons (l : Lexeme) (ls : List Lexeme) : chars (l :: ls) = l.text ++ chars ls :=
  rfl

@[simp] theorem chars_append (ls ms : List Lexeme) : chars (ls ++ ms) = chars ls ++ chars ms :=
  List.flatMap_append

theorem chars_scanFrom (done : Array Lexeme) (cs : List Char) :
    chars (scanFrom done cs).toList = chars done.toList ++ cs := by
  fun_induction scanFrom done cs with
  | case1 done => simp
  | case2 done c cs kind size _ ih => simp [ih, List.take_append_drop]

theorem chars_scan (cs : List Char) : chars (scan cs) = cs := by simp [scan, chars_scanFrom]

theorem chars_consUnknown (l : Lexeme) (ls : List Lexeme) :
    chars (consUnknown l ls) = l.text ++ chars ls := by
  fun_cases consUnknown l ls <;> simp

theorem chars_joinUnknown (ls : List Lexeme) : chars (joinUnknown ls) = chars ls := by
  induction ls with
  | nil => rfl
  | cons l ls ih =>
    rw [joinUnknown, List.foldr_cons, chars_consUnknown, ← joinUnknown, ih, chars_cons]

theorem text_ne_nil_of_mem_scanFrom {done : Array Lexeme} {cs : List Char}
    (h : ∀ l ∈ done.toList, l.text ≠ []) : ∀ l ∈ (scanFrom done cs).toList, l.text ≠ [] := by
  fun_induction scanFrom done cs with
  | case1 done => exact h
  | case2 done c cs kind size _ ih =>
    apply ih
    intro l hl
    rw [Array.toList_push, List.mem_append, List.mem_singleton] at hl
    obtain hl | rfl := hl
    · exact h l hl
    · exact List.cons_ne_nil _ _

theorem text_ne_nil_of_mem_consUnknown {l : Lexeme} {ls : List Lexeme} (hl : l.text ≠ [])
    (h : ∀ m ∈ ls, m.text ≠ []) : ∀ m ∈ consUnknown l ls, m.text ≠ [] := by
  fun_cases consUnknown l ls <;> simp_all

theorem text_ne_nil_of_mem_joinUnknown {ls : List Lexeme} (h : ∀ l ∈ ls, l.text ≠ []) :
    ∀ l ∈ joinUnknown ls, l.text ≠ [] := by
  induction ls with
  | nil => exact h
  | cons l ls ih =>
    exact text_ne_nil_of_mem_consUnknown (h l List.mem_cons_self)
      (ih fun m hm => h m (List.mem_cons_of_mem l hm))

/-! ## Lexemes side by side -/

theorem byteLength_eq_utf8Len (cs : List Char) : byteLength cs = String.utf8Len cs := by
  suffices ∀ n, cs.foldl (fun n c => n + c.utf8Size) n = n + String.utf8Len cs by
    simpa [byteLength] using this 0
  intro n
  induction cs generalizing n with
  | nil => rfl
  | cons c cs ih => rw [List.foldl_cons, ih, String.utf8Len_cons]; omega

/-- The lexemes side by side from a byte offset. -/
def sideBySide (start : Nat) : List Lexeme → List Placed
  | [] => []
  | l :: ls =>
    ⟨l, start, start + byteLength l.text⟩ :: sideBySide (start + byteLength l.text) ls

theorem toList_placeFrom (done : Array Placed) (start : Nat) (ls : List Lexeme) :
    (placeFrom done start ls).toList = done.toList ++ sideBySide start ls := by
  fun_induction placeFrom done start ls with
  | case1 done start => simp [sideBySide]
  | case2 done start l ls stop ih => simp [sideBySide, ih, stop]

theorem place_eq (ls : List Lexeme) : place ls = sideBySide 0 ls := by
  simp [place, toList_placeFrom]

theorem start_le_of_mem_sideBySide {start : Nat} {ls : List Lexeme} :
    ∀ p ∈ sideBySide start ls, start ≤ p.span.start := by
  fun_induction sideBySide start ls with
  | case1 => simp
  | case2 start l ls ih =>
    intro p hp
    obtain rfl | hp := List.mem_cons.1 hp
    · exact Nat.le_refl _
    · have := ih p hp
      omega

theorem sideBySide_ordered (start : Nat) (ls : List Lexeme) :
    (sideBySide start ls).Pairwise fun p q => p.span.stop ≤ q.span.start := by
  fun_induction sideBySide start ls with
  | case1 => exact .nil
  | case2 start l ls ih => exact .cons (fun q hq => start_le_of_mem_sideBySide q hq) ih

/-- A lexeme lies behind those before it. -/
theorem split_of_mem_sideBySide {start : Nat} {ls : List Lexeme} {p : Placed}
    (h : p ∈ sideBySide start ls) :
    ∃ before after, ls = before ++ p.lexeme :: after ∧
      p.span.start = start + String.utf8Len (chars before) ∧
      p.span.stop = p.span.start + String.utf8Len p.lexeme.text := by
  fun_induction sideBySide start ls with
  | case1 => simp at h
  | case2 start l ls ih =>
    obtain rfl | h := List.mem_cons.1 h
    · exact ⟨[], ls, rfl, rfl, by rw [byteLength_eq_utf8Len]⟩
    · obtain ⟨before, after, rfl, hstart, hstop⟩ := ih h
      refine ⟨l :: before, after, rfl, ?_, hstop⟩
      rw [hstart, byteLength_eq_utf8Len, chars_cons, String.utf8Len_append, Nat.add_assoc]

/-- A placed lexeme lies where its text stands in the text of all lexemes. -/
theorem marks_of_mem_place {ls : List Lexeme} {p : Placed} (h : p ∈ place ls) :
    p.span.Marks (String.ofList (chars ls)) (String.ofList p.lexeme.text) := by
  rw [place_eq] at h
  obtain ⟨before, after, rfl, hstart, hstop⟩ := split_of_mem_sideBySide h
  refine ⟨String.ofList (chars before), String.ofList (chars after), ?_, ?_, ?_⟩
  · simp [String.ofList_append, String.append_assoc]
  · rw [hstart, Nat.zero_add, String.utf8ByteSize_ofList]
  · rw [hstop, hstart, Nat.zero_add, String.utf8ByteSize_append, String.utf8ByteSize_ofList,
      String.utf8ByteSize_ofList]

end Lexeme

/-! ## Tokens and findings -/

section Source

variable {source : String}

/-- The placed lexemes of a source. -/
def placedLexemes (source : String) : List Lexeme.Placed :=
  Lexeme.place (Lexeme.joinUnknown (Lexeme.scan source.toList))

theorem tokenize_tokens (source : String) :
    (tokenize source).tokens = (placedLexemes source).filterMap Lexeme.Placed.token? := rfl

theorem tokenize_findings (source : String) :
    (tokenize source).findings = (placedLexemes source).filterMap Lexeme.Placed.finding? := rfl

theorem placedLexemes_marks {p : Lexeme.Placed} (h : p ∈ placedLexemes source) :
    p.span.Marks source (String.ofList p.lexeme.text) := by
  have marks := Lexeme.marks_of_mem_place h
  rwa [Lexeme.chars_joinUnknown, Lexeme.chars_scan, String.ofList_toList] at marks

theorem placedLexemes_ordered (source : String) :
    (placedLexemes source).Pairwise fun p q => p.span.stop ≤ q.span.start := by
  rw [placedLexemes, Lexeme.place_eq]
  exact Lexeme.sideBySide_ordered _ _

theorem placedLexemes_nonempty {p : Lexeme.Placed} (h : p ∈ placedLexemes source) :
    p.span.start < p.span.stop := by
  rw [placedLexemes, Lexeme.place_eq] at h
  obtain ⟨before, after, hls, _, hstop⟩ := Lexeme.split_of_mem_sideBySide h
  have hmem : p.lexeme ∈ Lexeme.joinUnknown (Lexeme.scan source.toList) := by simp [hls]
  have hne : p.lexeme.text ≠ [] :=
    Lexeme.text_ne_nil_of_mem_joinUnknown
      (Lexeme.text_ne_nil_of_mem_scanFrom (by simp)) _ hmem
  have hpos : String.utf8Len p.lexeme.text ≠ 0 := fun h0 => hne (String.utf8Len_eq_zero.1 h0)
  omega

/-- A placed lexeme stands before those that follow it. -/
theorem placedLexemes_before (source : String) :
    (placedLexemes source).Pairwise fun p q => p.span.Before q.span := by
  refine (placedLexemes_ordered source).imp_of_mem fun {p q} hp _ ordered => ⟨?_, ordered⟩
  exact Nat.lt_of_lt_of_le (placedLexemes_nonempty hp) ordered

/-- A token is a lexeme with its text and span. -/
theorem exists_lexeme_of_token {token : Token} (h : token ∈ (tokenize source).tokens) :
    ∃ p ∈ placedLexemes source, token.text = String.ofList p.lexeme.text ∧ token.span = p.span := by
  rw [tokenize_tokens, List.mem_filterMap] at h
  obtain ⟨p, hp, htoken⟩ := h
  obtain ⟨kind, _, rfl⟩ := Option.map_eq_some_iff.1 htoken
  exact ⟨p, hp, rfl, rfl⟩

/-- A token lies where its text stands. -/
theorem tokenize_tokens_marks {token : Token} (h : token ∈ (tokenize source).tokens) :
    token.span.Marks source token.text := by
  obtain ⟨p, hp, htext, hspan⟩ := exists_lexeme_of_token h
  rw [htext, hspan]
  exact placedLexemes_marks hp

theorem tokenize_tokens_nonempty {token : Token} (h : token ∈ (tokenize source).tokens) :
    token.span.start < token.span.stop := by
  obtain ⟨p, hp, _, hspan⟩ := exists_lexeme_of_token h
  rw [hspan]
  exact placedLexemes_nonempty hp

/-- Tokens stand in the order of the source and do not overlap. -/
theorem tokenize_tokens_ordered (source : String) :
    (tokenize source).tokens.Pairwise fun a b => a.span.stop ≤ b.span.start := by
  rw [tokenize_tokens, List.pairwise_filterMap]
  refine (placedLexemes_ordered source).imp fun {p q} hpq a ha b hb => ?_
  obtain ⟨_, _, rfl⟩ := Option.map_eq_some_iff.1 ha
  obtain ⟨_, _, rfl⟩ := Option.map_eq_some_iff.1 hb
  exact hpq

theorem tokenize_tokens_before (source : String) :
    (tokenize source).tokens.Pairwise fun a b => a.span.Before b.span := by
  refine (tokenize_tokens_ordered source).imp_of_mem fun {a b} ha _ ordered => ⟨?_, ordered⟩
  exact Nat.lt_of_lt_of_le (tokenize_tokens_nonempty ha) ordered

theorem tokenize_findings_wellFormed {finding : Finding}
    (h : finding ∈ (tokenize source).findings) : finding.span.WellFormed source := by
  rw [tokenize_findings, List.mem_filterMap] at h
  obtain ⟨p, hp, hfinding⟩ := h
  obtain ⟨_, _, rfl⟩ := Option.map_eq_some_iff.1 hfinding
  exact (placedLexemes_marks hp).wellFormed

end Source

end JavaLens
