import JavaLens.Proofs.Tokenization.Lines
import JavaLens.Proofs.Tokenization.Patterns

/-!
# Tokens on lines of their own

A lexeme does not owe its end to what follows it: alone it is the longest match of its own text, and
its closer, if it has one, is still the first. So the tokens of a source that are put on lines of
their own are scanned as the same tokens. A text block that is left open is no exception, as it runs
to the end of the source and no token follows it.

## Main statements

* `Lexeme.Taken.alone` — a lexeme is the one to be taken where nothing but its text stands.
* `Lexeme.Taken.allClosed` — a token that is followed by something leaves nothing open.
* `tokens_rescanned` — the tokens of a source, one to a line, are the tokens of that text.
-/

namespace JavaLens

namespace Lexeme

variable {p : Pattern} {cs w rest body closer : List Char} {l l' : Lexeme} {ls : List Lexeme}
  {closed : Bool}

/-! ## Lexemes alone -/

theorem Lexed.eq_nil (h : Lexed cs ls) (empty : cs = []) : ls = [] := by
  cases h with
  | nil => rfl
  | cons taken _ => exact absurd (List.append_eq_nil_iff.1 empty).1 taken.ne_nil

theorem Lexed.exists_taken (h : Lexed cs ls) (hl : l ∈ ls) : ∃ rest, Taken (l.text ++ rest) l := by
  induction h with
  | nil => cases hl
  | cons taken _ ih =>
    obtain rfl | hl := List.mem_cons.1 hl
    · exact ⟨_, taken⟩
    · exact ih hl

theorem LongestMatch.alone (h : LongestMatch cs p w) : LongestMatch w p w where
  front := List.prefix_rfl
  matched := h.matched
  longest _ _ front _ := front.length_le
  only := h.only

theorem Body.alone (h : Body closer closed body rest) : Body closer closed body [] := by
  cases h with
  | closed ends => exact .closed ends
  | «open» never => exact .open never

/-- A lexeme is the one to be taken where nothing but its text stands. -/
theorem Taken.alone (h : Taken cs l) : Taken l.text l := by
  cases h with
  | @matched w _ p kind longest whole named =>
    have taken : Taken (w ++ []) ⟨kind, w⟩ :=
      .matched (by simpa using longest.alone) whole named
    rwa [List.append_nil] at taken
  | @region p kind opener closer body _ closed region longest closes =>
    have taken : Taken (opener ++ (body ++ [])) ⟨kind closed, opener ++ body⟩ :=
      .region region (region.longestMatch _) closes.alone
    rwa [List.append_nil] at taken
  | unknown unmatched =>
    refine .unknown fun p w front => unmatched p w ?_
    exact front.trans (List.cons_prefix_cons.2 ⟨rfl, List.nil_prefix⟩)

/-- The text of a lexeme is one lexeme. -/
theorem Taken.scan_text (h : Taken cs l) : ∃ l', scan l.text = [l'] ∧ Alike l l' := by
  have lexed : Lexed (l.text ++ []) [l] := .cons (by simpa using h.alone) .nil
  have alike := lexed.alike (lexed_scan l.text) (List.append_nil _).symm
  obtain ⟨l', rest, same, none, hscan⟩ := List.forall₂_cons_left_iff.1 alike
  rw [List.forall₂_nil_left_iff.1 none] at hscan
  exact ⟨l', hscan, same⟩

theorem Alike.word? (h : Alike l l') : l'.word? = l.word? := by
  rw [Lexeme.word?, Lexeme.word?, h.tokenKind?, h.1]

/-! ## What is left open -/

/-- A text block is its opener and its body. -/
theorem Taken.exists_block (h : Taken cs l) (block : l.kind.pattern? = some .textBlock) :
    ∃ closed body rest, l = ⟨.textBlock closed, ['"', '"', '"'] ++ body⟩ ∧
      cs = ['"', '"', '"'] ++ (body ++ rest) ∧ Body ['"', '"', '"'] closed body rest := by
  cases h with
  | matched _ whole named => exact absurd (Option.some.inj (named.symm.trans block)) whole.2
  | region region _ closes =>
    cases region with
    | blockComment => cases block
    | textBlock => exact ⟨_, _, _, rfl, rfl, closes⟩
  | unknown => cases block

/-- Two text blocks of the same text are both closed, or neither is. -/
theorem Taken.textBlock_eq {cs' : List Char} {closed' : Bool} (h : Taken cs l) (h' : Taken cs' l')
    (block : l.kind = .textBlock closed) (block' : l'.kind = .textBlock closed')
    (same : l'.text = l.text) : closed' = closed := by
  obtain ⟨_, body, _, rfl, -, closes⟩ := h.exists_block (by rw [block]; rfl)
  obtain ⟨_, body', _, rfl, -, closes'⟩ := h'.exists_block (by rw [block']; rfl)
  cases block
  cases block'
  exact (closes.alone.unique closes'.alone (by simpa using same)).2

/-- A text block that is left open runs to the end. -/
theorem Taken.eq_nil_of_open (h : Taken (l.text ++ rest) l) (block : l.kind = .textBlock false) :
    rest = [] := by
  obtain ⟨_, body, after, rfl, split, closes⟩ := h.exists_block (by rw [block]; rfl)
  cases block
  obtain rfl : rest = after := by simpa using split
  cases closes
  rfl

/-- A token that is followed by something leaves nothing open where it stands alone. -/
theorem Taken.allClosed {kind : Token.Kind} (h : Taken (l.text ++ rest) l) (more : rest ≠ [])
    (token : l.tokenKind? = some kind) : AllClosed (scan l.text) := by
  obtain ⟨l', hscan, alike⟩ := h.scan_text
  have lexed := lexed_scan l.text
  rw [hscan] at lexed ⊢
  rintro _ (_ | ⟨_, ⟨⟩⟩)
  constructor
  · intro comment
    rw [← alike.tokenKind?, tokenKind?, comment] at token
    cases token
  · intro block
    have pattern : l.kind.pattern? = some .textBlock := by
      rw [← alike.2, block]
      rfl
    obtain ⟨closed, _, _, hl, -⟩ := h.exists_block pattern
    obtain ⟨_, taken⟩ := lexed.exists_taken List.mem_cons_self
    have kind : l.kind = .textBlock closed := by rw [hl]
    obtain rfl := h.textBlock_eq taken kind block alike.1
    exact more (h.eq_nil_of_open kind)

end Lexeme

/-! ## Words by lines -/

open Lexeme (Lexed Taken scan word?)

/-- The words of a source are those of its lexemes. -/
theorem words_tokenize (source : String) :
    (tokenize source).tokens.map Token.word = (scan source.toList).filterMap word? := by
  rw [tokenize_tokens, placedLexemes, Lexeme.place_eq, Lexeme.filterMap_token?_joinUnknown,
    ← Lexeme.place_eq, Lexeme.words_place]

/-- Where nothing is left open, the words on the lines that follow come behind those of a text. -/
theorem words_line {source : String} (closed : Lexeme.AllClosed (scan source.toList))
    (more : String) :
    (tokenize (source ++ "\n" ++ more)).tokens.map Token.word =
      (tokenize source).tokens.map Token.word ++ (tokenize more).tokens.map Token.word := by
  rw [tokens_line closed, List.map_append, List.map_map]
  rfl

/-- A word by itself is read as the same word. -/
theorem Lexeme.Taken.words_text {cs : List Char} {l : Lexeme} {w : Word} (h : Taken cs l)
    (hword : word? l = some w) : (tokenize w.text).tokens.map Token.word = [w] := by
  obtain ⟨kind, -, rfl⟩ := Option.map_eq_some_iff.1 hword
  obtain ⟨l', hscan, alike⟩ := h.scan_text
  have same : word? l' = some _ := alike.word?.trans hword
  rw [words_tokenize, String.toList_ofList, hscan, List.filterMap_cons_some same]
  rfl

/-- The words of a text, one to a line, are read as the same words. -/
theorem Lexeme.Lexed.words_lines {cs : List Char} {ls : List Lexeme} (h : Lexed cs ls) :
    (tokenize ("\n".intercalate ((ls.filterMap word?).map Word.text))).tokens.map Token.word =
      ls.filterMap word? := by
  induction h with
  | nil => rw [words_tokenize]; simp
  | @cons l rest ls taken next ih =>
    cases hword : word? l with
    | none => rwa [List.filterMap_cons_none hword]
    | some w =>
      have alone := taken.words_text hword
      rw [List.filterMap_cons_some hword, List.map_cons]
      by_cases last : ls.filterMap word? = []
      · rw [last, List.map_nil, String.intercalate_singleton, alone]
      · -- Something follows the word, so nothing is left open in it.
        have more : rest ≠ [] := fun empty => last (by rw [next.eq_nil empty, List.filterMap_nil])
        obtain ⟨kind, token, rfl⟩ := Option.map_eq_some_iff.1 hword
        have closed := taken.allClosed more token
        rw [← String.toList_ofList (l := l.text)] at closed
        rw [String.intercalate_cons_of_ne_nil (by simpa using last), words_line closed, alone, ih]
        rfl

/-- The tokens of a source are read back. Their texts, one to a line, have the same tokens in the
same order: as many, of the same kinds and with the same texts. -/
theorem tokens_rescanned (source : String) :
    (tokenize ("\n".intercalate ((tokenize source).tokens.map Token.text))).tokens.map Token.word =
      (tokenize source).tokens.map Token.word := by
  have texts : (tokenize source).tokens.map Token.text =
      ((tokenize source).tokens.map Token.word).map Word.text := by
    rw [List.map_map]
    rfl
  rw [texts, words_tokenize source]
  exact (Lexeme.lexed_scan source.toList).words_lines

end JavaLens
