import JavaLens.Proofs.Tokenization.Rescan

/-!
# Text blocks and their escapes

In the body of a text block a backslash is meant to take the next character with it, so that an
escaped quote does not count towards the closing delimiter. The scanner ends a text block with the
first three quotes behind its opener and knows no escapes there. So a body is read as a whole if and
only if no quote in it, escaped or not, stands in front of two more, those of the delimiter
included.

## Main definitions

* `BlockUnit` — a character of a body, or a backslash with the character behind it.
* `BlockUnit.textBlock` — the text block of a body.
* `BlockUnit.KeepsOpen` — a body that does not contain its delimiter, by the quotes that count.
* `IsLiteral` — a source that is one literal and nothing else.

## Main statements

* `isLiteral_block_iff` — a text block ends with the first delimiter in it.
* `BlockUnit.isLiteral_textBlock_iff` — the bodies that are read as a whole.
* `BlockUnit.escaped_quote_ends_textBlock` — an escaped quote counts towards the delimiter.
-/

namespace JavaLens

/-- Whether a source is one literal, from its start to its end and with nothing wrong. -/
def IsLiteral (source : String) : Prop :=
  tokenize source = ⟨[⟨.literal, source, 0, source.utf8ByteSize⟩], []⟩

/-! ## The end of a text block -/

namespace Lexeme

variable {closer body cs : List Char}

/-- A body ends with the first closer in it if there is none in front of its last character. -/
theorem endsFirst_iff (hne : closer ≠ []) :
    EndsFirst closer body ↔ closer <:+ body ∧ ¬closer <:+: body.dropLast := by
  constructor
  · intro h
    refine ⟨h.ended, fun inside => ?_⟩
    obtain ⟨front, ends, leads⟩ := List.infix_iff_suffix_prefix.1 inside
    have whole := h.first front (leads.trans (List.dropLast_prefix body)) ends
    have short := leads.length_le
    rw [whole, List.length_dropLast] at short
    have := h.ended.length_le
    have := List.length_pos_of_ne_nil hne
    omega
  · rintro ⟨ended, outside⟩
    refine ⟨ended, fun front leads ends => ?_⟩
    by_contra proper
    have shorter : front.length ≤ body.dropLast.length := by
      have := leads.length_le
      have : front.length ≠ body.length := fun same => proper (leads.eq_of_length same)
      rw [List.length_dropLast]
      omega
    have inside := List.prefix_of_prefix_length_le leads (List.dropLast_prefix body) shorter
    exact outside (List.infix_iff_suffix_prefix.2 ⟨front, ends, inside⟩)

/-- Behind three quotes the first lexeme is a text block. -/
theorem scan_block (cs : List Char) :
    ∃ closed body rest, cs = body ++ rest ∧ Body ['"', '"', '"'] closed body rest ∧
      scan (['"', '"', '"'] ++ cs) = ⟨.textBlock closed, ['"', '"', '"'] ++ body⟩ :: scan rest := by
  rcases hlongest : longest (['"', '"', '"'] ++ cs) with ⟨kind, size⟩
  obtain ⟨closed, body, rest, rfl, rfl, rfl, closes⟩ := Region.textBlock.longest_eq hlongest
  rw [← List.append_assoc] at hlongest
  refine ⟨closed, body, rest, rfl, closes, ?_⟩
  rw [← List.append_assoc, scan_append hlongest (by simp)]

end Lexeme

open Lexeme (scan word? EndsFirst)

/-- A source that is one lexeme has its token and its finding. -/
theorem tokenize_of_scan {source : String} {l : Lexeme} (h : scan source.toList = [l]) :
    let placed : Lexeme.Placed := ⟨l, 0, source.utf8ByteSize⟩
    tokenize source = ⟨placed.token?.toList, placed.finding?.toList⟩ := by
  have text : l.text = source.toList := by
    have := Lexeme.chars_scan source.toList
    rwa [h, Lexeme.chars_cons, Lexeme.chars_nil, List.append_nil] at this
  have size : 0 + Lexeme.byteLength l.text = source.utf8ByteSize := by
    rw [Lexeme.byteLength_eq_utf8Len, text, Span.utf8Len_toList, Nat.zero_add]
  have placed : placedLexemes source = [⟨l, 0, source.utf8ByteSize⟩] := by
    rw [placedLexemes, h, Lexeme.place_eq, ← size]
    rfl
  have traces {α : Type} (trace : Lexeme.Placed → Option α) (p : Lexeme.Placed) :
      [p].filterMap trace = (trace p).toList := by
    cases found : trace p <;> simp [found]
  intro only
  rw [← traces, ← traces, ← placed]
  rfl

/-- A text block is one literal if it ends with the first delimiter behind its opener. -/
theorem isLiteral_block_iff (body : List Char) :
    IsLiteral (String.ofList (['"', '"', '"'] ++ body)) ↔ EndsFirst ['"', '"', '"'] body := by
  obtain ⟨closed, front, rest, rfl, closes, hscan⟩ := Lexeme.scan_block body
  rw [← String.toList_ofList (l := ['"', '"', '"'] ++ (front ++ rest))] at hscan
  constructor
  · intro literal
    -- The first token is the text block, and the whole source, so nothing follows it.
    have words := words_tokenize (String.ofList (['"', '"', '"'] ++ (front ++ rest)))
    have first : word? ⟨.textBlock closed, ['"', '"', '"'] ++ front⟩ =
        some ⟨.literal, String.ofList (['"', '"', '"'] ++ front)⟩ := rfl
    rw [literal, hscan, List.filterMap_cons_some first, List.map_cons, List.cons_eq_cons] at words
    have same := String.ofList_inj.1 (congrArg Word.text words.1)
    obtain rfl : rest = [] := by simpa using same
    rw [Lexeme.scan_nil] at hscan
    rw [List.append_nil] at hscan literal ⊢
    rw [IsLiteral, tokenize_of_scan hscan] at literal
    cases closes with
    | closed ends => exact ends
    | «open» => cases congrArg Tokenization.findings literal
  · intro ends
    have whole : Lexeme.Body ['"', '"', '"'] true (front ++ rest) [] := .closed ends
    obtain ⟨same, rfl⟩ := closes.unique whole (List.append_nil _)
    obtain rfl : rest = [] := by simpa using same
    rw [Lexeme.scan_nil] at hscan
    rw [List.append_nil] at hscan ⊢
    rw [IsLiteral, tokenize_of_scan hscan]
    rfl

/-! ## Bodies by their units -/

/-- A unit of the body of a text block. -/
inductive BlockUnit where
  /-- A character other than a backslash. -/
  | plain (c : Char) (unescaped : c ≠ '\\')
  /-- A backslash and the character behind it. -/
  | escaped (c : Char)
deriving DecidableEq

namespace BlockUnit

/-- The characters of a unit. -/
def chars : BlockUnit → List Char
  | plain c _ => [c]
  | escaped c => ['\\', c]

/-- The characters of a body. -/
def bodyChars (units : List BlockUnit) : List Char := units.flatMap chars

/-- A double quote that is not escaped. -/
def quote : BlockUnit := plain '"' (by decide)

/-- A double quote that is escaped. -/
def escapedQuote : BlockUnit := escaped '"'

/-- The text block of a body: three quotes, a newline, the body and three quotes. -/
def textBlock (units : List BlockUnit) : String :=
  String.ofList (['"', '"', '"'] ++ '\n' :: (bodyChars units ++ ['"', '"', '"']))

/-- Whether a body does not contain its delimiter if `first` are the units that count as the first
quote of one: none of them stands in front of two quotes, and none is the last unit. -/
def KeepsOpen (first : List BlockUnit) (units : List BlockUnit) : Prop :=
  (∀ u ∈ first, ¬[u, quote, quote] <:+: units) ∧ ∀ u ∈ first, units.getLast? ≠ some u

instance (first units : List BlockUnit) : Decidable (KeepsOpen first units) :=
  inferInstanceAs (Decidable (_ ∧ _))

variable {units : List BlockUnit} {u : BlockUnit} {w : List Char}

@[simp] theorem bodyChars_nil : bodyChars [] = [] := rfl

@[simp] theorem bodyChars_plain (c : Char) (h : c ≠ '\\') (units : List BlockUnit) :
    bodyChars (plain c h :: units) = c :: bodyChars units := rfl

@[simp] theorem bodyChars_escaped (c : Char) (units : List BlockUnit) :
    bodyChars (escaped c :: units) = '\\' :: c :: bodyChars units := rfl

/-- A quote at the front of a body is a unit by itself. -/
theorem quote_prefix_iff :
    '"' :: w <+: bodyChars units ↔ ∃ rest, units = quote :: rest ∧ w <+: bodyChars rest := by
  cases units with
  | nil => simp
  | cons u rest =>
    cases u with
    | plain c h => simp [quote, List.cons_prefix_cons, eq_comm]
    | escaped c => simp [quote, List.cons_prefix_cons]

theorem quotes_prefix_iff : ['"', '"'] <+: bodyChars units ↔ [quote, quote] <+: units := by
  constructor
  · intro h
    obtain ⟨behind, rfl, next⟩ := quote_prefix_iff.1 h
    obtain ⟨rest, rfl, -⟩ := quote_prefix_iff.1 next
    exact ⟨rest, rfl⟩
  · rintro ⟨rest, rfl⟩
    exact ⟨bodyChars rest, rfl⟩

/-- Three quotes stand side by side in a body where two quotes stand behind one that may be
escaped. -/
theorem delimiter_infix_iff :
    ['"', '"', '"'] <:+: bodyChars units ↔
      ∃ u ∈ [quote, escapedQuote], [u, quote, quote] <:+: units := by
  induction units with
  | nil => simp
  | cons u units ih =>
    simp only [List.infix_cons_iff (a := u), List.cons_prefix_cons, and_or_left, exists_or, ← ih,
      ← quotes_prefix_iff]
    cases u with
    | plain c h =>
      simp [List.infix_cons_iff, List.cons_prefix_cons, quote, escapedQuote, eq_comm]
    | escaped c =>
      simp [List.infix_cons_iff, List.cons_prefix_cons, quote, escapedQuote, eq_comm]

/-- The quotes of the delimiter are units like those of the body. -/
theorem bodyChars_append_quotes (units : List BlockUnit) :
    bodyChars units ++ ['"', '"'] = bodyChars (units ++ [quote, quote]) := by
  rw [bodyChars, bodyChars, List.flatMap_append]
  rfl

/-- Two quotes behind a body make three where the body has one in front of two or one at its
end. -/
theorem infix_append_quotes :
    [u, quote, quote] <:+: units ++ [quote, quote] ↔
      [u, quote, quote] <:+: units ∨ [u, quote] <:+ units ∨ [u] <:+ units := by
  have last : [u, quote, quote] <:+ units ++ [quote, quote] ↔ [u] <:+ units :=
    @List.suffix_append_self_iff _ [u] units [quote, quote]
  have next : [u, quote, quote] <:+ units ++ [quote] ↔ [u, quote] <:+ units :=
    @List.suffix_append_self_iff _ [u, quote] units [quote]
  have split : units ++ [quote, quote] = units ++ [quote] ++ [quote] := by simp
  rw [split, List.infix_concat_iff, List.infix_concat_iff, ← split, last, next]
  tauto

/-- A body keeps its text block open up to the delimiter if no quote in it is part of three, those
of the delimiter counted. -/
theorem keepsOpen_iff :
    KeepsOpen [quote, escapedQuote] units ↔
      ¬['"', '"', '"'] <:+: bodyChars units ++ ['"', '"'] := by
  simp only [bodyChars_append_quotes, delimiter_infix_iff, infix_append_quotes, not_exists,
    not_and, not_or, KeepsOpen, List.singleton_suffix_iff_getLast?_eq_some]
  constructor
  · rintro ⟨apart, last⟩ u hu
    refine ⟨apart u hu, fun pair => ?_, last u hu⟩
    have ends : [quote] <:+ units := (List.suffix_cons u [quote]).trans pair
    exact last quote List.mem_cons_self (List.singleton_suffix_iff_getLast?_eq_some.1 ends)
  · intro h
    exact ⟨fun u hu => (h u hu).1, fun u hu => (h u hu).2.2⟩

/-- The text block of a body is one literal if and only if no three quotes stand in a row in the
body, of which the first may be escaped, and the body does not end in a quote, escaped or not. -/
theorem isLiteral_textBlock_iff (units : List BlockUnit) :
    IsLiteral (textBlock units) ↔ KeepsOpen [quote, escapedQuote] units := by
  have ended : ['"', '"', '"'] <:+ '\n' :: (bodyChars units ++ ['"', '"', '"']) :=
    ⟨'\n' :: bodyChars units, rfl⟩
  have front : ('\n' :: (bodyChars units ++ ['"', '"', '"'])).dropLast =
      '\n' :: (bodyChars units ++ ['"', '"']) := by
    simp [List.dropLast_cons_of_ne_nil, List.dropLast_append_of_ne_nil]
  rw [textBlock, isLiteral_block_iff, Lexeme.endsFirst_iff (by simp), front, List.infix_cons_iff,
    keepsOpen_iff]
  simp [ended, List.cons_prefix_cons]

/-- By its escapes this body does not contain its delimiter, as only two quotes in it are not
escaped. The text block ends with them all the same. -/
theorem escaped_quote_ends_textBlock :
    let units := [escapedQuote, quote, quote, plain 'x' (by decide)]
    let scanned := tokenize (textBlock units)
    KeepsOpen [quote] units ∧ ¬IsLiteral (textBlock units) ∧
      scanned.tokens = [⟨.literal, "\"\"\"\n\\\"\"\"", 0, 8⟩, ⟨.ident, "x", 8, 9⟩,
        ⟨.literal, "\"\"\"", 9, 12⟩] ∧
      scanned.findings = [⟨.openTextBlock, 9, 12⟩] := by
  intro units scanned
  have facts : scanned.tokens = [⟨.literal, "\"\"\"\n\\\"\"\"", 0, 8⟩, ⟨.ident, "x", 8, 9⟩,
      ⟨.literal, "\"\"\"", 9, 12⟩] ∧ scanned.findings = [⟨.openTextBlock, 9, 12⟩] := by
    decide +kernel
  refine ⟨by decide, fun literal => ?_, facts⟩
  cases congrArg List.length ((congrArg Tokenization.tokens literal).symm.trans facts.1)

end BlockUnit

end JavaLens
