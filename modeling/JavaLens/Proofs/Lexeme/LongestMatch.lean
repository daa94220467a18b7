import JavaLens.Proofs.Lexeme.Measure

/-!
# The longest match

Every rule of the scanner but those for regions measures a part of a pattern, and together they
measure all of every pattern. So the longest match of a rule is the longest text that any pattern
matches. No text is matched by two patterns: which one it can be is told from the text.

## Main definitions

* `Lexeme.Realizes` — the rule for a part of a pattern.
* `Lexeme.patternOf` — the pattern that may match a text.

## Main statements

* `Lexeme.Realizes.measures`, `Lexeme.Pattern.Matches.cases` — rules and patterns.
* `Lexeme.patternOf_eq` — a text is matched by one pattern at most.
* `Lexeme.taken_of_longest` — the scanner takes the lexeme of the longest match.
-/

namespace JavaLens.Lexeme

open Recognizer Regex

variable {p q : Pattern} {w cs rest : List Char} {rule : Rule} {r : Regex} {c : Char}

/-! ## Rules and patterns -/

/-- Which rule of the scanner is for which part of a pattern. -/
inductive Realizes : Rule → Pattern → Regex → Prop where
  | blank : Realizes ⟨.blank, run isBlank⟩ .skip blankRegex
  | lineComment : Realizes ⟨.lineComment, lineComment⟩ .skip lineCommentRegex
  | closedString :
      Realizes ⟨.string true, quoted '"' true⟩ (.string true)
        ((openLiteral '"').append (literal ['"']))
  | openString : Realizes ⟨.string false, quoted '"' false⟩ (.string false) (openLiteral '"')
  | closedCharacter :
      Realizes ⟨.character true, quoted '\'' true⟩ (.character true)
        ((openLiteral '\'').append (literal ['\'']))
  | openCharacter :
      Realizes ⟨.character false, quoted '\'' false⟩ (.character false) (openLiteral '\'')
  | decimal : Realizes ⟨.number, decimal⟩ .number decimalRegex
  | pointed : Realizes ⟨.number, pointed⟩ .number pointedRegex
  | hexadecimal :
      Realizes ⟨.number, hexadecimal⟩ .number (basedRegex ['x', 'X'] isHexOrMark)
  | binary : Realizes ⟨.number, binary⟩ .number (basedRegex ['b', 'B'] isBinaryOrMark)
  | word : Realizes ⟨.word, (one isWordStart).extendedBy (run isWordPart)⟩ .word wordRegex
  | symbol {spelling : List Char} {kind : Token.Kind} (h : (spelling, kind) ∈ symbols) :
      Realizes ⟨.symbol kind, exactly spelling⟩ (.symbol kind) (literal spelling)

/-- Every rule is for a region or for a part of a pattern. -/
theorem region_or_realizes (h : rule ∈ rules) :
    (∃ p kind opener closer closed, Region p kind opener closer ∧
      rule = ⟨kind closed, enclosed opener closer closed⟩) ∨ ∃ p r, Realizes rule p r := by
  rw [← List.take_append_drop 10 rules, List.mem_append] at h
  rcases h with region | solid
  · obtain rfl | rfl | ⟨closed, rfl⟩ | ⟨closed, rfl⟩ | ⟨_ | _, rfl⟩ | ⟨_ | _, rfl⟩ :=
      mem_regionRules_iff.1 region
    · exact .inr ⟨_, _, .blank⟩
    · exact .inr ⟨_, _, .lineComment⟩
    · exact .inl ⟨_, _, _, _, closed, .blockComment, rfl⟩
    · exact .inl ⟨_, _, _, _, closed, .textBlock, rfl⟩
    · exact .inr ⟨_, _, .openString⟩
    · exact .inr ⟨_, _, .closedString⟩
    · exact .inr ⟨_, _, .openCharacter⟩
    · exact .inr ⟨_, _, .closedCharacter⟩
  · obtain (rfl | rfl | rfl | rfl | rfl) | ⟨spelling, kind, hsymbol, rfl⟩ := mem_drop_rules solid
    · exact .inr ⟨_, _, .decimal⟩
    · exact .inr ⟨_, _, .pointed⟩
    · exact .inr ⟨_, _, .hexadecimal⟩
    · exact .inr ⟨_, _, .binary⟩
    · exact .inr ⟨_, _, .word⟩
    · exact .inr ⟨_, _, .symbol hsymbol⟩

/-- A class of a few characters has none in common with another one. -/
theorem apart_isOneOf {p : Char → Bool} {letters : List Char} (h : letters.all (!p ·)) (c : Char)
    (hc : p c) : isOneOf letters c = false := by
  rw [Bool.eq_false_iff]
  intro listed
  have := List.all_eq_true.1 h c (List.contains_iff_mem.1 listed)
  simp [hc] at this

theorem measures_exponent : Measures Char.isDigit exponent exponentRegex.language := by
  have digits := Measures.run Char.isDigit
  have startsDigits : Starts Char.isDigit (run Char.isDigit) := fun c cs hc => by simp [run, hc]
  have signed := (Measures.one (isOneOf ['+', '-'])).followedBy digits
  have body := digits.either signed startsDigits (Starts.one _).followedBy
    (apart_isOneOf (by decide))
  have whole := (Measures.one (isOneOf ['e', 'E'])).followedBy body
  -- The sign is optional in the expression, and one of two cases for the recognizer.
  have same : exponentRegex.language = (oneOf (isOneOf ['e', 'E'])).language *
      ((plus (oneOf Char.isDigit)).language +
        (oneOf (isOneOf ['+', '-'])).language * (plus (oneOf Char.isDigit)).language) := by
    change (oneOf (isOneOf ['e', 'E'])).language * (1 + (oneOf (isOneOf ['+', '-'])).language) *
      (plus (oneOf Char.isDigit)).language = _
    rw [mul_assoc, add_mul, one_mul]
  simp only [Bool.or_self, ← same] at whole
  exact whole

theorem measures_decimal : ∃ p, Measures p decimal decimalRegex.language := by
  have whole := (Measures.one Char.isDigit).extendedBy_run isDigitOrMark fun _ h => by cases h
  have point := (Measures.one (· = '.')).extendedBy_run isDigitOrMark fun _ h => by cases h
  have pointed := whole.extendedBy point (Starts.one _).extendedBy fun c hc => by
    rw [decide_eq_false_iff_not]
    rintro rfl
    exact absurd hc (by decide)
  have scaled := pointed.extendedBy measures_exponent (Starts.one _).followedBy
    (apart_isOneOf (by decide))
  have typed := scaled.extendedBy (Measures.one (isOneOf ['l', 'L', 'f', 'F', 'd', 'D']))
    (Starts.one _) (apart_isOneOf (by decide))
  exact ⟨_, typed⟩

theorem measures_pointed : ∃ p, Measures p pointed pointedRegex.language := by
  have digit := (Measures.one (· = '.')).followedBy (Measures.one Char.isDigit)
  have digits := digit.extendedBy_run isDigitOrMark fun _ h => by cases h
  have scaled := digits.extendedBy measures_exponent (Starts.one _).followedBy
    (apart_isOneOf (by decide))
  have typed := scaled.extendedBy (Measures.one (isOneOf ['f', 'F', 'd', 'D']))
    (Starts.one _) (apart_isOneOf (by decide))
  exact ⟨_, typed⟩

theorem measures_based (letters : List Char) {digit : Char → Bool}
    (h : ['l', 'L'].all (!digit ·)) :
    ∃ p, Measures p ((((one (· = '0')).followedBy (one (isOneOf letters))).followedBy
      (run digit)).extendedBy (one (isOneOf ['l', 'L']))) (basedRegex letters digit).language := by
  have digits := ((Measures.one (· = '0')).followedBy (Measures.one (isOneOf letters))).followedBy
    (Measures.run digit)
  exact ⟨_, digits.extendedBy (Measures.one (isOneOf ['l', 'L'])) (Starts.one _) (apart_isOneOf h)⟩

/-- A rule measures its part of the pattern. -/
theorem Realizes.measures (h : Realizes rule p r) : ∃ q, Measures q rule.size r.language := by
  cases h with
  | blank => exact ⟨_, .run isBlank⟩
  | lineComment =>
    exact ⟨_, (Measures.exactly (by simp)).extendedBy_run _ fun _ h => by cases h⟩
  | closedString => exact ⟨_, measures_closedLiteral (by decide)⟩
  | openString => exact ⟨_, measures_openLiteral '"'⟩
  | closedCharacter => exact ⟨_, measures_closedLiteral (by decide)⟩
  | openCharacter => exact ⟨_, measures_openLiteral '\''⟩
  | decimal => exact measures_decimal
  | pointed => exact measures_pointed
  | hexadecimal => exact measures_based _ (by decide)
  | binary => exact measures_based _ (by decide)
  | word => exact ⟨_, (Measures.one isWordStart).extendedBy_run _ fun _ h => by cases h⟩
  | symbol h =>
    have spelled : ∀ entry ∈ symbols, entry.1 ≠ [] := by decide
    exact ⟨_, .exactly (spelled _ h)⟩

theorem Realizes.mem_rules (h : Realizes rule p r) : rule ∈ rules := by
  cases h with
  | symbol h => exact List.mem_append_right _ (List.mem_map.2 ⟨_, h, rfl⟩)
  | _ => exact List.mem_append_left _ (by simp)

theorem Realizes.pattern (h : Realizes rule p r) :
    rule.kind.pattern? = some p ∧ p ≠ .blockComment ∧ p ≠ .textBlock := by
  cases h <;> simp [Kind.pattern?]

/-- The operators are those that are spelled out among the symbols. -/
theorem mem_operatorRegex : w ∈ operatorRegex.language ↔ (w, .operator) ∈ symbols := by
  constructor
  · have spelled : spelledOperators.all fun s => (s, .operator) ∈ symbols := by decide
    have simple : simpleOperators.all fun c =>
      ([c], .operator) ∈ symbols ∧ ([c, '='], .operator) ∈ symbols := by decide
    intro h
    rcases mem_literalOr.1 h with listed | ⟨_, ⟨c, hc, rfl⟩, _, rfl | assigns, rfl⟩
    · simpa using List.all_eq_true.1 spelled w listed
    · have := List.all_eq_true.1 simple c (List.contains_iff_mem.1 hc)
      exact (of_decide_eq_true this).1
    · have := List.all_eq_true.1 simple c (List.contains_iff_mem.1 hc)
      obtain rfl := mem_literal.1 assigns
      exact (of_decide_eq_true this).2
  · have listed : symbols.all fun entry => entry.2 = .operator →
      entry.1 ∈ spelledOperators ∨
        simpleOperators.any fun c => entry.1 = [c] ∨ entry.1 = [c, '='] := by decide
    intro h
    have := List.all_eq_true.1 listed _ h
    rcases of_decide_eq_true this rfl with h | h
    · exact mem_literalOr.2 (.inl h)
    · obtain ⟨c, hc, h⟩ := List.any_eq_true.1 h
      refine mem_literalOr.2 (.inr ⟨[c], ⟨c, List.contains_iff_mem.2 hc, rfl⟩, ?_⟩)
      rcases of_decide_eq_true h with h | h
      · exact ⟨[], .inl rfl, h.symm⟩
      · exact ⟨['='], .inr (mem_literal.2 rfl), h.symm⟩

/-- What is measured for a pattern is matched by it. -/
theorem Realizes.matches (h : Realizes rule p r) (hw : w ∈ r.language) : p.Matches w := by
  cases h with
  | symbol h =>
    have split : symbols.all fun entry => entry ∈ punctuation ∨ entry.2 = .operator := by decide
    rcases of_decide_eq_true (List.all_eq_true.1 split _ h) with listed | rfl
    · exact ⟨_, List.mem_append_left _ (List.mem_append_right _ (List.mem_map.2 ⟨_, listed, rfl⟩)),
        hw⟩
    · obtain rfl := mem_literal.1 hw
      exact ⟨operatorRegex, List.mem_append_right _ List.mem_cons_self, mem_operatorRegex.2 h⟩
  | blank => exact ⟨_, List.mem_append_left _ (List.mem_append_left _ List.mem_cons_self), .inl hw⟩
  | lineComment =>
    exact ⟨_, List.mem_append_left _ (List.mem_append_left _ List.mem_cons_self), .inr hw⟩
  | _ => exact ⟨_, List.mem_append_left _ (List.mem_append_left _ (by simp)), hw⟩

/-- What a pattern matches is the opener of a region or measured by a rule. -/
theorem Pattern.Matches.cases (h : p.Matches w) :
    (∃ kind closer, Region p kind w closer) ∨ ∃ rule r, Realizes rule p r ∧ w ∈ r.language := by
  obtain ⟨r, hr, hw⟩ := h
  rcases List.mem_append.1 hr with hr | hr
  · rcases List.mem_append.1 hr with hr | hr
    · simp only [List.mem_cons, Prod.mk.injEq, List.not_mem_nil, or_false] at hr
      obtain ⟨rfl, rfl⟩ | ⟨rfl, rfl⟩ | ⟨rfl, rfl⟩ | ⟨rfl, rfl⟩ | ⟨rfl, rfl⟩ | ⟨rfl, rfl⟩ |
        ⟨rfl, rfl⟩ | ⟨rfl, rfl⟩ | ⟨rfl, rfl⟩ | ⟨rfl, rfl⟩ | ⟨rfl, rfl⟩ | ⟨rfl, rfl⟩ := hr
      · rcases hw with hw | hw
        · exact .inr ⟨_, _, .blank, hw⟩
        · exact .inr ⟨_, _, .lineComment, hw⟩
      · obtain rfl := mem_literal.1 hw
        exact .inl ⟨_, _, .blockComment⟩
      · obtain rfl := mem_literal.1 hw
        exact .inl ⟨_, _, .textBlock⟩
      · exact .inr ⟨_, _, .closedString, hw⟩
      · exact .inr ⟨_, _, .openString, hw⟩
      · exact .inr ⟨_, _, .closedCharacter, hw⟩
      · exact .inr ⟨_, _, .openCharacter, hw⟩
      · exact .inr ⟨_, _, .decimal, hw⟩
      · exact .inr ⟨_, _, .pointed, hw⟩
      · exact .inr ⟨_, _, .hexadecimal, hw⟩
      · exact .inr ⟨_, _, .binary, hw⟩
      · exact .inr ⟨_, _, .word, hw⟩
    · obtain ⟨⟨spelling, kind⟩, listed, heq⟩ := List.mem_map.1 hr
      have known : punctuation.all (· ∈ symbols) := by decide
      obtain ⟨rfl, rfl⟩ := Prod.mk.inj heq
      have := of_decide_eq_true (List.all_eq_true.1 known _ listed)
      exact .inr ⟨_, _, .symbol this, hw⟩
  · obtain ⟨rfl, rfl⟩ := Prod.mk.inj (List.mem_singleton.1 hr)
    exact .inr ⟨_, _, .symbol (mem_operatorRegex.1 hw), mem_literal.2 rfl⟩

/-- What a pattern matches at the front of a text opens a region there, or a rule measures as much
at least. -/
theorem Pattern.Matches.measured (h : p.Matches w) (front : w <+: cs) :
    (∃ kind closer, Region p kind w closer) ∨
      ∃ rule r, Realizes rule p r ∧ 0 < w.length ∧ w.length ≤ rule.size cs := by
  obtain region | ⟨rule, r, realizes, hw⟩ := h.cases
  · exact .inl region
  · obtain ⟨rest, rfl⟩ := front
    obtain ⟨_, measures⟩ := realizes.measures
    exact .inr ⟨rule, r, realizes, measures.length_pos hw, measures.longest w hw rest⟩

/-! ## One pattern for each text -/

/-- The pattern that may match a text, told from its characters. -/
def patternOf (w : List Char) : Pattern :=
  match symbols.lookup w, w with
  | some kind, _ => .symbol kind
  | none, [] => .skip
  | none, c :: cs =>
    if c = '/' then if cs = ['*'] then .blockComment else .skip
    else if c = '"' then
      if cs = ['"', '"'] then .textBlock else .string (literalBody '"' 1 cs).2
    else if c = '\'' then .character (literalBody '\'' 1 cs).2
    else if isBlank c then .skip
    else if isWordStart c then .word
    else .number

/-- What is told by a test that no symbol passes is no symbol. -/
theorem lookup_eq_none (test : List Char → Bool) (h : symbols.all (!test ·.1)) (hw : test w) :
    symbols.lookup w = none := by
  refine List.lookup_eq_none_iff.2 fun entry hentry => ?_
  have := List.all_eq_true.1 h entry hentry
  rw [bne_iff_ne]
  rintro rfl
  simp [hw] at this

/-- What starts with a character of a class with which no symbol starts is no symbol. -/
theorem lookup_cons_eq_none {p : Char → Bool} (h : symbols.all (!·.1.head?.any p)) (hc : p c)
    (cs : List Char) : symbols.lookup (c :: cs) = none :=
  lookup_eq_none (·.head?.any p) h hc

theorem isWordStart_of_isDigit (h : c.isDigit) : isWordStart c = false := by
  have notMark : c ≠ '_' := by
    rintro rfl
    exact absurd h (by decide)
  have notDollar : c ≠ '$' := by
    rintro rfl
    exact absurd h (by decide)
  have digit : 48 ≤ c.val ∧ c.val ≤ 57 := by simpa using Bool.and_eq_true_iff.1 h
  have letter : c.isAlpha =
      (decide (65 ≤ c.val ∧ c.val ≤ 90) || (97 ≤ c.val && c.val ≤ 122)) := rfl
  rw [isWordStart, letter]
  simp only [decide_eq_false_iff_not]
  grind

theorem patternOf_cons (h : symbols.lookup (c :: cs) = none) :
    patternOf (c :: cs) =
      if c = '/' then if cs = ['*'] then .blockComment else .skip
      else if c = '"' then
        if cs = ['"', '"'] then .textBlock else .string (literalBody '"' 1 cs).2
      else if c = '\'' then .character (literalBody '\'' 1 cs).2
      else if isBlank c then .skip
      else if isWordStart c then .word
      else .number := by
  simp only [patternOf, h]

theorem patternOf_string (h : cs ≠ ['"', '"']) :
    patternOf ('"' :: cs) = .string (literalBody '"' 1 cs).2 := by
  rw [patternOf_cons (lookup_cons_eq_none (p := (· = '"')) (by decide) rfl cs), if_neg (by decide),
    if_pos rfl, if_neg h]

theorem patternOf_character (cs : List Char) :
    patternOf ('\'' :: cs) = .character (literalBody '\'' 1 cs).2 := by
  rw [patternOf_cons (lookup_cons_eq_none (p := (· = '\'')) (by decide) rfl cs), if_neg (by decide),
    if_neg (by decide), if_pos rfl]

theorem patternOf_blank (h : isBlank c) (cs : List Char) : patternOf (c :: cs) = .skip := by
  have plain : [' ', '\t', '\r', '\n', '\x0c'].all fun c => c ≠ '/' ∧ c ≠ '"' ∧ c ≠ '\'' := by
    decide
  obtain ⟨notSlash, notQuote, notTick⟩ := of_decide_eq_true (forall_blank plain c h)
  rw [patternOf_cons (lookup_cons_eq_none (p := isBlank) (by decide) h cs), if_neg notSlash,
    if_neg notQuote, if_neg notTick, if_pos h]

theorem patternOf_word (h : isWordStart c) (cs : List Char) : patternOf (c :: cs) = .word := by
  have ne {d : Char} (hd : isWordStart d = false) : c ≠ d := by
    rintro rfl
    simp [hd] at h
  have visible : isBlank c = false := by
    by_contra blank
    have := forall_blank (p := (!isWordStart ·)) (by decide) c (by simpa using blank)
    simp [h] at this
  rw [patternOf_cons (lookup_cons_eq_none (p := isWordStart) (by decide) h cs),
    if_neg (ne (by decide)), if_neg (ne (by decide)), if_neg (ne (by decide)),
    if_neg (by simp [visible]), if_pos h]

/-- What starts with a digit, or with a point that is no symbol, is a number. -/
theorem patternOf_number (h : c.isDigit ∨ c = '.') (none : symbols.lookup (c :: cs) = none) :
    patternOf (c :: cs) = .number := by
  have visible : isBlank c = false := by
    by_contra blank
    have := forall_blank (p := fun c => !c.isDigit && c != '.') (by decide) c (by simpa using blank)
    grind
  have notWord : isWordStart c = false := by
    rcases h with h | rfl
    · exact isWordStart_of_isDigit h
    · decide
  have ne {d : Char} (hd : d.isDigit = false ∧ d ≠ '.') : c ≠ d := by
    rintro rfl
    simp [hd] at h
  rw [patternOf_cons none, if_neg (ne (by decide)), if_neg (ne (by decide)),
    if_neg (ne (by decide)), if_neg (by simp [visible]), if_neg (by simp [notWord])]

theorem patternOf_digit (h : c.isDigit) (cs : List Char) : patternOf (c :: cs) = .number :=
  patternOf_number (.inl h) (lookup_cons_eq_none (p := Char.isDigit) (by decide) h cs)

/-- A text is matched by one pattern at most. -/
theorem patternOf_eq (h : p.Matches w) : patternOf w = p := by
  obtain ⟨_, _, region⟩ | ⟨rule, r, realizes, hw⟩ := h.cases
  · cases region <;> decide
  cases realizes with
  | blank =>
    obtain ⟨hne, all⟩ := mem_plus_oneOf.1 hw
    obtain ⟨c, cs, rfl⟩ := List.exists_cons_of_ne_nil hne
    exact patternOf_blank (List.all_eq_true.1 all c List.mem_cons_self) cs
  | lineComment =>
    obtain ⟨_, hslashes, body, -, rfl⟩ := hw
    obtain rfl := mem_literal.1 hslashes
    have none : symbols.lookup ('/' :: '/' :: body) = none :=
      lookup_eq_none (['/', '/'].isPrefixOf ·) (by decide) rfl
    exact (patternOf_cons none).trans ((if_pos rfl).trans (if_neg (by simp)))
  | closedString =>
    obtain ⟨body, hbody, rfl⟩ := mem_closedLiteral.1 hw
    have closed := literalBody_closed (by decide) hbody 1 []
    rw [patternOf_string, closed]
    intro quotes
    obtain rfl : body = [] := by simpa [quotes, literalBody] using closed
    simp at quotes
  | openString =>
    obtain ⟨body, hbody, rfl⟩ := mem_openLiteral.1 hw
    have «open» := literalBody_open hbody 1
    rw [patternOf_string, «open»]
    rintro rfl
    simp [literalBody] at «open»
  | closedCharacter =>
    obtain ⟨body, hbody, rfl⟩ := mem_closedLiteral.1 hw
    rw [patternOf_character, literalBody_closed (by decide) hbody]
  | openCharacter =>
    obtain ⟨body, hbody, rfl⟩ := mem_openLiteral.1 hw
    rw [patternOf_character, literalBody_open hbody]
  | decimal =>
    obtain ⟨q, measures⟩ := Realizes.decimal.measures
    obtain ⟨c, cs, rfl, hc⟩ := measures.starts starts_decimal hw
    exact patternOf_digit hc cs
  | pointed =>
    obtain ⟨_, ⟨_, ⟨_, start, _, _, rfl⟩, _, _, rfl⟩, _, _, rfl⟩ := hw
    obtain ⟨_, ⟨c, hc, rfl⟩, _, ⟨d, hd, rfl⟩, rfl⟩ := start
    obtain rfl := of_decide_eq_true hc
    refine patternOf_number (.inr rfl) ?_
    exact lookup_eq_none (fun w => w.head? = some '.' ∧ w.tail.head?.any Char.isDigit) (by decide)
      (by simp [hd])
  | hexadecimal | binary =>
    obtain ⟨_, ⟨_, ⟨_, ⟨c, hc, rfl⟩, _, _, rfl⟩, _, _, rfl⟩, _, _, rfl⟩ := hw
    obtain rfl := of_decide_eq_true hc
    exact patternOf_digit (by decide) _
  | word =>
    obtain ⟨_, ⟨c, hc, rfl⟩, cs, _, rfl⟩ := hw
    exact patternOf_word hc cs
  | symbol h =>
    have told : symbols.all fun entry => symbols.lookup entry.1 = some entry.2 := by decide
    obtain rfl := mem_literal.1 hw
    simp [patternOf, of_decide_eq_true (List.all_eq_true.1 told _ h)]

/-! ## Regions -/

section Regions

variable {kind : Bool → Kind} {opener closer : List Char}

theorem Region.ne_nil (h : Region p kind opener closer) : opener ≠ [] ∧ closer ≠ [] := by
  cases h <;> simp

theorem Region.mem_rules (h : Region p kind opener closer) (closed : Bool) :
    ⟨kind closed, enclosed opener closer closed⟩ ∈ rules := by
  refine List.mem_append_left _ ?_
  cases h <;> cases closed <;> simp

theorem Region.matches (h : Region p kind opener closer) : p.Matches opener := by
  refine ⟨literal opener, List.mem_append_left _ (List.mem_append_left _ ?_), mem_literal.2 rfl⟩
  cases h <;> simp

/-- Only one region opens at the front of a text. -/
theorem Region.unique {kind' : Bool → Kind} {opener' closer' : List Char}
    (h : Region p kind opener closer) (h' : Region q kind' opener' closer')
    (front : opener' <+: opener ++ cs) : kind' = kind ∧ opener' = opener ∧ closer' = closer := by
  cases h <;> cases h' <;> simp at front ⊢

/-- A symbol does not reach over some characters if no symbol starts with them. -/
theorem exactly_symbol_lt {spelling : List Char} {kind : Token.Kind} {front : List Char}
    (listed : (spelling, kind) ∈ symbols) (h : symbols.all (!front.isPrefixOf ·.1))
    (hne : front ≠ []) (cs : List Char) : exactly spelling (front ++ cs) < front.length := by
  by_cases spelled : spelling <+: front ++ cs
  · have size : exactly spelling (front ++ cs) = spelling.length :=
      if_pos (List.isPrefixOf_iff_prefix.2 spelled)
    rw [size]
    by_contra! long
    have inside := List.prefix_of_prefix_length_le (List.prefix_append front cs) spelled long
    have := List.all_eq_true.1 h _ listed
    simp [List.isPrefixOf_iff_prefix.2 inside] at this
  · rw [exactly_of_missed spelled]
    exact List.length_pos_of_ne_nil hne

/-- Where a region opens, all that is no region is shorter than its opener. -/
theorem Region.shorter (h : Region p kind opener closer) (realizes : Realizes rule q r)
    (cs : List Char) : rule.size (opener ++ cs) < opener.length := by
  cases h with
  | blockComment =>
    cases realizes with
    | symbol h => exact exactly_symbol_lt h (by decide) (by simp) cs
    | _ => exact Nat.zero_lt_two
  | textBlock =>
    cases realizes with
    | symbol h => exact exactly_symbol_lt h (by decide) (by simp) cs
    | closedString => exact Nat.lt_succ_self 2
    | openString => exact Nat.one_lt_succ_succ 1
    | _ => exact Nat.zero_lt_succ 2

/-- The opener of a region is the longest text that any pattern matches there. -/
theorem Region.longestMatch (h : Region p kind opener closer) (cs : List Char) :
    LongestMatch (opener ++ cs) p opener where
  front := List.prefix_append opener cs
  matched := h.matches
  only q hq := (patternOf_eq hq).symm.trans (patternOf_eq h.matches)
  longest q v hv hq := by
    obtain ⟨_, _, other⟩ | ⟨rule, r, realizes, -, hle⟩ := hq.measured hv
    · rw [(h.unique other hv).2.1]
    · exact Nat.le_of_lt (Nat.lt_of_le_of_lt hle (h.shorter realizes cs))

/-- Where a region opens, it is the longest match. -/
theorem Region.longest_eq (h : Region p kind opener closer) {k : Kind} {size : Nat}
    (hlongest : longest (opener ++ cs) = (k, size)) :
    ∃ closed body rest, cs = body ++ rest ∧ k = kind closed ∧ size = (opener ++ body).length ∧
      Body closer closed body rest := by
  obtain ⟨hopener, hcloser⟩ := h.ne_nil
  have positive := List.length_pos_of_ne_nil hopener
  obtain ⟨closed, opened⟩ := exists_enclosed opener hcloser cs
  have bound : opener.length ≤ size := by
    have := size_le_longest (h.mem_rules closed) (opener ++ cs)
    rw [hlongest] at this
    exact Nat.le_trans opened this
  rcases longest_cases (opener ++ cs) with none | ⟨-, rule, hrule, same⟩
  · obtain ⟨-, rfl⟩ := Prod.mk.inj (hlongest.symm.trans none)
    omega
  obtain ⟨rfl, rfl⟩ := Prod.mk.inj (same.trans hlongest)
  rcases region_or_realizes hrule with
    ⟨q, _, opener', closer', closed, other, rfl⟩ | ⟨q, r, realizes⟩
  · have nonzero : enclosed opener' closer' closed (opener ++ cs) ≠ 0 := by
      dsimp only at bound
      omega
    obtain ⟨body, rest, hcs, hsize, hbody⟩ := enclosed_body other.ne_nil.2 nonzero
    obtain ⟨rfl, rfl, rfl⟩ := h.unique other ⟨_, hcs.symm⟩
    exact ⟨closed, body, rest, List.append_cancel_left hcs, rfl, hsize, hbody⟩
  · have := h.shorter realizes cs
    omega

end Regions

/-! ## The lexeme that is taken -/

/-- What is cut off at the length of what stands in front. -/
theorem cons_take_eq (h : w ++ rest = c :: cs) (hne : w ≠ []) :
    c :: cs.take (w.length - 1) = w := by
  obtain ⟨d, tail, rfl⟩ := List.exists_cons_of_ne_nil hne
  obtain ⟨rfl, rfl⟩ := List.cons_eq_cons.1 h
  simp

/-- A rule that reaches as far as any pattern gives the lexeme to be taken. -/
theorem Realizes.taken (h : Realizes rule p r) (nonzero : rule.size cs ≠ 0)
    (longest : ∀ q v, v <+: cs → Pattern.Matches q v → v.length ≤ rule.size cs) :
    Taken cs ⟨rule.kind, cs.take (rule.size cs)⟩ := by
  obtain ⟨_, measures⟩ := h.measures
  obtain ⟨named, whole⟩ := h.pattern
  have matched := h.matches (measures.mem cs nonzero)
  have only (q : Pattern) (hq : q.Matches (cs.take (rule.size cs))) : q = p :=
    (patternOf_eq hq).symm.trans (patternOf_eq matched)
  have taken : Taken (cs.take (rule.size cs) ++ cs.drop (rule.size cs))
      ⟨rule.kind, cs.take (rule.size cs)⟩ := by
    refine .matched ⟨List.prefix_append _ _, matched, fun q v front hq => ?_, only⟩ whole named
    rw [List.take_append_drop] at front
    rw [List.length_take, Nat.min_eq_left (measures.le cs)]
    exact longest q v front hq
  rwa [List.take_append_drop] at taken

/-- The scanner takes the lexeme of the longest match. -/
theorem taken_of_longest {k : Kind} {size : Nat} (h : longest (c :: cs) = (k, size)) :
    Taken (c :: cs) ⟨k, c :: cs.take (size - 1)⟩ := by
  by_cases opens : ∃ p kind opener closer, Region p kind opener closer ∧ opener <+: c :: cs
  · obtain ⟨p, kind, opener, closer, region, tail, htail⟩ := opens
    rw [← htail] at h ⊢
    obtain ⟨closed, body, rest, rfl, rfl, rfl, hbody⟩ := region.longest_eq h
    rw [← List.append_assoc] at htail
    rw [cons_take_eq htail (List.append_ne_nil_of_left_ne_nil region.ne_nil.1 _)]
    exact .region region (region.longestMatch _) hbody
  have length_le (q : Pattern) (v : List Char) (front : v <+: c :: cs) (hv : q.Matches v) :
      0 < v.length ∧ v.length ≤ size := by
    obtain ⟨_, _, region⟩ | ⟨rule, r, realizes, positive, hle⟩ := hv.measured front
    · exact absurd ⟨_, _, _, _, region, front⟩ opens
    · have := size_le_longest realizes.mem_rules (c :: cs)
      rw [h] at this
      exact ⟨positive, Nat.le_trans hle this⟩
  rcases longest_cases (c :: cs) with none | ⟨positive, rule, hrule, same⟩
  · obtain ⟨rfl, rfl⟩ := Prod.mk.inj (h.symm.trans none)
    refine .unknown fun p w front hw => ?_
    have := length_le p w front hw
    omega
  rw [h] at positive
  obtain ⟨rfl, rfl⟩ := Prod.mk.inj (same.trans h)
  have nonzero : rule.size (c :: cs) ≠ 0 := Nat.ne_of_gt positive
  rcases region_or_realizes hrule with
    ⟨_, _, opener, closer, closed, region, rfl⟩ | ⟨p, r, realizes⟩
  · have missed : ¬opener <+: c :: cs := fun front => opens ⟨_, _, _, _, region, front⟩
    exact absurd (enclosed_of_missed missed) nonzero
  · have taken := realizes.taken nonzero fun q v front hq => (length_le q v front hq).2
    obtain ⟨n, hn⟩ := Nat.exists_eq_succ_of_ne_zero nonzero
    rw [hn] at taken ⊢
    exact taken

end JavaLens.Lexeme
