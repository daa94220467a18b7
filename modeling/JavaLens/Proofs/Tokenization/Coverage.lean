import JavaLens.Proofs.Tokenization.Patterns
import Mathlib.Data.List.Pairwise

/-!
# Every character is accounted for

The lexemes of a source are its tokens and what stands between them: blanks, comments and runs of
unknown characters. So a character that belongs to no token is one of these, and an unknown one is
told of once, together with those it touches.

## Main definitions

* `Lexeme.Foreign` — a character with which nothing starts that a pattern matches.
* `Lexeme.Comment` — comments, with what stands behind them.
* `Lexeme.Segmented` — a text cut into lexemes with unknown characters in runs.
* `InComment` — an offset that lies in a comment.

## Main statements

* `Lexeme.Pattern.Matches.first` — what starts no lexeme by itself starts none at all.
* `Lexeme.Lexed.segmented` — joining unknown characters makes whole runs of them.
-/

namespace JavaLens

/-- Whether the character at an offset belongs to a span. -/
def Span.Contains (s : Span) (offset : Nat) : Prop := s.start ≤ offset ∧ offset < s.stop

/-- Whether two spans have nothing in common. -/
def Span.Apart (s t : Span) : Prop := s.stop ≤ t.start ∨ t.stop ≤ s.start

namespace Lexeme

open Recognizer Regex

variable {p : Pattern} {c : Char} {cs w rest : List Char} {l : Lexeme} {ls : List Lexeme}

/-! ## Unknown characters -/

/-- Whether no pattern matches a text that starts with a character. -/
def Foreign (c : Char) : Prop := ∀ p w, ¬Pattern.Matches p (c :: w)

theorem starts_exactly (spelling : List Char) :
    Starts (fun c => spelling.head? = some c) (exactly spelling) := by
  intro c cs other
  cases spelling with
  | nil => rfl
  | cons d spelling =>
    have : d ≠ c := by simpa using other
    exact exactly_of_missed fun front => this (List.cons_prefix_cons.1 front).1

theorem starts_quoted (quote : Char) (closed : Bool) :
    Starts (· = quote) (quoted quote closed) := by
  intro c cs other
  have : quote ≠ c := Ne.symm (by simpa using other)
  exact quoted_of_missed fun front => this (List.cons_prefix_cons.1 front).1

theorem matches_digit (h : c.isDigit) : Pattern.number.Matches [c] := by
  refine Realizes.decimal.matches ?_
  have digit : [c] ∈ ((oneOf Char.isDigit).append (star (oneOf isDigitOrMark))).language :=
    ⟨[c], ⟨c, h, rfl⟩, [], nil_mem_star _, rfl⟩
  exact ⟨[c], ⟨[c], ⟨[c], digit, [], .inl rfl, rfl⟩, [], .inl rfl, rfl⟩, [], .inl rfl, rfl⟩

theorem matches_string : (Pattern.string false).Matches ['"'] :=
  Realizes.openString.matches (mem_openLiteral.2 ⟨[], nil_mem_star _, rfl⟩)

theorem matches_character : (Pattern.character false).Matches ['\''] :=
  Realizes.openCharacter.matches (mem_openLiteral.2 ⟨[], nil_mem_star _, rfl⟩)

/-- The first character of a symbol is a symbol. -/
theorem matches_symbol (spelling : List Char) (h : symbols.any (·.1 = spelling))
    (hc : spelling.head? = some c) : ∃ q, Pattern.Matches q [c] := by
  have single : symbols.all fun entry => entry.1.head?.all fun c =>
      symbols.any fun entry => entry.1 = [c] := by decide
  obtain ⟨entry, listed, spelled⟩ := List.any_eq_true.1 h
  obtain rfl := of_decide_eq_true spelled
  have first := List.all_eq_true.1 single entry listed
  rw [hc] at first
  obtain ⟨⟨_, kind⟩, listed, spelled⟩ := List.any_eq_true.1 first
  obtain rfl := of_decide_eq_true spelled
  exact ⟨_, (Realizes.symbol listed).matches (mem_literal.2 rfl)⟩

/-- A character with which a rule starts is matched by itself. -/
theorem Realizes.first {rule : Rule} {r : Regex} (h : Realizes rule p r) :
    ∃ q, Starts q rule.size ∧ ∀ c, q c → ∃ p, Pattern.Matches p [c] := by
  cases h with
  | blank =>
    refine ⟨isBlank, fun c cs other => by simp [run, other], fun c hc => ?_⟩
    exact ⟨_, Realizes.blank.matches (mem_plus_oneOf.2 ⟨by simp, by simpa using hc⟩)⟩
  | lineComment =>
    refine ⟨_, (starts_exactly _).extendedBy, fun c hc => ?_⟩
    obtain rfl : '/' = c := by simpa using hc
    exact matches_symbol ['/'] (by decide) rfl
  | closedString | openString =>
    refine ⟨_, starts_quoted _ _, fun c hc => ?_⟩
    obtain rfl := of_decide_eq_true hc
    exact ⟨_, matches_string⟩
  | closedCharacter | openCharacter =>
    refine ⟨_, starts_quoted _ _, fun c hc => ?_⟩
    obtain rfl := of_decide_eq_true hc
    exact ⟨_, matches_character⟩
  | decimal => exact ⟨_, starts_decimal, fun c hc => ⟨_, matches_digit hc⟩⟩
  | pointed =>
    refine ⟨_, starts_pointed, fun c hc => ?_⟩
    obtain rfl := of_decide_eq_true hc
    exact matches_symbol ['.'] (by decide) rfl
  | hexadecimal =>
    refine ⟨_, starts_hexadecimal, fun c hc => ⟨_, matches_digit ?_⟩⟩
    obtain rfl := of_decide_eq_true hc
    rfl
  | binary =>
    refine ⟨_, starts_binary, fun c hc => ⟨_, matches_digit ?_⟩⟩
    obtain rfl := of_decide_eq_true hc
    rfl
  | word =>
    refine ⟨_, starts_word, fun c hc => ?_⟩
    exact ⟨_, Realizes.word.matches ⟨[c], ⟨c, hc, rfl⟩, [], nil_mem_star _, rfl⟩⟩
  | symbol listed =>
    refine ⟨_, starts_exactly _, fun c hc => ?_⟩
    exact matches_symbol _ (List.any_eq_true.2 ⟨_, listed, by simp⟩) (of_decide_eq_true hc)

/-- The first character of what a pattern matches is matched by itself. -/
theorem Pattern.Matches.first (h : p.Matches (c :: w)) : ∃ q, Pattern.Matches q [c] := by
  obtain ⟨_, _, region⟩ | ⟨rule, r, realizes, hw⟩ := h.cases
  · cases region with
    | blockComment => exact matches_symbol ['/'] (by decide) rfl
    | textBlock => exact ⟨_, matches_string⟩
  · obtain ⟨_, measures⟩ := realizes.measures
    obtain ⟨q, starts, alone⟩ := realizes.first
    obtain ⟨_, _, same, hc⟩ := measures.starts starts hw
    obtain ⟨rfl, -⟩ := List.cons_eq_cons.1 same
    exact alone c hc

/-- An unknown lexeme is one character with which nothing starts. -/
theorem Taken.foreign (h : Taken cs l) (unknown : l.kind = .unknown) :
    ∃ c, l = ⟨.unknown, [c]⟩ ∧ Foreign c := by
  cases h with
  | matched _ _ named =>
    subst unknown
    cases named
  | region region => cases region <;> cases unknown
  | unknown unmatched =>
    refine ⟨_, rfl, fun p w matched => ?_⟩
    obtain ⟨q, alone⟩ := matched.first
    exact unmatched q _ ⟨_, rfl⟩ alone

theorem fault?_eq_unknown {l : Lexeme} {text : String}
    (h : l.fault? = some (.unknownCharacters text)) :
    l.kind = .unknown ∧ text = String.ofList l.text := by
  obtain ⟨kind, chars⟩ := l
  cases kind with
  | unknown =>
    cases h
    exact ⟨rfl, rfl⟩
  | blockComment closed | textBlock closed | string closed | character closed =>
    cases closed <;> cases h
  | blank | lineComment | number | word | symbol => cases h

/-! ## What is skipped -/

/-- A comment, and what stands behind it: a line comment ends with its line, a block comment with
the first closer or with the text. -/
inductive Comment : List Char → List Char → Prop where
  | line {body rest : List Char} (oneLine : body.all (· ≠ '\n'))
      (ends : ∀ c ∈ rest.head?, c = '\n') : Comment ('/' :: '/' :: body) rest
  | block {body rest : List Char} {closed : Bool} (closes : Body ['*', '/'] closed body rest) :
      Comment ('/' :: '*' :: body) rest

/-- What is skipped at the longest is blank or a whole line comment. -/
theorem LongestMatch.skip (h : LongestMatch (w ++ rest) .skip w) :
    w.all isBlank ∨ Comment w rest := by
  obtain ⟨_, _, region⟩ | ⟨rule, r, realizes, hw⟩ := h.matched.cases
  · cases region
  cases realizes with
  | blank => exact .inl (mem_plus_oneOf.1 hw).2
  | lineComment =>
    obtain ⟨_, hslashes, body, hbody, rfl⟩ := hw
    obtain rfl := mem_literal.1 hslashes
    refine .inr (.line (mem_star_oneOf.1 hbody) fun c hc => ?_)
    by_contra other
    -- Another character on the line would belong to the comment.
    obtain ⟨tail, rfl⟩ : ∃ tail, rest = c :: tail := List.head?_eq_some_iff.1 hc
    have goesOn : body ++ [c] ∈ (star (oneOf (· ≠ '\n'))).language := by
      rw [mem_star_oneOf, List.all_append, mem_star_oneOf.1 hbody]
      simpa using other
    have longer : Pattern.skip.Matches (['/', '/'] ++ (body ++ [c])) :=
      Realizes.lineComment.matches ⟨_, mem_literal.2 rfl, _, goesOn, rfl⟩
    have := h.longest _ _ ⟨tail, by simp⟩ longer
    simp at this

/-- A lexeme that is no token, with all characters known, is blank or a comment. -/
theorem Taken.skipped (h : Taken cs l) (hcs : cs = l.text ++ rest) (silent : l.tokenKind? = none)
    (known : l.kind ≠ .unknown) : l.text.all isBlank ∨ Comment l.text rest := by
  cases h with
  | @matched w tail p kind longest whole named =>
    obtain rfl : tail = rest := List.append_cancel_left hcs
    cases kind with
    | blank | lineComment =>
      cases named
      exact longest.skip
    | blockComment =>
      cases named
      exact absurd rfl whole.1
    | unknown => exact absurd rfl known
    | textBlock | string | character | number | word | symbol => cases silent
  | @region p kind opener closer body tail closed region longest closes =>
    cases region with
    | blockComment =>
      obtain rfl : tail = rest := by simpa using hcs
      exact .inr (.block closes)
    | textBlock => cases silent
  | unknown => exact absurd rfl known

/-! ## Runs of unknown characters -/

/-- A text cut into lexemes: those to be taken, and runs of characters with which nothing starts,
each as long as can be. -/
inductive Segmented : List Char → List Lexeme → Prop where
  | nil : Segmented [] []
  | known {l : Lexeme} {rest : List Char} {ls : List Lexeme} (known : l.kind ≠ .unknown)
      (taken : Taken (l.text ++ rest) l) (next : Segmented rest ls) :
      Segmented (l.text ++ rest) (l :: ls)
  | run {text rest : List Char} {ls : List Lexeme} (nonempty : text ≠ [])
      (foreign : ∀ c ∈ text, Foreign c) (ends : ∀ l ∈ ls.head?, l.kind ≠ .unknown)
      (next : Segmented rest ls) : Segmented (text ++ rest) (⟨.unknown, text⟩ :: ls)

/-- One more unknown character makes the run behind it longer, or is a run of its own. -/
theorem Segmented.consUnknown (h : Segmented rest ls) (foreign : Foreign c) :
    Segmented ([c] ++ rest) (consUnknown ⟨.unknown, [c]⟩ ls) := by
  have alone : ∀ d ∈ [c], Foreign d := by simpa using foreign
  cases h with
  | nil => exact .run (List.cons_ne_nil _ _) alone (by simp) .nil
  | @known l rest ls known taken next =>
    have apart : Lexeme.consUnknown ⟨.unknown, [c]⟩ (l :: ls) = ⟨.unknown, [c]⟩ :: l :: ls :=
      if_neg fun both => known both.2
    rw [apart]
    exact .run (List.cons_ne_nil _ _) alone (by simpa using known) (.known known taken next)
  | @run text rest ls nonempty more ends next =>
    have longer : ∀ d ∈ [c] ++ text, Foreign d := List.forall_mem_append.2 ⟨alone, more⟩
    rw [← List.append_assoc]
    exact .run (by simp) longer ends next

/-- Joining unknown characters makes runs of them. -/
theorem Lexed.segmented (h : Lexed cs ls) : Segmented cs (joinUnknown ls) := by
  induction h with
  | nil => exact .nil
  | @cons l rest ls taken next ih =>
    change Segmented _ (Lexeme.consUnknown l (joinUnknown ls))
    by_cases unknown : l.kind = .unknown
    · obtain ⟨c, rfl, foreign⟩ := taken.foreign unknown
      exact ih.consUnknown foreign
    · have apart : Lexeme.consUnknown l (joinUnknown ls) = l :: joinUnknown ls := by
        cases joinUnknown ls with
        | nil => rfl
        | cons next ls => exact if_neg fun both => unknown both.1
      rw [apart]
      exact .known unknown taken ih

theorem Segmented.chars_eq (h : Segmented cs ls) : chars ls = cs := by
  induction h with
  | nil => rfl
  | known _ _ _ ih | run _ _ _ _ ih => rw [chars_cons, ih]

/-- The lexemes from some place on cut the text from there on. -/
theorem Segmented.suffix {before after : List Lexeme} (h : Segmented cs (before ++ after)) :
    Segmented (chars after) after := by
  induction before generalizing cs with
  | nil =>
    have := h.chars_eq
    rw [List.nil_append] at this
    exact this ▸ h
  | cons l before ih =>
    cases h with
    | known _ _ next | run _ _ _ next => exact ih next

/-- What a lexeme can be that is no token. -/
theorem Segmented.silent (h : Segmented cs (l :: ls)) (silent : l.tokenKind? = none) :
    (l.kind ≠ .unknown ∧ (l.text.all isBlank ∨ Comment l.text (chars ls))) ∨
      (l.kind = .unknown ∧ ∀ c ∈ l.text, Foreign c) := by
  cases h with
  | known known taken next =>
    exact .inl ⟨known, taken.skipped (by rw [next.chars_eq]) silent known⟩
  | run _ foreign => exact .inr ⟨rfl, foreign⟩

theorem Segmented.ne_nil (h : Segmented cs ls) : ∀ l ∈ ls, l.text ≠ [] := by
  induction h with
  | nil => simp
  | known _ taken _ ih => exact List.forall_mem_cons.2 ⟨taken.ne_nil, ih⟩
  | run nonempty _ _ _ ih => exact List.forall_mem_cons.2 ⟨nonempty, ih⟩

/-- Runs of unknown characters do not touch. -/
theorem Segmented.runs_apart (h : Segmented cs ls) (start : Nat) :
    (sideBySide start ls).Pairwise fun p q =>
      p.lexeme.kind = .unknown → q.lexeme.kind = .unknown → p.span.stop < q.span.start := by
  induction h generalizing start with
  | nil => exact .nil
  | known known _ _ ih => exact .cons (fun q _ unknown => absurd unknown known) (ih _)
  | @run text rest ls nonempty foreign ends next ih =>
    refine .cons (fun q hq _ unknown => ?_) (ih _)
    cases ls with
    | nil => cases hq
    | cons l ls =>
      rcases List.mem_cons.1 hq with rfl | hq
      · exact absurd unknown (ends l rfl)
      · have behind := start_le_of_mem_sideBySide q hq
        have size : byteLength l.text ≠ 0 := by
          rw [byteLength_eq_utf8Len]
          exact mt String.utf8Len_eq_zero.1 (next.ne_nil l List.mem_cons_self)
        dsimp only at behind ⊢
        omega

/-! ## Where characters stand -/

/-- Every character stands in a lexeme. -/
theorem exists_lexeme_at {before after : List Char} (h : chars ls = before ++ c :: after)
    (start : Nat) :
    ∃ p ∈ sideBySide start ls, p.span.Contains (start + String.utf8Len before) ∧
      c ∈ p.lexeme.text := by
  induction ls generalizing before start with
  | nil => simp at h
  | cons l ls ih =>
    rw [chars_cons] at h
    by_cases inside : before.length < l.text.length
    · obtain ⟨tail, htail⟩ : before <+: l.text :=
        List.prefix_of_prefix_length_le ⟨_, rfl⟩ ⟨_, h⟩ (Nat.le_of_lt inside)
      obtain ⟨d, tail, rfl⟩ : ∃ d tail', tail = d :: tail' := by
        refine List.exists_cons_of_ne_nil ?_
        rintro rfl
        simp [← htail] at inside
      obtain rfl : d = c := by
        rw [← htail, List.append_assoc] at h
        exact (List.cons_eq_cons.1 (List.append_cancel_left h)).1
      refine ⟨_, List.mem_cons_self, ⟨Nat.le_add_right _ _, ?_⟩, by simp [← htail]⟩
      have := d.utf8Size_pos
      dsimp only
      rw [byteLength_eq_utf8Len, ← htail, String.utf8Len_append, String.utf8Len_cons]
      omega
    · obtain ⟨tail, rfl⟩ : l.text <+: before :=
        List.prefix_of_prefix_length_le ⟨_, rfl⟩ ⟨_, h.symm⟩ (Nat.le_of_not_lt inside)
      rw [List.append_assoc] at h
      obtain ⟨p, hp, hspan, hc⟩ := ih (List.append_cancel_left h) (start + byteLength l.text)
      refine ⟨p, List.mem_cons_of_mem _ hp, ?_, hc⟩
      rwa [byteLength_eq_utf8Len, Nat.add_assoc, ← String.utf8Len_append] at hspan

end Lexeme

/-! ## Tokens and findings -/

/-- Whether a finding is of unknown characters. -/
def Finding.IsUnknown (finding : Finding) : Prop :=
  ∃ text, finding.fault = .unknownCharacters text

/-- Whether an offset of a source lies in a comment that has nothing in common with tokens and
unknown characters. -/
def InComment (source : String) (offset : Nat) : Prop :=
  ∃ (before text after : List Char) (span : Span), source.toList = before ++ (text ++ after) ∧
    Lexeme.Comment text after ∧
    span = ⟨String.utf8Len before, String.utf8Len before + String.utf8Len text⟩ ∧
    span.Contains offset ∧ (∀ token ∈ (tokenize source).tokens, span.Apart token.span) ∧
    ∀ finding ∈ (tokenize source).findings, finding.IsUnknown → span.Apart finding.span

/-- What accounts for a character `c` at an offset of a source. -/
inductive AccountedFor (source : String) (c : Char) (offset : Nat) : Prop where
  | token {token : Token} (listed : token ∈ (tokenize source).tokens)
      (inside : token.span.Contains offset)
  | blank (blank : Lexeme.isBlank c)
  | comment (inside : InComment source offset)
  | unknown (told : ∃! finding, finding ∈ (tokenize source).findings ∧ finding.IsUnknown ∧
      finding.span.Contains offset)

section Source

open Lexeme

variable {source : String}

theorem segmented_source (source : String) :
    Segmented source.toList (joinUnknown (scan source.toList)) := (lexed_scan _).segmented

theorem placedLexemes_apart {p q : Placed} (hp : p ∈ placedLexemes source)
    (hq : q ∈ placedLexemes source) (other : p ≠ q) : p.span.Apart q.span := by
  have apart : (placedLexemes source).Pairwise fun p q => p.span.Apart q.span :=
    (placedLexemes_ordered source).imp .inl
  have : Std.Symm fun p q : Placed => p.span.Apart q.span := ⟨fun _ _ h => h.symm⟩
  exact apart.forall hp hq other

/-- A finding is a lexeme with its fault and span. -/
theorem exists_lexeme_of_finding {finding : Finding} (h : finding ∈ (tokenize source).findings) :
    ∃ p ∈ placedLexemes source, p.lexeme.fault? = some finding.fault ∧ finding.span = p.span := by
  rw [tokenize_findings, List.mem_filterMap] at h
  obtain ⟨p, hp, hfinding⟩ := h
  obtain ⟨fault, hfault, rfl⟩ := Option.map_eq_some_iff.1 hfinding
  exact ⟨p, hp, hfault, rfl⟩

/-- Findings stand in the order of the source; those of unknown characters do not even touch. -/
theorem tokenize_findings_before (source : String) :
    (tokenize source).findings.Pairwise fun a b => a.span.Before b.span ∧
      (a.IsUnknown → b.IsUnknown → a.span.stop < b.span.start) := by
  have apart : (placedLexemes source).Pairwise fun p q => p.span.Before q.span ∧
      (p.lexeme.kind = .unknown → q.lexeme.kind = .unknown → p.span.stop < q.span.start) := by
    refine (placedLexemes_before source).and ?_
    rw [placedLexemes, place_eq]
    exact (segmented_source source).runs_apart 0
  rw [tokenize_findings, List.pairwise_filterMap]
  refine apart.imp fun {p q} hpq a ha b hb => ?_
  obtain ⟨_, hfault, rfl⟩ := Option.map_eq_some_iff.1 ha
  obtain ⟨_, hfault', rfl⟩ := Option.map_eq_some_iff.1 hb
  refine ⟨hpq.1, ?_⟩
  rintro ⟨text, rfl⟩ ⟨text', rfl⟩
  exact hpq.2 (fault?_eq_unknown hfault).1 (fault?_eq_unknown hfault').1

/-- Findings of unknown characters are told of characters with which nothing starts. -/
theorem foreign_of_finding {finding : Finding} {text : String}
    (h : finding ∈ (tokenize source).findings) (hfault : finding.fault = .unknownCharacters text) :
    finding.span.Marks source text ∧ ∀ c ∈ text.toList, Foreign c := by
  obtain ⟨p, hp, hlexeme, hspan⟩ := exists_lexeme_of_finding h
  rw [hfault] at hlexeme
  obtain ⟨unknown, rfl⟩ := fault?_eq_unknown hlexeme
  refine ⟨hspan ▸ placedLexemes_marks hp, ?_⟩
  rw [placedLexemes, place_eq] at hp
  obtain ⟨before, after, hls, -, -⟩ := split_of_mem_sideBySide hp
  have silent : p.lexeme.tokenKind? = none := by rw [tokenKind?, unknown]
  rw [String.toList_ofList]
  rcases (hls ▸ segmented_source source).suffix.silent silent with ⟨known, -⟩ | ⟨-, foreign⟩
  · exact absurd unknown known
  · exact foreign

/-- A character in a lexeme of unknown ones is told of in one finding. -/
theorem existsUnique_finding {p : Placed} {offset : Nat} (hp : p ∈ placedLexemes source)
    (unknown : p.lexeme.kind = .unknown) (inside : p.span.Contains offset) :
    ∃! finding, finding ∈ (tokenize source).findings ∧ finding.IsUnknown ∧
      finding.span.Contains offset := by
  have hfault : p.lexeme.fault? = some (.unknownCharacters (String.ofList p.lexeme.text)) := by
    rw [fault?, unknown]
  refine ⟨⟨.unknownCharacters (String.ofList p.lexeme.text), p.span⟩, ⟨?_, ⟨_, rfl⟩, inside⟩, ?_⟩
  · rw [tokenize_findings]
    exact List.mem_filterMap.2 ⟨p, hp, by rw [Placed.finding?, hfault]; rfl⟩
  · rintro ⟨fault, span⟩ ⟨hfinding, -, hstart, hstop⟩
    obtain ⟨q, hq, hfault', rfl : span = q.span⟩ := exists_lexeme_of_finding hfinding
    obtain rfl : p = q := by
      by_contra other
      obtain ⟨hstart', hstop'⟩ := inside
      dsimp only at hstart hstop
      rcases placedLexemes_apart hp hq other with h | h <;> omega
    rw [hfault] at hfault'
    rw [Option.some.inj hfault']

/-- A comment among the lexemes has nothing in common with tokens and unknown characters. -/
theorem inComment_of_mem {p : Placed} {offset : Nat} {front back : List Lexeme}
    (hp : p ∈ placedLexemes source) (inside : p.span.Contains offset)
    (hls : joinUnknown (scan source.toList) = front ++ p.lexeme :: back)
    (hspan : p.span = ⟨String.utf8Len (chars front),
      String.utf8Len (chars front) + String.utf8Len p.lexeme.text⟩)
    (comment : Comment p.lexeme.text (chars back)) (silent : p.lexeme.tokenKind? = none)
    (known : p.lexeme.kind ≠ .unknown) : InComment source offset := by
  refine ⟨chars front, p.lexeme.text, chars back, p.span, ?_, comment, hspan, inside,
    fun token htoken => ?_, fun finding hfinding ⟨text, hfault⟩ => ?_⟩
  · rw [← (segmented_source source).chars_eq, hls, chars_append, chars_cons]
  · rw [tokenize_tokens, List.mem_filterMap] at htoken
    obtain ⟨q, hq, htoken⟩ := htoken
    obtain ⟨kind, hkind, rfl⟩ := Option.map_eq_some_iff.1 htoken
    refine placedLexemes_apart hp hq ?_
    rintro rfl
    rw [silent] at hkind
    cases hkind
  · obtain ⟨q, hq, hlexeme, hspan⟩ := exists_lexeme_of_finding hfinding
    rw [hspan]
    refine placedLexemes_apart hp hq ?_
    rintro rfl
    rw [hfault] at hlexeme
    exact known (fault?_eq_unknown hlexeme).1

/-- Every character of a source is accounted for. -/
theorem accountedFor {before after : List Char} {c : Char}
    (h : source.toList = before ++ c :: after) : AccountedFor source c (String.utf8Len before) := by
  obtain ⟨p, hp, inside, hc⟩ := exists_lexeme_at ((segmented_source source).chars_eq.trans h) 0
  rw [Nat.zero_add] at inside
  have placed : p ∈ placedLexemes source := by rwa [placedLexemes, place_eq]
  cases hkind : p.lexeme.tokenKind? with
  | some kind =>
    have listed : ⟨kind, String.ofList p.lexeme.text, p.span⟩ ∈ (tokenize source).tokens := by
      rw [tokenize_tokens]
      exact List.mem_filterMap.2 ⟨p, placed, by rw [Placed.token?, hkind]; rfl⟩
    exact .token listed inside
  | none =>
    obtain ⟨front, back, hls, hstart, hstop⟩ := split_of_mem_sideBySide hp
    rw [Nat.zero_add] at hstart
    rcases (hls ▸ segmented_source source).suffix.silent hkind with
      ⟨known, blank | comment⟩ | ⟨unknown, -⟩
    · exact .blank (List.all_eq_true.1 blank c hc)
    · have hspan : p.span = ⟨String.utf8Len (chars front),
          String.utf8Len (chars front) + String.utf8Len p.lexeme.text⟩ := by
        rw [← hstart, ← hstop]
      exact .comment (inComment_of_mem placed inside hls hspan comment hkind known)
    · exact .unknown (existsUnique_finding placed unknown inside)

/-- Tokens and findings account for every character of a source. Both lie in the source, in order
and apart. What belongs to no token is blank, in a comment, or unknown and told of once. Unknown
characters are those with which nothing starts, and all that touch are told of together. -/
theorem tokenize_accounts_for_characters (source : String) :
    (∀ token ∈ (tokenize source).tokens, token.span.start < token.span.stop ∧
      token.span.WellFormed source ∧ token.span.Marks source token.text) ∧
    (tokenize source).tokens.Pairwise (fun a b => a.span.Before b.span) ∧
    (∀ finding ∈ (tokenize source).findings, finding.span.start < finding.span.stop ∧
      finding.span.WellFormed source) ∧
    (tokenize source).findings.Pairwise (fun a b => a.span.Before b.span ∧
      (a.IsUnknown → b.IsUnknown → a.span.stop < b.span.start)) ∧
    (∀ finding ∈ (tokenize source).findings, ∀ text, finding.fault = .unknownCharacters text →
      finding.span.Marks source text ∧ ∀ c ∈ text.toList, Foreign c) ∧
    ∀ before c after, source.toList = before ++ c :: after →
      AccountedFor source c (String.utf8Len before) := by
  refine ⟨fun token h => ?_, tokenize_tokens_before source, fun finding h => ?_,
    tokenize_findings_before source, fun finding h text hfault => foreign_of_finding h hfault,
    fun before c after h => accountedFor h⟩
  · have marks := tokenize_tokens_marks h
    exact ⟨tokenize_tokens_nonempty h, marks.wellFormed, marks⟩
  · obtain ⟨p, hp, -, hspan⟩ := exists_lexeme_of_finding h
    exact ⟨hspan ▸ placedLexemes_nonempty hp, tokenize_findings_wellFormed h⟩

/-- Two unknown characters that touch, before a comment. -/
theorem tokenize_accounts_for_stray_hashes :
    let source := "x ## // y"
    ⟨.ident, "x", 0, 1⟩ ∈ (tokenize source).tokens ∧ Span.Marks ⟨0, 1⟩ source "x" ∧
      ⟨.unknownCharacters "##", 2, 4⟩ ∈ (tokenize source).findings ∧
      Span.Marks ⟨2, 4⟩ source "##" ∧ Foreign '#' ∧ AccountedFor source '#' 3 ∧
      AccountedFor source 'y' 8 := by
  intro source
  have listed : ⟨.ident, "x", 0, 1⟩ ∈ (tokenize source).tokens ∧
      ⟨.unknownCharacters "##", 2, 4⟩ ∈ (tokenize source).findings := by decide +kernel
  obtain ⟨htoken, hfinding⟩ := listed
  obtain ⟨tokens, -, -, -, unknown, characters⟩ := tokenize_accounts_for_characters source
  obtain ⟨marks, foreign⟩ := unknown _ hfinding "##" rfl
  exact ⟨htoken, (tokens _ htoken).2.2, hfinding, marks, foreign '#' (by decide),
    characters "x #".toList '#' " // y".toList (by decide),
    characters "x ## // ".toList 'y' [] (by decide)⟩

end Source

end JavaLens
