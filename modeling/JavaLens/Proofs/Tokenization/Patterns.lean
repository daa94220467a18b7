import JavaLens.Proofs.Lexeme.LongestMatch
import JavaLens.Proofs.Tokenization.Words

/-!
# Tokens by longest match

The table of patterns alone says how a text is cut into lexemes: at each place the longest match is
taken. It also says which tokens these are and which characters are unknown. There is one way to do
so, and this is what the scanner does.

## Main definitions

* `Lexeme.Pattern.Emits` — the kind of token that a text matched by a pattern is.
* `Lexeme.Lexed` — a text cut into the lexemes to be taken.
* `Lexeme.Emitted` — the tokens that lexemes are, and their unknown characters.
* `Finding.unknown` — the characters that a finding says are unknown.

## Main statements

* `Lexeme.lexed_scan` — the scanner takes the longest match at each place.
* `Lexeme.Taken.unique`, `Lexeme.Lexed.alike` — there is no other way to cut a text.
-/

namespace JavaLens

/-- A reserved word is told by its spelling. -/
theorem Keyword.ofWord?_eq_some_iff {w : String} {k : Keyword} :
    Keyword.ofWord? w = some k ↔ k.word = w := by
  constructor
  · intro h
    have spelled := List.find?_some h
    exact beq_iff_eq.1 spelled
  · rintro rfl
    cases k <;> decide

/-- The characters of a text that starts at a byte offset, each with its own offset. -/
def charsFrom (start : Nat) : List Char → List (Nat × Char)
  | [] => []
  | c :: cs => (start, c) :: charsFrom (start + c.utf8Size) cs

theorem charsFrom_append (start : Nat) (cs ds : List Char) :
    charsFrom start (cs ++ ds) =
      charsFrom start cs ++ charsFrom (start + String.utf8Len cs) ds := by
  induction cs generalizing start with
  | nil => rfl
  | cons c cs ih =>
    rw [List.cons_append, charsFrom, charsFrom, ih, List.cons_append, String.utf8Len_cons]
    congr 3
    omega

/-- The characters that a finding says are unknown. -/
def Finding.unknown (finding : Finding) : List (Nat × Char) :=
  match finding.fault with
  | .unknownCharacters text => charsFrom finding.span.start text.toList
  | _ => []

namespace Lexeme

variable {p q : Pattern} {cs w : List Char} {l l' : Lexeme} {ls ls' : List Lexeme} {start : Nat}
  {kind : Token.Kind} {tokens : List Token}

/-! ## What the table says -/

/-- The kind of token that a text matched by a pattern is. Words are literals, reserved words or
identifiers; what is skipped and comments are no tokens. -/
inductive Pattern.Emits : Pattern → List Char → Token.Kind → Prop where
  | textBlock {w : List Char} : Emits .textBlock w .literal
  | string {closed : Bool} {w : List Char} : Emits (.string closed) w .literal
  | character {closed : Bool} {w : List Char} : Emits (.character closed) w .literal
  | number {w : List Char} : Emits .number w .literal
  | literalWord {w : List Char} (literal : String.ofList w ∈ ["true", "false", "null"]) :
      Emits .word w .literal
  | keyword {w : List Char} (k : Keyword) (reserved : k.word = String.ofList w) :
      Emits .word w (.keyword k)
  | ident {w : List Char} (literal : String.ofList w ∉ ["true", "false", "null"])
      (reserved : ∀ k : Keyword, k.word ≠ String.ofList w) : Emits .word w .ident
  | symbol {kind : Token.Kind} {w : List Char} : Emits (.symbol kind) w kind

/-- The kind of token that a lexeme is by its pattern. -/
def Emits (l : Lexeme) (kind : Token.Kind) : Prop :=
  ∃ p, l.kind.pattern? = some p ∧ p.Emits l.text kind

/-- A text cut into lexemes, each the one to be taken where it stands. -/
inductive Lexed : List Char → List Lexeme → Prop where
  | nil : Lexed [] []
  | cons {l : Lexeme} {rest : List Char} {ls : List Lexeme} (taken : Taken (l.text ++ rest) l)
      (next : Lexed rest ls) : Lexed (l.text ++ rest) (l :: ls)

/-- The tokens that lexemes are, side by side from a byte offset, and the characters of those that
no pattern matches. -/
inductive Emitted : Nat → List Lexeme → List Token → List (Nat × Char) → Prop where
  | nil {start : Nat} : Emitted start [] [] []
  | token {start : Nat} {l : Lexeme} {ls : List Lexeme} {kind : Token.Kind} {tokens : List Token}
      {unknown : List (Nat × Char)} (emits : l.Emits kind)
      (next : Emitted (start + String.utf8Len l.text) ls tokens unknown) :
      Emitted start (l :: ls)
        (⟨kind, String.ofList l.text, start, start + String.utf8Len l.text⟩ :: tokens) unknown
  | silent {start : Nat} {l : Lexeme} {ls : List Lexeme} {tokens : List Token}
      {unknown : List (Nat × Char)} (matched : l.kind.pattern? ≠ none)
      (silent : ∀ kind, ¬l.Emits kind)
      (next : Emitted (start + String.utf8Len l.text) ls tokens unknown) :
      Emitted start (l :: ls) tokens unknown
  | unknown {start : Nat} {l : Lexeme} {ls : List Lexeme} {tokens : List Token}
      {unknown : List (Nat × Char)} (unmatched : l.kind.pattern? = none)
      (next : Emitted (start + String.utf8Len l.text) ls tokens unknown) :
      Emitted start (l :: ls) tokens (charsFrom start l.text ++ unknown)

/-! ## One way to cut a text -/

theorem LongestMatch.unique {v : List Char} (h : LongestMatch cs p w) (h' : LongestMatch cs q v) :
    q = p ∧ v = w := by
  have short := h.longest q v h'.front h'.matched
  have long := h'.longest p w h.front h.matched
  obtain rfl : v = w :=
    (List.prefix_of_prefix_length_le h'.front h.front short).eq_of_length
      (Nat.le_antisymm short long)
  exact ⟨h.only q h'.matched, rfl⟩

theorem Body.unique {closer body body' rest rest' : List Char} {closed closed' : Bool}
    (h : Body closer closed body rest) (h' : Body closer closed' body' rest')
    (same : body' ++ rest' = body ++ rest) : body' = body ∧ closed' = closed := by
  cases h with
  | closed ends =>
    cases h' with
    | closed ends' =>
      have front : body' <+: body ++ rest := ⟨rest', same⟩
      rcases List.prefix_or_prefix_of_prefix front (List.prefix_append body rest) with h | h
      · exact ⟨ends.first body' h ends'.ended, rfl⟩
      · exact ⟨(ends'.first body h ends.ended).symm, rfl⟩
    | «open» never =>
      rw [List.append_nil] at same
      exact absurd (ends.ended.isInfix.trans ⟨[], rest, by simp [same]⟩) never
  | «open» never =>
    rw [List.append_nil] at same
    cases h' with
    | closed ends' => exact absurd (ends'.ended.isInfix.trans ⟨[], rest', by simp [same]⟩) never
    | «open» never' => exact ⟨by simpa using same, rfl⟩

theorem Region.not_whole {kind : Bool → Kind} {opener closer : List Char}
    (h : Region p kind opener closer) : ¬(p ≠ .blockComment ∧ p ≠ .textBlock) := by
  cases h <;> simp

/-- Whether two lexemes have the same text and the same pattern. -/
def Alike (l l' : Lexeme) : Prop := l'.text = l.text ∧ l'.kind.pattern? = l.kind.pattern?

/-- Only one lexeme is to be taken. -/
theorem Taken.unique {cs' : List Char} (h : Taken cs l) (h' : Taken cs' l') (same : cs' = cs) :
    Alike l l' := by
  cases h with
  | matched longest whole named =>
    cases h' with
    | matched longest' whole' named' =>
      obtain ⟨rfl, rfl⟩ := longest.unique (same ▸ longest')
      exact ⟨rfl, named'.trans named.symm⟩
    | region region' longest' closes' =>
      obtain ⟨rfl, rfl⟩ := longest.unique (same ▸ longest')
      exact absurd whole region'.not_whole
    | unknown unmatched => exact absurd longest.matched (unmatched _ _ (same ▸ longest.front))
  | region region longest closes =>
    cases h' with
    | matched longest' whole' named' =>
      obtain ⟨rfl, rfl⟩ := longest.unique (same ▸ longest')
      exact absurd whole' region.not_whole
    | region region' longest' closes' =>
      obtain ⟨rfl, rfl⟩ := longest.unique (same ▸ longest')
      obtain ⟨rfl, -, rfl⟩ := region.unique region' (List.prefix_append _ [])
      obtain ⟨rfl, rfl⟩ := closes.unique closes' (List.append_cancel_left same)
      exact ⟨rfl, rfl⟩
    | unknown unmatched => exact absurd longest.matched (unmatched _ _ (same ▸ longest.front))
  | unknown unmatched =>
    cases h' with
    | matched longest' whole' named' =>
      exact absurd longest'.matched (unmatched _ _ (same ▸ longest'.front))
    | region region' longest' closes' =>
      exact absurd longest'.matched (unmatched _ _ (same ▸ longest'.front))
    | unknown unmatched' =>
      obtain ⟨rfl, -⟩ := List.cons_eq_cons.1 same
      exact ⟨rfl, rfl⟩

/-- A pattern matches no empty text. -/
theorem Pattern.Matches.ne_nil (h : p.Matches w) : w ≠ [] := by
  obtain ⟨_, _, region⟩ | ⟨rule, r, realizes, hw⟩ := h.cases
  · exact region.ne_nil.1
  · obtain ⟨_, measures⟩ := realizes.measures
    exact List.ne_nil_of_length_pos (measures.length_pos hw)

theorem Taken.ne_nil (h : Taken cs l) : l.text ≠ [] := by
  cases h with
  | matched longest => exact longest.matched.ne_nil
  | region _ longest => exact List.append_ne_nil_of_left_ne_nil longest.matched.ne_nil _
  | unknown => exact List.cons_ne_nil _ _

/-- There is one way to cut a text into lexemes. -/
theorem Lexed.alike {cs' : List Char} (h : Lexed cs ls) (h' : Lexed cs' ls') (same : cs' = cs) :
    List.Forall₂ Alike ls ls' := by
  induction h generalizing cs' ls' with
  | nil =>
    cases h' with
    | nil => exact .nil
    | cons taken' _ => exact absurd (List.append_eq_nil_iff.1 same).1 taken'.ne_nil
  | cons taken next ih =>
    cases h' with
    | nil => exact absurd (List.append_eq_nil_iff.1 same.symm).1 taken.ne_nil
    | cons taken' next' =>
      have alike := taken.unique taken' same
      rw [alike.1] at same
      exact .cons alike (ih next' (List.append_cancel_left same))

/-! ## What the scanner does -/

/-- The scanner takes the longest match at each place. -/
theorem lexed_scan (cs : List Char) : Lexed cs (scan cs) := by
  induction hn : cs.length using Nat.strongRecOn generalizing cs with
  | _ n ih =>
    cases cs with
    | nil => exact scan_nil ▸ .nil
    | cons c cs =>
      rcases hlongest : longest (c :: cs) with ⟨k, size⟩
      have taken := taken_of_longest hlongest
      have next := ih (cs.drop (size - 1)).length
        (by rw [← hn, List.length_drop, List.length_cons]; omega) _ rfl
      have whole : c :: cs.take (size - 1) ++ cs.drop (size - 1) = c :: cs := by
        rw [List.cons_append, List.take_append_drop]
      rw [scan_cons hlongest]
      rw [← whole] at taken ⊢
      exact Lexed.cons (l := ⟨k, c :: cs.take (size - 1)⟩) taken next

theorem wordKind_eq_iff (w : List Char) :
    wordKind (String.ofList w) = kind ↔ Pattern.word.Emits w kind := by
  unfold wordKind
  constructor
  · rintro rfl
    split
    · rename_i literal
      exact .literalWord (by simpa using literal)
    · rename_i literal
      cases found : Keyword.ofWord? (String.ofList w) with
      | some k => exact .keyword k (Keyword.ofWord?_eq_some_iff.1 found)
      | none =>
        refine .ident (by simpa using literal) fun k reserved => ?_
        rw [Keyword.ofWord?_eq_some_iff.2 reserved] at found
        cases found
  · intro h
    cases h with
    | literalWord literal => exact if_pos (by simpa using literal)
    | keyword k reserved =>
      have literal : k.word ∉ ["true", "false", "null"] := by cases k <;> decide
      rw [← reserved, if_neg (by simpa using literal), Keyword.ofWord?_eq_some_iff.2 rfl]
      rfl
    | ident literal reserved =>
      have none : Keyword.ofWord? (String.ofList w) = none := by
        by_contra some
        obtain ⟨k, found⟩ := Option.ne_none_iff_exists'.1 some
        exact reserved k (Keyword.ofWord?_eq_some_iff.1 found)
      rw [if_neg (by simpa using literal), none]
      rfl

/-- A lexeme is the token that its pattern says. -/
theorem tokenKind?_eq_some_iff : l.tokenKind? = some kind ↔ l.Emits kind := by
  obtain ⟨k, text⟩ := l
  cases k with
  | word =>
    refine Option.some_inj.trans ((wordKind_eq_iff text).trans ⟨fun h => ⟨_, rfl, h⟩, ?_⟩)
    rintro ⟨_, ⟨⟩, h⟩
    exact h
  | blank | lineComment | blockComment | unknown =>
    constructor
    · intro h
      cases h
    · rintro ⟨_, ⟨⟩, ⟨⟩⟩
  | textBlock | string | character | number | symbol =>
    constructor
    · rintro ⟨⟩
      exact ⟨_, rfl, by constructor⟩
    · rintro ⟨_, ⟨⟩, ⟨⟩⟩
      rfl

theorem Alike.tokenKind? (h : Alike l l') : l'.tokenKind? = l.tokenKind? := by
  refine Option.ext fun kind => ?_
  rw [tokenKind?_eq_some_iff, tokenKind?_eq_some_iff, Emits, Emits, h.1, h.2]

theorem Emits.pattern?_ne_none (h : l.Emits kind) : l.kind.pattern? ≠ none := by
  obtain ⟨p, pattern, _⟩ := h
  rw [pattern]
  exact Option.some_ne_none p

theorem tokenKind?_eq_none_iff : l.tokenKind? = none ↔ ∀ kind, ¬l.Emits kind := by
  simp only [Option.eq_none_iff_forall_ne_some, ne_eq, tokenKind?_eq_some_iff]

/-- The unknown characters of a placed lexeme. -/
def Placed.unknown (p : Placed) : List (Nat × Char) :=
  if p.lexeme.kind.pattern? = none then charsFrom p.span.start p.lexeme.text else []

/-- The findings tell the unknown characters. -/
theorem flatMap_unknown_findings (ps : List Placed) :
    (ps.filterMap Placed.finding?).flatMap Finding.unknown = ps.flatMap Placed.unknown := by
  rw [List.filterMap_eq_flatMap_toList, List.flatMap_assoc]
  congr 1
  funext ⟨⟨k, text⟩, span⟩
  cases k with
  | unknown => simp [Placed.finding?, fault?, Finding.unknown, Placed.unknown, Kind.pattern?]
  | blockComment closed | textBlock closed | string closed | character closed =>
    cases closed <;> rfl
  | blank | lineComment | word | number | symbol => rfl

theorem Alike.filterMap_token? (h : List.Forall₂ Alike ls ls') (start : Nat) :
    (sideBySide start ls').filterMap Placed.token? =
      (sideBySide start ls).filterMap Placed.token? := by
  induction h generalizing start with
  | nil => rfl
  | cons alike _ ih =>
    simp only [sideBySide, List.filterMap_cons, Placed.token?, alike.tokenKind?, alike.1, ih]

theorem Alike.flatMap_unknown (h : List.Forall₂ Alike ls ls') (start : Nat) :
    (sideBySide start ls').flatMap Placed.unknown =
      (sideBySide start ls).flatMap Placed.unknown := by
  induction h generalizing start with
  | nil => rfl
  | cons alike _ ih =>
    simp only [sideBySide, List.flatMap_cons, Placed.unknown, alike.1, alike.2, ih]

/-- The tokens and unknown characters are those of the lexemes side by side. -/
theorem emitted_iff {unknown : List (Nat × Char)} : Emitted start ls tokens unknown ↔
    tokens = (sideBySide start ls).filterMap Placed.token? ∧
      unknown = (sideBySide start ls).flatMap Placed.unknown := by
  constructor
  · intro h
    induction h with
    | nil => exact ⟨rfl, rfl⟩
    | token emits next ih =>
      have matched := emits.pattern?_ne_none
      rw [← tokenKind?_eq_some_iff] at emits
      simp [sideBySide, Placed.token?, Placed.unknown, emits, matched, byteLength_eq_utf8Len, ih]
    | silent matched silent next ih =>
      rw [← tokenKind?_eq_none_iff] at silent
      simp [sideBySide, Placed.token?, Placed.unknown, silent, matched, byteLength_eq_utf8Len, ih]
    | unknown unmatched next ih =>
      have silent := tokenKind?_eq_none_iff.2 fun _ emits => emits.pattern?_ne_none unmatched
      simp [sideBySide, Placed.token?, Placed.unknown, silent, unmatched, byteLength_eq_utf8Len, ih]
  · rintro ⟨rfl, rfl⟩
    induction ls generalizing start with
    | nil => exact .nil
    | cons l ls ih =>
      rw [sideBySide, byteLength_eq_utf8Len]
      cases hkind : l.tokenKind? with
      | none =>
        have silent := tokenKind?_eq_none_iff.1 hkind
        by_cases matched : l.kind.pattern? = none
        · simpa [Placed.token?, Placed.unknown, hkind, matched] using .unknown matched ih
        · simpa [Placed.token?, Placed.unknown, hkind, matched] using .silent matched silent ih
      | some kind =>
        have emits := tokenKind?_eq_some_iff.1 hkind
        simpa [Placed.token?, Placed.unknown, hkind, emits.pattern?_ne_none] using .token emits ih

/-- Joining unknown characters leaves the tokens as they are. -/
theorem filterMap_token?_joinUnknown (start : Nat) (ls : List Lexeme) :
    (sideBySide start (joinUnknown ls)).filterMap Placed.token? =
      (sideBySide start ls).filterMap Placed.token? := by
  induction ls generalizing start with
  | nil => rfl
  | cons l ls ih =>
    change (sideBySide start (consUnknown l (joinUnknown ls))).filterMap Placed.token? = _
    rw [sideBySide, List.filterMap_cons, ← ih]
    fun_cases consUnknown l (joinUnknown ls) with
    | case1 => rfl
    | case2 next rest unknown =>
      simp [sideBySide, Placed.token?, tokenKind?, unknown, byteLength_eq_utf8Len, Nat.add_assoc]
    | case3 next rest known => rw [sideBySide, List.filterMap_cons]

/-- Joining unknown characters leaves them the same characters at the same offsets. -/
theorem flatMap_unknown_joinUnknown (start : Nat) (ls : List Lexeme) :
    (sideBySide start (joinUnknown ls)).flatMap Placed.unknown =
      (sideBySide start ls).flatMap Placed.unknown := by
  induction ls generalizing start with
  | nil => rfl
  | cons l ls ih =>
    change (sideBySide start (consUnknown l (joinUnknown ls))).flatMap Placed.unknown = _
    rw [sideBySide, List.flatMap_cons, ← ih]
    fun_cases consUnknown l (joinUnknown ls) with
    | case1 => rfl
    | case2 next rest unknown =>
      simp [sideBySide, Placed.unknown, Kind.pattern?, unknown, byteLength_eq_utf8Len,
        charsFrom_append, Nat.add_assoc]
    | case3 next rest known => rw [sideBySide, List.flatMap_cons]

end Lexeme

open Lexeme in
/-- The tokens of a source are those of the longest matches: the text is cut into the lexemes that
the table of patterns says, in the one way that this can be done, and these are the tokens. The
characters where no pattern matches are those that the findings say are unknown. -/
theorem tokens_by_longest_match (source : String) :
    Lexed source.toList (scan source.toList) ∧
      ∀ tokens unknown,
        tokens = (tokenize source).tokens ∧
            unknown = (tokenize source).findings.flatMap Finding.unknown ↔
          ∃ lexemes, Lexed source.toList lexemes ∧ Emitted 0 lexemes tokens unknown := by
  have tokens_eq : (tokenize source).tokens =
      (sideBySide 0 (scan source.toList)).filterMap Placed.token? := by
    rw [tokenize_tokens, placedLexemes, place_eq, filterMap_token?_joinUnknown]
  have unknown_eq : (tokenize source).findings.flatMap Finding.unknown =
      (sideBySide 0 (scan source.toList)).flatMap Placed.unknown := by
    rw [tokenize_findings, placedLexemes, place_eq, flatMap_unknown_findings,
      flatMap_unknown_joinUnknown]
  refine ⟨lexed_scan _, fun tokens unknown => ⟨?_, ?_⟩⟩
  · rintro ⟨rfl, rfl⟩
    exact ⟨_, lexed_scan _, emitted_iff.2 ⟨tokens_eq, unknown_eq⟩⟩
  · rintro ⟨lexemes, lexed, emitted⟩
    have alike := (lexed_scan source.toList).alike lexed rfl
    obtain ⟨rfl, rfl⟩ := emitted_iff.1 emitted
    rw [tokens_eq, unknown_eq]
    exact ⟨Alike.filterMap_token? alike 0, Alike.flatMap_unknown alike 0⟩

end JavaLens
