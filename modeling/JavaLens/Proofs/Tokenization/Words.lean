import JavaLens.Proofs.Lexeme
import JavaLens.Proofs.Tokenization

/-!
# Words with blanks between them

Words that are printed with blanks between them are read back as the same words, whatever the blanks
are.

## Main definitions

* `Word` — a token without its place.
* `Word.isToken` — a word whose text is a token of its kind.
* `Printed` — a text of words with blanks between them.

## Main statements

* `tokenize_printed` — the tokens of such a text are the words.
-/

namespace JavaLens

/-- A token without its place. -/
structure Word where
  kind : Token.Kind
  text : String
deriving DecidableEq, Repr, Inhabited

/-- The word that stands at a token. -/
def Token.word (token : Token) : Word := ⟨token.kind, token.text⟩

/-- Whether the text of a word is a single lexeme, of the kind of the word and with nothing
wrong. -/
def Word.isToken (w : Word) : Bool :=
  match Lexeme.scan w.text.toList with
  | [lexeme] => lexeme.tokenKind? == some w.kind && lexeme.fault?.isNone
  | _ => false

/-- Whether a text is made of words with blanks between them, and perhaps at its ends. -/
inductive Printed : List Word → List Char → Prop where
  | nil {blanks : List Char} (blank : blanks.all Lexeme.isBlank) : Printed [] blanks
  | cons {blanks rest : List Char} {w : Word} {ws : List Word} (blank : blanks.all Lexeme.isBlank)
      (apart : Lexeme.Breaks rest) (next : Printed ws rest) :
      Printed (w :: ws) (blanks ++ w.text.toList ++ rest)

/-- One blank behind each word is enough. -/
theorem Printed.spaced (ws : List Word) :
    Printed ws (ws.flatMap fun w => w.text.toList ++ [' ']) := by
  have leading (ws : List Word) :
      Printed ws (' ' :: ws.flatMap fun w => w.text.toList ++ [' ']) := by
    induction ws with
    | nil => exact .nil rfl
    | cons w ws ih =>
      have : Printed (w :: ws) ([' '] ++ w.text.toList ++ _) :=
        .cons rfl (by simp [Lexeme.Breaks, Lexeme.isBlank]) ih
      simpa using this
  cases ws with
  | nil => exact .nil rfl
  | cons w ws =>
    have : Printed (w :: ws) ([] ++ w.text.toList ++ _) :=
      .cons rfl (by simp [Lexeme.Breaks, Lexeme.isBlank]) (leading ws)
    simpa using this

namespace Lexeme

variable {cs rest : List Char}

/-! ## Scanning piece by piece -/

theorem toList_scanFrom (done : Array Lexeme) (cs : List Char) :
    (scanFrom done cs).toList = done.toList ++ scan cs := by
  suffices ∀ cs : List Char, ∀ done other : Array Lexeme,
      (scanFrom (done ++ other) cs).toList = done.toList ++ (scanFrom other cs).toList by
    simpa [scan] using this cs done #[]
  intro cs done other
  fun_induction scanFrom other cs with
  | case1 other => simp [scanFrom]
  | case2 other c cs kind size hlongest ih =>
    rw [scanFrom, hlongest, ← ih, Array.append_push]

@[simp]
theorem scan_nil : scan [] = [] := by
  rw [scan, scanFrom]

theorem scan_cons {c : Char} {kind : Kind} {size : Nat} (h : longest (c :: cs) = (kind, size)) :
    scan (c :: cs) = ⟨kind, c :: cs.take (size - 1)⟩ :: scan (cs.drop (size - 1)) := by
  rw [scan, scanFrom, h, toList_scanFrom]
  rfl

/-- The longest match is the first lexeme. -/
theorem scan_append {kind : Kind} (h : longest (cs ++ rest) = (kind, cs.length)) (hne : cs ≠ []) :
    scan (cs ++ rest) = ⟨kind, cs⟩ :: scan rest := by
  obtain ⟨c, cs, rfl⟩ := List.exists_cons_of_ne_nil hne
  rw [List.cons_append] at h ⊢
  rw [scan_cons h, List.length_cons, Nat.add_sub_cancel, List.take_left, List.drop_left]

/-- What is scanned where blanks stand: one lexeme, if there are any. -/
def gap (blanks : List Char) : List Lexeme := if blanks = [] then [] else [⟨.blank, blanks⟩]

theorem mem_gap {blanks : List Char} {l : Lexeme} (h : l ∈ gap blanks) : l = ⟨.blank, blanks⟩ := by
  unfold gap at h
  split at h
  · cases h
  · exact List.mem_singleton.1 h

/-- Blanks are one lexeme, if there are any. -/
theorem scan_gap {blanks : List Char} (blank : blanks.all isBlank)
    (hrest : ∀ c ∈ rest.head?, isBlank c = false) :
    scan (blanks ++ rest) = gap blanks ++ scan rest := by
  cases blanks with
  | nil => rfl
  | cons c blanks =>
    have all := List.all_eq_true.1 blank
    have stops : rest.takeWhile isBlank = [] := by
      cases rest with
      | nil => rfl
      | cons d rest => simp [hrest d rfl]
    have hrun : Recognizer.run isBlank (c :: blanks ++ rest) = (c :: blanks).length := by
      rw [Recognizer.run, List.takeWhile_append_of_pos all, stops, List.append_nil]
    refine scan_append ?_ (List.cons_ne_nil _ _)
    rw [← hrun]
    exact longest_of_blank (all c List.mem_cons_self)

/-! ## Words -/

/-- The word that a lexeme is. -/
def word? (l : Lexeme) : Option Word := l.tokenKind?.map (⟨·, String.ofList l.text⟩)

theorem isSound_of_tokenKind? {l : Lexeme} {kind : Token.Kind} (h : l.tokenKind? = some kind)
    (unbroken : l.fault? = none) : l.kind.IsSound := by
  obtain ⟨kind, text⟩ := l
  cases kind with
  | blank | lineComment | blockComment | unknown => cases h
  | textBlock closed | string closed | character closed =>
    cases closed with
    | true => rfl
    | false => cases unbroken
  | number | word | symbol => trivial

/-- The text of a word is its own longest match. -/
theorem longest_of_isToken {w : Word} (h : w.isToken) :
    ∃ kind : Kind, longest w.text.toList = (kind, w.text.toList.length) ∧ w.text.toList ≠ [] ∧
      kind.IsSound ∧ word? ⟨kind, w.text.toList⟩ = some w := by
  unfold Word.isToken at h
  split at h
  · rename_i lexeme hscan
    simp only [Bool.and_eq_true, beq_iff_eq, Option.isNone_iff_eq_none] at h
    obtain ⟨hkind, unbroken⟩ := h
    have sound := isSound_of_tokenKind? hkind unbroken
    have htext : lexeme.text = w.text.toList := by
      have := chars_scan w.text.toList
      rwa [hscan, chars_cons, chars_nil, List.append_nil] at this
    cases hcs : w.text.toList with
    | nil => simp [hcs] at hscan
    | cons c cs =>
      cases hlongest : longest (c :: cs) with
      | mk kind size =>
        rw [hcs, scan_cons hlongest, List.cons_eq_cons] at hscan
        obtain ⟨rfl, _⟩ := hscan
        obtain ⟨positive, rule, hrule, rfl, rfl⟩ := exists_rule hlongest sound.ne_unknown
        have hle := size_le_of_isSound hrule sound (c :: cs)
        have hlength := congrArg List.length (htext.trans hcs)
        simp only [List.length_cons, List.length_take] at hlength hle
        refine ⟨_, congrArg _ ?_, List.cons_ne_nil _ _, sound, ?_⟩
        · rw [List.length_cons]
          omega
        · rw [word?, ← htext.trans hcs, hkind, htext, String.ofList_toList]
          rfl
  · cases h

/-- The text of a word before a blank is a lexeme. -/
theorem scan_word {w : Word} (h : w.isToken) (apart : Breaks rest) :
    ∃ l : Lexeme, scan (w.text.toList ++ rest) = l :: scan rest ∧ l.kind.IsSound ∧
      word? l = some w := by
  obtain ⟨kind, hlongest, hne, sound, hword⟩ := longest_of_isToken h
  exact ⟨_, scan_append (longest_append hlongest hne sound apart) hne, sound, hword⟩

/-- The first character of a word is no blank. -/
theorem head_of_isToken {w : Word} (h : w.isToken) :
    ∀ c ∈ (w.text.toList ++ rest).head?, isBlank c = false := by
  obtain ⟨kind, hlongest, hne, sound, _⟩ := longest_of_isToken h
  obtain ⟨c, cs, hcs⟩ := List.exists_cons_of_ne_nil hne
  rw [hcs] at hlongest ⊢
  rintro _ ⟨⟩
  rw [Bool.eq_false_iff]
  intro blank
  rw [longest_of_blank blank] at hlongest
  obtain rfl := congrArg Prod.fst hlongest
  exact sound

theorem fault?_of_isSound {l : Lexeme} (h : l.kind.IsSound) : l.fault? = none := by
  obtain ⟨kind, text⟩ := l
  cases kind with
  | blank | lineComment | number | word | symbol => rfl
  | textBlock closed | string closed | character closed =>
    obtain rfl : closed = true := h
    rfl
  | blockComment | unknown => exact h.elim

/-- Whether a lexeme leaves no trace but the word it is. -/
def IsClean (l : Lexeme) : Prop := l.kind ≠ .unknown ∧ l.fault? = none

/-- The lexemes of printed words are the words, and blanks between them. -/
theorem scan_printed {ws : List Word} (h : Printed ws cs) (tokens : ∀ w ∈ ws, w.isToken) :
    (scan cs).filterMap word? = ws ∧ ∀ l ∈ scan cs, l.IsClean := by
  -- Blanks in front change nothing.
  have behindBlanks {blanks rest : List Char} {ws : List Word} (blank : blanks.all isBlank)
      (hrest : ∀ c ∈ rest.head?, isBlank c = false)
      (h : (scan rest).filterMap word? = ws ∧ ∀ l ∈ scan rest, l.IsClean) :
      (scan (blanks ++ rest)).filterMap word? = ws ∧ ∀ l ∈ scan (blanks ++ rest), l.IsClean := by
    rw [scan_gap blank hrest]
    constructor
    · have none : (gap blanks).filterMap word? = [] :=
        List.filterMap_eq_nil_iff.2 fun l hl => by rw [mem_gap hl]; rfl
      rw [List.filterMap_append, none, List.nil_append, h.1]
    · intro l hl
      obtain hl | hl := List.mem_append.1 hl
      · rw [mem_gap hl]
        exact ⟨nofun, rfl⟩
      · exact h.2 l hl
  induction h with
  | nil blank =>
    have empty : (scan ([] : List Char)).filterMap word? = [] ∧ ∀ l ∈ scan [], l.IsClean := by simp
    simpa using behindBlanks blank (by simp) empty
  | cons blank apart next ih =>
    obtain ⟨token, tokens⟩ := List.forall_mem_cons.1 tokens
    obtain ⟨words, clean⟩ := ih tokens
    obtain ⟨l, hscan, sound, hword⟩ := scan_word token apart
    rw [List.append_assoc]
    refine behindBlanks blank (head_of_isToken token) ?_
    rw [hscan, List.filterMap_cons_some hword, words]
    exact ⟨rfl, List.forall_mem_cons.2 ⟨⟨sound.ne_unknown, fault?_of_isSound sound⟩, clean⟩⟩

theorem joinUnknown_of_isClean {ls : List Lexeme} (h : ∀ l ∈ ls, l.IsClean) :
    joinUnknown ls = ls := by
  induction ls with
  | nil => rfl
  | cons l ls ih =>
    obtain ⟨hl, hls⟩ := List.forall_mem_cons.1 h
    rw [joinUnknown, List.foldr_cons, ← joinUnknown, ih hls]
    unfold consUnknown
    split
    · rfl
    · rw [if_neg fun unknown => hl.1 unknown.1]

theorem words_place (ls : List Lexeme) :
    ((place ls).filterMap Placed.token?).map Token.word = ls.filterMap word? := by
  suffices ∀ start, ((sideBySide start ls).filterMap Placed.token?).map Token.word =
      ls.filterMap word? by
    rw [place_eq, this]
  induction ls with
  | nil => exact fun _ => rfl
  | cons l ls ih =>
    intro start
    cases hkind : l.tokenKind? <;> simp [sideBySide, Placed.token?, word?, hkind, ih, Token.word]

end Lexeme

/-- The tokens of printed words are the words, and nothing is wrong with their characters. -/
theorem tokenize_printed {ws : List Word} {source : String} (h : Printed ws source.toList)
    (tokens : ∀ w ∈ ws, w.isToken) :
    (tokenize source).tokens.map Token.word = ws ∧ (tokenize source).findings = [] := by
  obtain ⟨words, clean⟩ := Lexeme.scan_printed h tokens
  have joined := Lexeme.joinUnknown_of_isClean clean
  constructor
  · rw [tokenize_tokens, placedLexemes, joined, Lexeme.words_place, words]
  · rw [tokenize_findings, placedLexemes, joined, List.filterMap_eq_nil_iff]
    intro p hp
    rw [Lexeme.place_eq] at hp
    obtain ⟨before, after, hsplit, _⟩ := Lexeme.split_of_mem_sideBySide hp
    have := clean p.lexeme (by simp [hsplit])
    simp [Lexeme.Placed.finding?, this.2]

end JavaLens
