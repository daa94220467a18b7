import JavaLens.Lexeme
import Mathlib.Data.List.Basic

/-!
# Where lexemes end

A blank ends every lexeme that does not contain it. So a text that is one lexeme by itself is the
first lexeme of every text that goes on with a blank behind it.

## Main definitions

* `Lexeme.Breaks` — a text that is at its end or goes on with a blank.
* `Recognizer.Settled` — a recognizer that a blank stops.
* `Lexeme.Solid` — a text in front of which no lexeme stands that may contain blanks.

## Main statements

* `Lexeme.longest_append` — the longest match of a text stays the longest match before a blank.
* `Lexeme.longest_of_blank` — a blank starts a run of blanks.
-/

namespace JavaLens

namespace Lexeme

/-- Whether a text is at its end or goes on with a blank. -/
def Breaks (cs : List Char) : Prop := ∀ c ∈ cs.head?, isBlank c

theorem breaks_nil : Breaks [] := nofun

/-- Whether no character is a blank. -/
def isUnbroken (cs : List Char) : Bool := cs.all (!isBlank ·)

end Lexeme

namespace Recognizer

open Lexeme (isBlank Breaks isUnbroken)

variable {cs rest spelling : List Char}

/-! ## Recognizers that a blank stops -/

/-- Whether a recognizer stays within the text, and takes a blank for its end. -/
structure Settled (r : Recognizer) : Prop where
  le : ∀ cs, r cs ≤ cs.length
  append : ∀ cs rest, Breaks rest → r (cs ++ rest) = r cs

/-- A spelling without blanks does not reach behind a blank. -/
theorem prefix_append_iff (solid : isUnbroken spelling) (breaks : Breaks rest) :
    spelling <+: cs ++ rest ↔ spelling <+: cs := by
  induction spelling generalizing cs with
  | nil => simp
  | cons a spelling ih =>
    rw [isUnbroken, List.all_cons, Bool.and_eq_true, Bool.not_eq_true'] at solid
    obtain ⟨ha, solid⟩ := solid
    cases cs with
    | nil =>
      cases rest with
      | nil => rfl
      | cons b rest =>
        have hb : isBlank b = true := breaks b rfl
        have : a ≠ b := by rintro rfl; simp [ha] at hb
        simp [this]
    | cons c cs => simp only [List.cons_append, List.cons_prefix_cons, ih solid]

namespace Settled

variable {first second : Recognizer} {p : Char → Bool}

theorem one (solid : ∀ c, isBlank c → p c = false) : Settled (one p) where
  le cs := by
    cases cs with
    | nil => exact Nat.le_refl 0
    | cons c cs => simp only [Recognizer.one, List.length_cons]; split <;> omega
  append cs rest breaks := by
    cases cs with
    | cons c cs => rfl
    | nil =>
      cases rest with
      | nil => rfl
      | cons b rest => simp [Recognizer.one, solid b (breaks b rfl)]

theorem run (solid : ∀ c, isBlank c → p c = false) : Settled (run p) where
  le cs := (List.takeWhile_sublist p).length_le
  append cs rest breaks := by
    have stops : rest.takeWhile p = [] := by
      cases rest with
      | nil => rfl
      | cons b rest => simp [solid b (breaks b rfl)]
    induction cs with
    | nil => simp [Recognizer.run, stops]
    | cons c cs ih =>
      simp only [Recognizer.run] at ih ⊢
      by_cases h : p c <;> simp [h, ih]

theorem exactly (solid : isUnbroken spelling) : Settled (exactly spelling) where
  le cs := by
    unfold Recognizer.exactly
    split
    · rename_i h
      exact (List.isPrefixOf_iff_prefix.1 h).length_le
    · exact Nat.zero_le _
  append cs rest breaks := by
    have : spelling.isPrefixOf (cs ++ rest) = spelling.isPrefixOf cs := by
      rw [Bool.eq_iff_iff, List.isPrefixOf_iff_prefix, List.isPrefixOf_iff_prefix]
      exact prefix_append_iff solid breaks
    simp only [Recognizer.exactly, this]

theorem extendedBy (h : Settled first) (k : Settled second) :
    Settled (first.extendedBy second) where
  le cs := by
    have hle := h.le cs
    unfold Recognizer.extendedBy
    split
    · exact Nat.zero_le _
    · rename_i n hn
      have := k.le (cs.drop (n + 1))
      rw [List.length_drop] at this
      omega
  append cs rest breaks := by
    have hle := h.le cs
    unfold Recognizer.extendedBy
    rw [h.append cs rest breaks]
    split
    · rfl
    · rename_i n hn
      rw [List.drop_append_of_le_length (by omega), k.append _ rest breaks]

theorem followedBy (h : Settled first) (k : Settled second) :
    Settled (first.followedBy second) where
  le cs := by
    have hle := h.le cs
    unfold Recognizer.followedBy
    split
    · exact Nat.zero_le _
    · rename_i n hn
      have := k.le (cs.drop (n + 1))
      rw [List.length_drop] at this
      split <;> omega
  append cs rest breaks := by
    have hle := h.le cs
    unfold Recognizer.followedBy
    rw [h.append cs rest breaks]
    split
    · rfl
    · rename_i n hn
      rw [List.drop_append_of_le_length (by omega), k.append _ rest breaks]

theorem either (h : Settled first) (k : Settled second) : Settled (first.either second) where
  le cs := Nat.max_le.2 ⟨h.le cs, k.le cs⟩
  append cs rest breaks := by
    simp only [Recognizer.either, h.append cs rest breaks, k.append cs rest breaks]

end Settled

/-- Whether a recognizer takes only texts whose first character satisfies `p`. -/
def Starts (p : Char → Bool) (r : Recognizer) : Prop := ∀ c cs, p c = false → r (c :: cs) = 0

namespace Starts

variable {first second : Recognizer} {p : Char → Bool}

/-- What a recognizer takes starts as it asks. -/
theorem of_ne_zero {r : Recognizer} {c : Char} {cs : List Char} (h : Starts p r)
    (taken : r (c :: cs) ≠ 0) : p c := by
  by_contra missed
  exact taken (h c cs (Bool.eq_false_iff.2 missed))

theorem one (p : Char → Bool) : Starts p (one p) := fun c cs h => by simp [Recognizer.one, h]

theorem extendedBy (h : Starts p first) : Starts p (first.extendedBy second) := fun c cs hc => by
  simp [Recognizer.extendedBy, h c cs hc]

theorem followedBy (h : Starts p first) : Starts p (first.followedBy second) := fun c cs hc => by
  simp [Recognizer.followedBy, h c cs hc]

end Starts

/-! ## Regions -/

theorem exactly_of_missed (h : ¬spelling <+: cs) : exactly spelling cs = 0 := by
  rw [← List.isPrefixOf_iff_prefix] at h
  simp [exactly, h]

theorem enclosed_of_missed {opener closer : List Char} {closed : Bool}
    (h : ¬opener <+: cs) : enclosed opener closer closed cs = 0 := by
  rw [← List.isPrefixOf_iff_prefix] at h
  simp [enclosed, h]

theorem quoted_of_missed {quote : Char} {closed : Bool} (h : ¬[quote] <+: cs) :
    quoted quote closed cs = 0 := by
  cases cs with
  | nil => rfl
  | cons c cs =>
    have hc : c ≠ quote := fun hc => h (hc ▸ List.cons_prefix_cons.2 ⟨rfl, List.nil_prefix⟩)
    simp [quoted, hc]

/-- What a region ends with is found where it is found first. -/
theorem upTo_append {closer : List Char} {seen size : Nat}
    (solid : isUnbroken closer) (breaks : Breaks rest)
    (h : upTo closer seen cs = (size, true)) :
    upTo closer seen (cs ++ rest) = (size, true) ∧ size ≤ seen + cs.length := by
  induction cs generalizing seen with
  | nil => simp [upTo] at h
  | cons c cs ih =>
    have same : closer.isPrefixOf (c :: cs ++ rest) = closer.isPrefixOf (c :: cs) := by
      rw [Bool.eq_iff_iff, List.isPrefixOf_iff_prefix, List.isPrefixOf_iff_prefix]
      exact prefix_append_iff solid breaks
    rw [upTo] at h
    rw [List.cons_append, upTo, ← List.cons_append, same]
    split at h
    · rename_i found
      have := (List.isPrefixOf_iff_prefix.1 found).length_le
      obtain ⟨rfl, _⟩ := Prod.mk.inj h
      rw [if_pos found]
      exact ⟨rfl, by omega⟩
    · rename_i missed
      obtain ⟨found, bound⟩ := ih h
      rw [if_neg missed]
      exact ⟨found, by rw [List.length_cons]; omega⟩

theorem enclosed_append {opener closer : List Char} {size : Nat}
    (solid : isUnbroken closer) (breaks : Breaks rest) (opens : opener <+: cs)
    (h : upTo closer opener.length (cs.drop opener.length) = (size, true)) (closed : Bool) :
    enclosed opener closer closed (cs ++ rest) = enclosed opener closer closed cs := by
  have drop : (cs ++ rest).drop opener.length = cs.drop opener.length ++ rest :=
    List.drop_append_of_le_length opens.length_le
  have seen := List.isPrefixOf_iff_prefix.2 opens
  have seen' := List.isPrefixOf_iff_prefix.2 (opens.trans (List.prefix_append cs rest))
  simp only [enclosed, seen, seen', ↓reduceIte, drop, h, (upTo_append solid breaks h).1]

theorem enclosed_le {opener closer : List Char} (solid : isUnbroken closer) :
    enclosed opener closer true cs ≤ cs.length := by
  by_cases opens : opener <+: cs
  · obtain ⟨body, rfl⟩ := opens
    cases hbody : upTo closer opener.length body with
    | mk size found =>
      cases found with
      | false => simp [enclosed, hbody]
      | true =>
        have := (upTo_append solid Lexeme.breaks_nil hbody).2
        simpa [enclosed, hbody] using this
  · rw [enclosed_of_missed opens]
    exact Nat.zero_le _

theorem literalBody_cons {quote c : Char} {seen : Nat} (hc : c ≠ '\\') :
    literalBody quote seen (c :: cs) =
      if c = quote then (seen, true)
      else if c = '\n' then (seen, false) else literalBody quote (seen + 1) cs := by
  rw [literalBody]
  · simp only [hc, or_false]
  · exact fun _ _ h _ => hc h

/-- A literal that is closed ends with its closing quote, whatever follows. -/
theorem literalBody_append {quote : Char} {seen size : Nat} (hquote : quote ≠ '\\')
    (h : literalBody quote seen cs = (size, true)) :
    (∀ rest, literalBody quote seen (cs ++ rest) = (size, true)) ∧ size < seen + cs.length := by
  fun_induction literalBody quote seen cs with
  | case1 => simp at h
  | case2 => simp at h
  | case3 seen c cs hc ih =>
    obtain ⟨found, bound⟩ := ih h
    refine ⟨fun rest => ?_, by simp only [List.length_cons]; omega⟩
    rw [List.cons_append, List.cons_append, literalBody, if_neg hc, found]
  | case4 seen cs _ =>
    obtain ⟨rfl, _⟩ := Prod.mk.inj h
    refine ⟨fun rest => ?_, by simp⟩
    rw [List.cons_append, literalBody_cons hquote, if_pos rfl]
  | case5 => simp at h
  | case6 seen c cs _ hc hn ih =>
    obtain ⟨hnewline, hbackslash⟩ := not_or.1 hn
    obtain ⟨found, bound⟩ := ih h
    refine ⟨fun rest => ?_, by simp only [List.length_cons]; omega⟩
    rw [List.cons_append, literalBody_cons hbackslash, if_neg hc, if_neg hnewline, found]

theorem quoted_le {quote : Char} (hquote : quote ≠ '\\') : quoted quote true cs ≤ cs.length := by
  by_cases opens : [quote] <+: cs
  · obtain ⟨body, rfl⟩ := opens
    cases hbody : literalBody quote 1 body with
    | mk size closed =>
      cases closed with
      | false => simp [quoted, hbody]
      | true =>
        have := (literalBody_append hquote hbody).2
        simp only [List.singleton_append, quoted, hbody, ↓reduceIte, List.length_cons]
        omega
  · rw [quoted_of_missed opens]
    exact Nat.zero_le _

theorem quoted_append_of_ne {quote c : Char} (h : c ≠ quote) (closed : Bool) :
    quoted quote closed (c :: cs ++ rest) = quoted quote closed (c :: cs) := by
  simp [quoted, h]

/-- A literal as a whole is a quote and a body that is closed. -/
theorem exists_body {quote : Char} (h : quoted quote true cs = cs.length) (hne : cs ≠ []) :
    ∃ body, cs = quote :: body ∧ literalBody quote 1 body = (body.length, true) := by
  obtain ⟨c, body, rfl⟩ := List.exists_cons_of_ne_nil hne
  by_cases hc : c = quote
  · subst hc
    cases hbody : literalBody c 1 body with
    | mk size closed =>
      cases closed with
      | false => simp [quoted, hbody] at h
      | true =>
        obtain rfl : size = body.length := by simpa [quoted, hbody] using h
        exact ⟨body, rfl, hbody⟩
  · simp [quoted, hc] at h

theorem quoted_append {quote : Char} {size : Nat} (hquote : quote ≠ '\\')
    (h : literalBody quote 1 cs = (size, true)) (closed : Bool) :
    quoted quote closed (quote :: cs ++ rest) = quoted quote closed (quote :: cs) := by
  simp only [List.cons_append, quoted, ↓reduceIte, h, (literalBody_append hquote h).1 rest]

end Recognizer

namespace Lexeme

open Recognizer

variable {cs rest : List Char}

/-! ## Rules -/

/-- What holds of the five blanks holds of every blank. -/
theorem forall_blank {p : Char → Bool} (h : [' ', '\t', '\r', '\n', '\x0c'].all p) (c : Char)
    (blank : isBlank c) : p c := by
  simp only [isBlank, decide_eq_true_eq] at blank
  exact List.all_eq_true.1 h c (by simpa using blank)

theorem settled_one {p : Char → Bool} (h : [' ', '\t', '\r', '\n', '\x0c'].all (!p ·)) :
    Settled (one p) := .one fun c blank => by simpa using forall_blank h c blank

theorem settled_run {p : Char → Bool} (h : [' ', '\t', '\r', '\n', '\x0c'].all (!p ·)) :
    Settled (run p) := .run fun c blank => by simpa using forall_blank h c blank

theorem settled_exponent : Settled exponent :=
  (settled_one (by decide)).followedBy
    ((settled_run (by decide)).either
      ((settled_one (by decide)).followedBy (settled_run (by decide))))

theorem settled_decimal : Settled decimal :=
  ((((settled_one (by decide)).extendedBy (settled_run (by decide))).extendedBy
    ((settled_one (by decide)).extendedBy (settled_run (by decide)))).extendedBy
      settled_exponent).extendedBy (settled_one (by decide))

theorem settled_pointed : Settled pointed :=
  ((((settled_one (by decide)).followedBy (settled_one (by decide))).extendedBy
    (settled_run (by decide))).extendedBy settled_exponent).extendedBy (settled_one (by decide))

theorem settled_hexadecimal : Settled hexadecimal :=
  (((settled_one (by decide)).followedBy (settled_one (by decide))).followedBy
    (settled_run (by decide))).extendedBy (settled_one (by decide))

theorem settled_binary : Settled binary :=
  (((settled_one (by decide)).followedBy (settled_one (by decide))).followedBy
    (settled_run (by decide))).extendedBy (settled_one (by decide))

theorem settled_word : Settled ((one isWordStart).extendedBy (run isWordPart)) :=
  (settled_one (by decide)).extendedBy (settled_run (by decide))

theorem settled_symbol {spelling : List Char} {kind : Token.Kind}
    (h : (spelling, kind) ∈ symbols) : Settled (exactly spelling) := by
  have solid : ∀ entry ∈ symbols, isUnbroken entry.1 := by decide
  exact .exactly (solid _ h)

theorem starts_decimal : Starts Char.isDigit decimal :=
  (Starts.one _).extendedBy.extendedBy.extendedBy.extendedBy

theorem starts_pointed : Starts (· = '.') pointed :=
  (Starts.one _).followedBy.extendedBy.extendedBy.extendedBy

theorem starts_hexadecimal : Starts (· = '0') hexadecimal :=
  (Starts.one _).followedBy.followedBy.extendedBy

theorem starts_binary : Starts (· = '0') binary := (Starts.one _).followedBy.followedBy.extendedBy

theorem starts_word : Starts isWordStart ((one isWordStart).extendedBy (run isWordPart)) :=
  (Starts.one _).extendedBy

/-- The rules for lexemes that may contain blanks. -/
def regionRules : List Rule := rules.take 10

/-- What lexemes that may contain blanks start with. -/
def openers : List (List Char) :=
  [[' '], ['\t'], ['\r'], ['\n'], ['\x0c'], ['/', '/'], ['/', '*'], ['"'], ['\'']]

/-- Whether no lexeme that may contain blanks starts here. -/
def Solid (cs : List Char) : Prop := ∀ opener ∈ openers, ¬opener <+: cs

/-- The rules for lexemes that contain no blanks. -/
theorem mem_drop_rules {rule : Rule} (h : rule ∈ rules.drop 10) :
    (rule = ⟨.number, decimal⟩ ∨ rule = ⟨.number, pointed⟩ ∨ rule = ⟨.number, hexadecimal⟩ ∨
      rule = ⟨.number, binary⟩ ∨ rule = ⟨.word, (one isWordStart).extendedBy (run isWordPart)⟩) ∨
    ∃ spelling kind, (spelling, kind) ∈ symbols ∧ rule = ⟨.symbol kind, exactly spelling⟩ := by
  have split : rules.drop 10 =
      [⟨.number, decimal⟩, ⟨.number, pointed⟩, ⟨.number, hexadecimal⟩, ⟨.number, binary⟩,
        ⟨.word, (one isWordStart).extendedBy (run isWordPart)⟩] ++
      symbols.map fun entry => ⟨.symbol entry.2, exactly entry.1⟩ := rfl
  rw [split, List.mem_append] at h
  refine h.imp (fun h => by simpa using h) fun h => ?_
  obtain ⟨⟨spelling, kind⟩, hsymbol, rfl⟩ := List.mem_map.1 h
  exact ⟨spelling, kind, hsymbol, rfl⟩

theorem settled_of_mem_drop {rule : Rule} (h : rule ∈ rules.drop 10) : Settled rule.size := by
  obtain (rfl | rfl | rfl | rfl | rfl) | ⟨spelling, kind, hsymbol, rfl⟩ := mem_drop_rules h
  · exact settled_decimal
  · exact settled_pointed
  · exact settled_hexadecimal
  · exact settled_binary
  · exact settled_word
  · exact settled_symbol hsymbol

theorem mem_rules_cases {rule : Rule} (h : rule ∈ rules) :
    rule ∈ regionRules ∨ Settled rule.size := by
  rw [← List.take_append_drop 10 rules, List.mem_append] at h
  exact h.imp_right settled_of_mem_drop

theorem Solid.append (h : Solid cs) (hne : cs ≠ []) (breaks : Breaks rest) :
    Solid (cs ++ rest) := by
  obtain ⟨c, cs, rfl⟩ := List.exists_cons_of_ne_nil hne
  intro opener hopener
  have tails : ∀ opener ∈ openers, opener ≠ [] ∧ isUnbroken opener.tail := by decide
  obtain ⟨hne, solid⟩ := tails opener hopener
  obtain ⟨o, opener, rfl⟩ := List.exists_cons_of_ne_nil hne
  have missed := h _ hopener
  rw [List.cons_prefix_cons] at missed
  rw [List.tail_cons] at solid
  rwa [List.cons_append, List.cons_prefix_cons, prefix_append_iff solid breaks]

theorem mem_regionRules_iff {rule : Rule} :
    rule ∈ regionRules ↔
      rule = ⟨.blank, run isBlank⟩ ∨ rule = ⟨.lineComment, lineComment⟩ ∨
      (∃ closed, rule = ⟨.blockComment closed, enclosed ['/', '*'] ['*', '/'] closed⟩) ∨
      (∃ closed, rule = ⟨.textBlock closed, enclosed ['"', '"', '"'] ['"', '"', '"'] closed⟩) ∨
      (∃ closed, rule = ⟨.string closed, quoted '"' closed⟩) ∨
      ∃ closed, rule = ⟨.character closed, quoted '\'' closed⟩ := by
  simp only [regionRules, rules, List.cons_append, List.take_succ_cons, List.take_zero,
    List.mem_cons, List.not_mem_nil, or_false, Bool.exists_bool]
  grind

theorem Solid.region_size {rule : Rule} (h : Solid cs) (hrule : rule ∈ regionRules) :
    rule.size cs = 0 := by
  have double : ¬['"', '"', '"'] <+: cs := fun hquotes =>
    h ['"'] (by decide) (List.IsPrefix.trans ⟨['"', '"'], rfl⟩ hquotes)
  obtain rfl | rfl | ⟨closed, rfl⟩ | ⟨closed, rfl⟩ | ⟨closed, rfl⟩ | ⟨closed, rfl⟩ :=
    mem_regionRules_iff.1 hrule
  · cases cs with
    | nil => rfl
    | cons c cs =>
      have hc : isBlank c = false := by
        rw [Bool.eq_false_iff]
        intro blank
        have opens := forall_blank (p := fun c => [c] ∈ openers) (by decide) c blank
        exact h [c] (of_decide_eq_true opens) ⟨cs, rfl⟩
      simp [run, hc]
  · simp [lineComment, extendedBy, exactly_of_missed (h ['/', '/'] (by decide))]
  · exact enclosed_of_missed (h _ (by decide))
  · exact enclosed_of_missed double
  · exact quoted_of_missed (h _ (by decide))
  · exact quoted_of_missed (h _ (by decide))

/-- Before a blank every rule takes as much of a solid text as at its end. -/
theorem Solid.size_append {rule : Rule} (h : Solid cs) (hne : cs ≠ []) (breaks : Breaks rest)
    (hrule : rule ∈ rules) : rule.size (cs ++ rest) = rule.size cs := by
  obtain region | settled := mem_rules_cases hrule
  · rw [(h.append hne breaks).region_size region, h.region_size region]
  · exact settled.append cs rest breaks

/-! ## The longest match -/

/-- The better of the best match so far and that of one more rule. -/
def better (cs : List Char) (best : Kind × Nat) (rule : Rule) : Kind × Nat :=
  if best.2 < rule.size cs then (rule.kind, rule.size cs) else best

theorem longest_eq (cs : List Char) : longest cs = rules.foldl (better cs) (.unknown, 0) := rfl

theorem longest_congr {cs ds : List Char} (h : ∀ rule ∈ rules, rule.size ds = rule.size cs) :
    longest ds = longest cs := by
  rw [longest_eq, longest_eq]
  refine List.foldl_ext _ _ _ fun best rule hrule => ?_
  rw [better, better, h rule hrule]

/-- The longest match is that of some rule, unless no rule matches. -/
theorem longest_cases (cs : List Char) : longest cs = (.unknown, 0) ∨
    0 < (longest cs).2 ∧ ∃ rule ∈ rules, (rule.kind, rule.size cs) = longest cs := by
  rw [longest_eq]
  refine List.foldlRecOn (b := (.unknown, 0)) (motive := fun best => best = (.unknown, 0) ∨
    0 < best.2 ∧ ∃ rule ∈ rules, (rule.kind, rule.size cs) = best) _ _ (.inl rfl)
    fun best ih rule hrule => ?_
  unfold better
  split
  · rename_i longer
    exact .inr ⟨Nat.zero_lt_of_lt longer, rule, hrule, rfl⟩
  · exact ih

theorem exists_rule {kind : Kind} {size : Nat} (h : longest cs = (kind, size))
    (hkind : kind ≠ .unknown) :
    0 < size ∧ ∃ rule ∈ rules, rule.kind = kind ∧ rule.size cs = size := by
  have found := longest_cases cs
  rw [h] at found
  obtain none | ⟨positive, rule, hrule, same⟩ := found
  · exact absurd (congrArg Prod.fst none) hkind
  · exact ⟨positive, rule, hrule, congrArg Prod.fst same, congrArg Prod.snd same⟩

/-- No rule takes more than the longest match. -/
theorem size_le_longest {rule : Rule} (hrule : rule ∈ rules) (cs : List Char) :
    rule.size cs ≤ (longest cs).2 := by
  have kept (rules : List Rule) (best : Kind × Nat) :
      best.2 ≤ (rules.foldl (better cs) best).2 := by
    induction rules generalizing best with
    | nil => exact Nat.le_refl _
    | cons rule rules ih =>
      refine Nat.le_trans ?_ (ih _)
      unfold better
      split <;> omega
  obtain ⟨before, after, split⟩ := List.append_of_mem hrule
  rw [longest_eq, split, List.foldl_append, List.foldl_cons]
  refine Nat.le_trans ?_ (kept after _)
  unfold better
  split <;> omega

theorem foldl_better_eq {rules : List Rule} {best : Kind × Nat}
    (h : ∀ rule ∈ rules, rule.size cs ≤ best.2) : rules.foldl (better cs) best = best := by
  induction rules with
  | nil => rfl
  | cons rule rules ih =>
    obtain ⟨hrule, hrules⟩ := List.forall_mem_cons.1 h
    rw [List.foldl_cons, better, if_neg (Nat.not_lt.2 hrule), ih hrules]

/-- A blank at the front belongs to no lexeme but a run of blanks. -/
theorem size_of_blank {c : Char} {rule : Rule} (blank : isBlank c) (hrule : rule ∈ rules) :
    rule = ⟨.blank, run isBlank⟩ ∨ rule.size (c :: cs) = 0 := by
  have missed {spelling : List Char} (hspelling : spelling.head?.all (!isBlank ·))
      (hne : spelling ≠ []) : ¬spelling <+: c :: cs := by
    obtain ⟨a, spelling, rfl⟩ := List.exists_cons_of_ne_nil hne
    intro h
    obtain ⟨rfl, _⟩ := List.cons_prefix_cons.1 h
    simp [blank] at hspelling
  obtain region | settled := mem_rules_cases hrule
  · obtain rfl | rfl | ⟨closed, rfl⟩ | ⟨closed, rfl⟩ | ⟨closed, rfl⟩ | ⟨closed, rfl⟩ :=
      mem_regionRules_iff.1 region
    · exact .inl rfl
    · have : exactly ['/', '/'] (c :: cs) = 0 :=
        exactly_of_missed (missed (by decide) (by simp))
      exact .inr (by simp [lineComment, extendedBy, this])
    · exact .inr (enclosed_of_missed (missed (by decide) (by simp)))
    · exact .inr (enclosed_of_missed (missed (by decide) (by simp)))
    · exact .inr (quoted_of_missed (missed (by decide) (by simp)))
    · exact .inr (quoted_of_missed (missed (by decide) (by simp)))
  · -- A settled rule takes nothing at the end of a text, and so nothing before a blank.
    have breaks : Breaks (c :: cs) := fun b hb => by cases hb; exact blank
    have := settled.append [] (c :: cs) breaks
    have := settled.le []
    simp_all

/-- A blank at the front starts a run of blanks. -/
theorem longest_of_blank {c : Char} (blank : isBlank c) :
    longest (c :: cs) = (.blank, run isBlank (c :: cs)) := by
  have positive : 0 < run isBlank (c :: cs) := by simp [run, blank]
  have split : rules = ⟨.blank, run isBlank⟩ :: rules.tail := rfl
  rw [longest_eq, split, List.foldl_cons, better, if_pos positive]
  refine foldl_better_eq fun rule hrule => ?_
  have : _ ∨ rule.size (c :: cs) = 0 := size_of_blank blank (List.mem_of_mem_tail hrule)
  obtain rfl | zero := this
  · exact Nat.le_refl _
  · rw [zero]
    exact Nat.zero_le _

/-! ## Lexemes before a blank -/

/-- Whether a lexeme of a kind is a token with nothing wrong. -/
def Kind.IsSound : Kind → Prop
  | .textBlock closed | .string closed | .character closed => closed = true
  | .number | .word | .symbol _ => True
  | _ => False

theorem Kind.IsSound.ne_unknown {kind : Kind} (h : kind.IsSound) : kind ≠ .unknown := by
  rintro rfl
  exact h

theorem mem_rules_of_isSound {rule : Rule} (hrule : rule ∈ rules) (sound : rule.kind.IsSound) :
    rule ∈ rules.drop 10 ∨ rule = ⟨.textBlock true, enclosed ['"', '"', '"'] ['"', '"', '"'] true⟩ ∨
      rule = ⟨.string true, quoted '"' true⟩ ∨ rule = ⟨.character true, quoted '\'' true⟩ := by
  rw [← List.take_append_drop 10 rules, List.mem_append] at hrule
  obtain region | solid := hrule
  · obtain rfl | rfl | ⟨closed, rfl⟩ | ⟨closed, rfl⟩ | ⟨closed, rfl⟩ | ⟨closed, rfl⟩ :=
      mem_regionRules_iff.1 region
    · exact sound.elim
    · exact sound.elim
    · exact sound.elim
    · obtain rfl : closed = true := sound
      exact .inr (.inl rfl)
    · obtain rfl : closed = true := sound
      exact .inr (.inr (.inl rfl))
    · obtain rfl : closed = true := sound
      exact .inr (.inr (.inr rfl))
  · exact .inl solid

theorem solid_of_starts {p : Char → Bool} {r : Recognizer} (h : Starts p r)
    (excluded : ∀ opener ∈ openers, opener.head?.all (!p ·)) (hsize : r cs ≠ 0) :
    Solid cs := by
  intro opener hopener opens
  have nonempty : ∀ opener ∈ openers, opener ≠ [] := by decide
  obtain ⟨c, opener, rfl⟩ := List.exists_cons_of_ne_nil (nonempty _ hopener)
  obtain ⟨rest, rfl⟩ := opens
  exact hsize (h c _ (by simpa using excluded _ hopener))

/-- A lexeme with nothing wrong does not reach behind its text. -/
theorem size_le_of_isSound {rule : Rule} (hrule : rule ∈ rules) (sound : rule.kind.IsSound)
    (cs : List Char) : rule.size cs ≤ cs.length := by
  obtain solid | rfl | rfl | rfl := mem_rules_of_isSound hrule sound
  · exact (settled_of_mem_drop solid).le cs
  · exact enclosed_le (by decide)
  · exact quoted_le (by decide)
  · exact quoted_le (by decide)

/-- A number, a word or a symbol starts with no opener. -/
theorem solid_of_mem_drop {rule : Rule} (hrule : rule ∈ rules.drop 10)
    (hsize : rule.size cs = cs.length) (hne : cs ≠ []) : Solid cs := by
  have hsize' : rule.size cs ≠ 0 := by simpa [hsize] using hne
  obtain (rfl | rfl | rfl | rfl | rfl) | ⟨spelling, kind, hsymbol, rfl⟩ := mem_drop_rules hrule
  · exact solid_of_starts starts_decimal (by decide) hsize'
  · exact solid_of_starts starts_pointed (by decide) hsize'
  · exact solid_of_starts starts_hexadecimal (by decide) hsize'
  · exact solid_of_starts starts_binary (by decide) hsize'
  · exact solid_of_starts starts_word (by decide) hsize'
  · have solid : ∀ entry ∈ symbols, ∀ opener ∈ openers, ¬opener <+: entry.1 := by decide
    have spelled : spelling <+: cs := by
      by_contra h
      exact hsize' (exactly_of_missed h)
    have hlength : spelling.length = cs.length := by
      simpa [exactly, List.isPrefixOf_iff_prefix.2 spelled] using hsize
    exact spelled.eq_of_length hlength ▸ solid _ hsymbol

/-- What the rules take of a text depends on what they take of quotes and text blocks. -/
theorem size_append_of_head {c : Char} (hblank : isBlank c = false) (hslash : c ≠ '/')
    (breaks : Breaks rest)
    (blocks : ∀ closed, enclosed ['"', '"', '"'] ['"', '"', '"'] closed (c :: cs ++ rest) =
      enclosed ['"', '"', '"'] ['"', '"', '"'] closed (c :: cs))
    (strings : ∀ closed, quoted '"' closed (c :: cs ++ rest) = quoted '"' closed (c :: cs))
    (characters : ∀ closed, quoted '\'' closed (c :: cs ++ rest) = quoted '\'' closed (c :: cs))
    {rule : Rule} (hrule : rule ∈ rules) : rule.size (c :: cs ++ rest) = rule.size (c :: cs) := by
  have missed {spelling : List Char} (ds : List Char) : ¬ '/' :: spelling <+: c :: ds := by
    rw [List.cons_prefix_cons]
    exact fun h => hslash h.1.symm
  obtain region | settled := mem_rules_cases hrule
  · obtain rfl | rfl | ⟨closed, rfl⟩ | ⟨closed, rfl⟩ | ⟨closed, rfl⟩ | ⟨closed, rfl⟩ :=
      mem_regionRules_iff.1 region
    · simp [run, hblank]
    · simp [lineComment, extendedBy, exactly_of_missed (missed _)]
    · exact (enclosed_of_missed (missed _)).trans (enclosed_of_missed (missed _)).symm
    · exact blocks closed
    · exact strings closed
    · exact characters closed
  · exact settled.append _ rest breaks

/-- A text block as a whole is three quotes and a body that is closed. -/
theorem exists_block (h : enclosed ['"', '"', '"'] ['"', '"', '"'] true cs = cs.length)
    (hne : cs ≠ []) :
    ∃ body, cs = '"' :: '"' :: '"' :: body ∧
      upTo ['"', '"', '"'] 3 body = (body.length + 3, true) := by
  by_cases opens : ['"', '"', '"'] <+: cs
  · obtain ⟨body, rfl⟩ := opens
    cases hbody : upTo ['"', '"', '"'] 3 body with
    | mk size found =>
      cases found with
      | false => simp [enclosed, hbody] at h
      | true =>
        obtain rfl : size = body.length + 3 := by simpa [enclosed, hbody] using h
        exact ⟨body, rfl, hbody⟩
  · rw [enclosed_of_missed opens] at h
    exact absurd (List.length_eq_zero_iff.1 h.symm) hne

/-- A text that is one lexeme stays one before a blank. -/
theorem longest_append {kind : Kind} (h : longest cs = (kind, cs.length)) (hne : cs ≠ [])
    (sound : kind.IsSound) (breaks : Breaks rest) :
    longest (cs ++ rest) = (kind, cs.length) := by
  suffices same : ∀ rule ∈ rules, rule.size (cs ++ rest) = rule.size cs from
    (longest_congr same).trans h
  obtain ⟨_, rule, hrule, rfl, hsize⟩ := exists_rule h sound.ne_unknown
  obtain solid | rfl | rfl | rfl := mem_rules_of_isSound hrule sound
  · exact fun rule => (solid_of_mem_drop solid hsize hne).size_append hne breaks
  · obtain ⟨body, rfl, hbody⟩ := exists_block hsize hne
    have double : literalBody '"' 1 ('"' :: '"' :: body) = (1, true) := rfl
    refine fun rule => size_append_of_head rfl (by decide) breaks (fun closed => ?_) ?_ ?_
    · exact enclosed_append (by decide) breaks ⟨body, rfl⟩ hbody closed
    · exact quoted_append (by decide) double
    · exact quoted_append_of_ne (by decide)
  · obtain ⟨body, rfl, hbody⟩ := exists_body hsize hne
    refine fun rule => size_append_of_head rfl (by decide) breaks (fun closed => ?_) ?_ ?_
    · have single : ¬['"', '"', '"'] <+: '"' :: body := by
        rintro ⟨rest, h⟩
        obtain rfl : '"' :: '"' :: rest = body := List.tail_eq_of_cons_eq h
        cases hbody
      have single' := mt (prefix_append_iff (by decide) breaks).1 single
      exact (enclosed_of_missed single').trans (enclosed_of_missed single).symm
    · exact quoted_append (by decide) hbody
    · exact quoted_append_of_ne (by decide)
  · obtain ⟨body, rfl, hbody⟩ := exists_body hsize hne
    refine fun rule => size_append_of_head rfl (by decide) breaks (fun closed => ?_) ?_ ?_
    · exact (enclosed_of_missed (by simp)).trans (enclosed_of_missed (by simp)).symm
    · exact quoted_append_of_ne (by decide)
    · exact quoted_append (by decide) hbody

end Lexeme

end JavaLens
