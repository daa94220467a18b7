import JavaLens.Proofs.Tokenization.Words

/-!
# Lines

A newline ends every lexeme but comments and text blocks, just as the end of a text does. So a text
in which none of these is left open is scanned the same, whatever stands on the lines behind it, and
these are scanned as if they stood alone.

## Main definitions

* `Recognizer.EndsAtLine` — a recognizer for which a newline is the end of the text.
* `Token.shift`, `Finding.shift` — tokens and findings in a text that is moved on.

## Main statements

* `Lexeme.longest_line` — what a newline does not change.
* `Lexeme.scan_line` — the lexemes of a text with more lines behind it.
* `tokens_line`, `findings_line` — its tokens and findings.
-/

namespace JavaLens

namespace Recognizer

open Lexeme (isBlank Breaks isUnbroken)

variable {cs ds : List Char}

/-! ## Recognizers that a newline stops -/

theorem breaks_newline (ds : List Char) : Breaks ('\n' :: ds) := by
  rintro _ ⟨⟩
  rfl

/-- Whether a recognizer stays within the text, and takes a newline for its end. -/
structure EndsAtLine (r : Recognizer) : Prop where
  le : ∀ cs, r cs ≤ cs.length
  append : ∀ cs ds, r (cs ++ '\n' :: ds) = r cs

theorem Settled.endsAtLine {r : Recognizer} (h : Settled r) : EndsAtLine r :=
  ⟨h.le, fun cs ds => h.append cs _ (breaks_newline ds)⟩

theorem run_line (cs ds : List Char) : run (· ≠ '\n') (cs ++ '\n' :: ds) = run (· ≠ '\n') cs := by
  induction cs with
  | nil => simp [run]
  | cons c cs ih =>
    simp only [run] at ih ⊢
    by_cases h : c = '\n' <;> simp_all

/-- Blanks in front of something else are not changed by what follows. -/
theorem run_blank_line (h : ∃ c ∈ cs, isBlank c = false) :
    run isBlank (cs ++ ds) = run isBlank cs := by
  have stops : cs.takeWhile isBlank ≠ cs := by
    obtain ⟨c, hc, visible⟩ := h
    intro all
    have := List.all_eq_true.1 (all ▸ List.all_takeWhile) c hc
    simp [visible] at this
  rw [run, run, List.takeWhile_append, if_neg fun whole => stops ?_]
  exact (List.takeWhile_prefix isBlank).eq_of_length whole

/-- A line comment ends with its line. -/
theorem endsAtLine_lineComment : EndsAtLine Lexeme.lineComment := by
  have slashes : Settled (exactly ['/', '/']) := .exactly (by decide)
  constructor
  · intro cs
    have := slashes.le cs
    unfold Lexeme.lineComment extendedBy
    split
    · exact Nat.zero_le _
    · rename_i n hn
      have : run (· ≠ '\n') (cs.drop (n + 1)) ≤ (cs.drop (n + 1)).length :=
        (List.takeWhile_sublist _).length_le
      rw [List.length_drop] at this
      omega
  · intro cs ds
    have := slashes.le cs
    unfold Lexeme.lineComment extendedBy
    rw [slashes.append cs _ (breaks_newline ds)]
    split
    · rfl
    · rw [List.drop_append_of_le_length (by omega), run_line]

/-- A literal ends with its line, closed or not. -/
theorem literalBody_line {quote : Char} (hquote : quote ≠ '\n') (hescape : quote ≠ '\\')
    (seen : Nat) (cs ds : List Char) :
    literalBody quote seen (cs ++ '\n' :: ds) = literalBody quote seen cs := by
  fun_induction literalBody quote seen cs with
  | case1 seen => simp [literalBody, hquote.symm]
  | case2 seen cs => simp [literalBody]
  | case3 seen c cs hc ih => simp [literalBody, hc, ih]
  | case4 seen cs => rw [List.cons_append, literalBody_cons hescape, if_pos rfl]
  | case5 seen c cs alone hc stops =>
    obtain rfl | rfl := stops
    · rw [List.cons_append, literalBody_cons (by decide), if_neg hc, if_pos rfl]
    · -- A backslash that stops the literal is the last character of the text.
      cases cs with
      | nil => simp [literalBody]
      | cons d cs => exact absurd rfl (alone d cs rfl)
  | case6 seen c cs _ hc goesOn ih =>
    obtain ⟨hnewline, hbackslash⟩ := not_or.1 goesOn
    rw [List.cons_append, literalBody_cons hbackslash, if_neg hc, if_neg hnewline, ih]

theorem literalBody_le (quote : Char) (seen : Nat) (cs : List Char) :
    (literalBody quote seen cs).1 ≤ seen + cs.length := by
  fun_induction literalBody quote seen cs <;> simp_all <;> omega

theorem endsAtLine_quoted {quote : Char} (hquote : quote ≠ '\n') (hescape : quote ≠ '\\')
    (closed : Bool) : EndsAtLine (quoted quote closed) where
  le cs := by
    cases closed with
    | true => exact quoted_le hescape
    | false =>
      cases cs with
      | nil => exact Nat.le_refl 0
      | cons c cs =>
        have := literalBody_le quote 1 cs
        simp only [quoted, List.length_cons]
        split
        · omega
        · exact Nat.zero_le _
  append cs ds := by
    cases cs with
    | nil => simp [quoted, hquote.symm]
    | cons c cs => simp only [List.cons_append, quoted, literalBody_line hquote hescape]

/-! ## Regions that are not closed -/

theorem upTo_of_missing {closer : List Char} {seen size : Nat}
    (h : upTo closer seen cs = (size, false)) : size = seen + cs.length := by
  induction cs generalizing seen with
  | nil => exact (congrArg Prod.fst h).symm
  | cons c cs ih =>
    rw [upTo] at h
    split at h
    · cases h
    · rw [ih h, List.length_cons]
      omega

/-- A region that is not closed takes the whole text. -/
theorem enclosed_false {opener closer : List Char} (h : enclosed opener closer false cs ≠ 0) :
    opener <+: cs ∧ enclosed opener closer false cs = cs.length := by
  by_cases opens : opener <+: cs
  · refine ⟨opens, ?_⟩
    obtain ⟨body, rfl⟩ := opens
    cases hbody : upTo closer opener.length body with
    | mk size found =>
      cases found with
      | true => simp [enclosed, hbody] at h
      | false => simp [enclosed, hbody, upTo_of_missing hbody]
  · exact absurd (enclosed_of_missed opens) h

theorem enclosed_true_of_false {opener closer : List Char}
    (h : enclosed opener closer false cs ≠ 0) : enclosed opener closer true cs = 0 := by
  unfold enclosed at h ⊢
  split at h
  · rename_i opens
    rw [if_pos opens]
    cases hbody : upTo closer opener.length (cs.drop opener.length) with
    | mk size found =>
      cases found with
      | true => simp [hbody] at h
      | false => rfl
  · exact absurd rfl h

theorem enclosed_length_le {opener closer : List Char} (solid : isUnbroken closer) (closed : Bool) :
    enclosed opener closer closed cs ≤ cs.length := by
  cases closed with
  | true => exact enclosed_le solid
  | false =>
    by_cases h : enclosed opener closer false cs = 0
    · rw [h]
      exact Nat.zero_le _
    · exact Nat.le_of_eq (enclosed_false h).2

/-- A region that is closed, if there is one, is not changed by more lines. -/
theorem enclosed_line {opener closer : List Char} (solid : isUnbroken opener)
    (solid' : isUnbroken closer) (hne : opener ≠ []) (closes : enclosed opener closer false cs = 0)
    (closed : Bool) :
    enclosed opener closer closed (cs ++ '\n' :: ds) = enclosed opener closer closed cs := by
  by_cases opens : opener <+: cs
  · cases hbody : upTo closer opener.length (cs.drop opener.length) with
    | mk size found =>
      cases found with
      | true => exact enclosed_append solid' (breaks_newline ds) opens hbody closed
      | false =>
        have seen := List.isPrefixOf_iff_prefix.2 opens
        have positive : 0 < opener.length := List.length_pos_of_ne_nil hne
        have := upTo_of_missing hbody
        simp [enclosed, seen, hbody] at closes
        omega
  · have missed := mt (prefix_append_iff solid (breaks_newline ds)).1 opens
    rw [enclosed_of_missed opens, enclosed_of_missed missed]

end Recognizer

namespace Lexeme

open Recognizer

variable {cs ds : List Char} {kind : Kind} {size : Nat}

/-! ## The first lexeme -/

/-- A rule is for blanks, for comments or text blocks, or a newline stops it. -/
theorem line_cases {rule : Rule} (hrule : rule ∈ rules) :
    rule = ⟨.blank, run isBlank⟩ ∨
      (∃ closed, rule = ⟨.blockComment closed, enclosed ['/', '*'] ['*', '/'] closed⟩) ∨
      (∃ closed, rule = ⟨.textBlock closed, enclosed ['"', '"', '"'] ['"', '"', '"'] closed⟩) ∨
      EndsAtLine rule.size := by
  obtain region | settled := mem_rules_cases hrule
  · obtain rfl | rfl | block | text | ⟨closed, rfl⟩ | ⟨closed, rfl⟩ := mem_regionRules_iff.1 region
    · exact .inl rfl
    · exact .inr (.inr (.inr endsAtLine_lineComment))
    · exact .inr (.inl block)
    · exact .inr (.inr (.inl text))
    · exact .inr (.inr (.inr (endsAtLine_quoted (by decide) (by decide) closed)))
    · exact .inr (.inr (.inr (endsAtLine_quoted (by decide) (by decide) closed)))
  · exact .inr (.inr (.inr settled.endsAtLine))

/-- No lexeme reaches behind the text. -/
theorem size_le {rule : Rule} (hrule : rule ∈ rules) (cs : List Char) :
    rule.size cs ≤ cs.length := by
  obtain rfl | ⟨closed, rfl⟩ | ⟨closed, rfl⟩ | ends := line_cases hrule
  · exact (List.takeWhile_sublist _).length_le
  · exact enclosed_length_le (by decide) closed
  · exact enclosed_length_le (by decide) closed
  · exact ends.le cs

theorem longest_le (cs : List Char) : (longest cs).2 ≤ cs.length := by
  rw [longest_eq]
  refine List.foldlRecOn (b := (Kind.unknown, 0)) (motive := fun best => best.2 ≤ cs.length) rules
    (better cs) (Nat.zero_le _) fun best ih rule hrule => ?_
  unfold better
  split
  · exact size_le hrule cs
  · exact ih

/-- A rule that takes the whole text gives the longest match, unless one before it matches. -/
theorem longest_of_whole (n : Nat) {rule : Rule} (hrule : rules[n]? = some rule)
    (missed : ∀ other ∈ rules.take n, other.size cs = 0) (whole : rule.size cs = cs.length)
    (hne : cs ≠ []) : longest cs = (rule.kind, cs.length) := by
  have split : rules = rules.take n ++ rule :: rules.drop (n + 1) := by
    obtain ⟨hn, rfl⟩ := List.getElem?_eq_some_iff.1 hrule
    rw [← List.drop_eq_getElem_cons hn, List.take_append_drop]
  have positive : 0 < rule.size cs := whole ▸ List.length_pos_of_ne_nil hne
  have none : (rules.take n).foldl (better cs) (.unknown, 0) = (.unknown, 0) :=
    foldl_better_eq fun other hother => Nat.le_of_eq (missed other hother)
  rw [longest_eq, split, List.foldl_append, none, List.foldl_cons, better, if_pos positive, whole]
  exact foldl_better_eq fun other hother => size_le (List.mem_of_mem_drop hother) cs

/-- Where a comment or a text block is left open, it is the first lexeme. -/
theorem enclosed_of_longest (h : longest cs = (kind, size)) (hblock : kind ≠ .blockComment false)
    (htext : kind ≠ .textBlock false) :
    enclosed ['/', '*'] ['*', '/'] false cs = 0 ∧
      enclosed ['"', '"', '"'] ['"', '"', '"'] false cs = 0 := by
  constructor
  · by_contra opened
    obtain ⟨⟨body, rfl⟩, whole⟩ := enclosed_false opened
    have first : longest (['/', '*'] ++ body) = _ := longest_of_whole 3 rfl ?_ whole (by simp)
    · exact hblock (congrArg Prod.fst (h.symm.trans first))
    intro rule hrule
    simp only [rules, List.cons_append, List.take_succ_cons, List.take_zero, List.mem_cons,
      List.not_mem_nil, or_false] at hrule
    obtain rfl | rfl | rfl := hrule
    · rfl
    · rfl
    · exact enclosed_true_of_false opened
  · by_contra opened
    obtain ⟨⟨body, rfl⟩, whole⟩ := enclosed_false opened
    have first : longest (['"', '"', '"'] ++ body) = _ :=
      longest_of_whole 5 rfl ?_ whole (by simp)
    · exact htext (congrArg Prod.fst (h.symm.trans first))
    intro rule hrule
    simp only [rules, List.cons_append, List.take_succ_cons, List.take_zero, List.mem_cons,
      List.not_mem_nil, or_false] at hrule
    obtain rfl | rfl | rfl | rfl | rfl := hrule
    · rfl
    · rfl
    · rfl
    · rfl
    · exact enclosed_true_of_false opened

/-- A text that is not blank starts with the same lexeme, whatever stands on the lines behind it,
unless that is a comment or a text block and left open. -/
theorem longest_line (ds : List Char) (h : longest cs = (kind, size))
    (hblock : kind ≠ .blockComment false) (htext : kind ≠ .textBlock false)
    (visible : ∃ c ∈ cs, isBlank c = false) : longest (cs ++ '\n' :: ds) = (kind, size) := by
  obtain ⟨block, text⟩ := enclosed_of_longest h hblock htext
  rw [← h]
  refine longest_congr fun rule hrule => ?_
  obtain rfl | ⟨closed, rfl⟩ | ⟨closed, rfl⟩ | ends := line_cases hrule
  · exact run_blank_line visible
  · exact enclosed_line (by decide) (by decide) (by simp) block closed
  · exact enclosed_line (by decide) (by decide) (by simp) text closed
  · exact ends.append cs ds

/-! ## All lexemes -/

/-- Whether no comment and no text block is left open. -/
def AllClosed (ls : List Lexeme) : Prop :=
  ∀ l ∈ ls, l.kind ≠ .blockComment false ∧ l.kind ≠ .textBlock false

/-- Leading blanks are scanned apart from the rest. -/
theorem scan_leading (ds : List Char) :
    scan ds = gap (ds.takeWhile isBlank) ++ scan (ds.dropWhile isBlank) := by
  rw [← scan_gap List.all_takeWhile fun c hc => ?_, List.takeWhile_append_dropWhile]
  have := List.head?_dropWhile_not isBlank ds
  rw [Option.mem_def.1 hc] at this
  simpa using this

/-- A newline and the blanks around it are one lexeme. -/
theorem scan_seam {blanks : List Char} (blank : blanks.all isBlank) (ds : List Char) :
    scan (blanks ++ '\n' :: ds) =
      ⟨.blank, blanks ++ '\n' :: ds.takeWhile isBlank⟩ :: scan (ds.dropWhile isBlank) := by
  have all := List.all_eq_true.1 blank
  rw [scan_leading, List.takeWhile_append_of_pos all, List.dropWhile_append_of_pos all]
  simp [gap, isBlank]

/-- The lexemes of a text stay as they are when more lines follow. Blanks at its end and blanks that
follow become one with the newline. -/
theorem scan_line (closed : AllClosed (scan cs)) (ds : List Char) :
    ∃ front blanks, scan cs = front ++ gap blanks ∧
      scan (cs ++ '\n' :: ds) = front ++
        ⟨.blank, blanks ++ '\n' :: ds.takeWhile isBlank⟩ :: scan (ds.dropWhile isBlank) := by
  induction hn : cs.length using Nat.strongRecOn generalizing cs with
  | _ n ih =>
    by_cases visible : ∃ c ∈ cs, isBlank c = false
    · cases cs with
      | nil => simp at visible
      | cons c cs =>
        cases hlongest : longest (c :: cs) with
        | mk kind size =>
          have hscan := scan_cons hlongest
          obtain ⟨⟨hblock, htext⟩, closed⟩ := List.forall_mem_cons.1 (hscan ▸ closed)
          have hlongest' := longest_line ds hlongest hblock htext visible
          rw [List.cons_append] at hlongest'
          have hsize : size - 1 ≤ cs.length := by
            have := longest_le (c :: cs)
            rw [hlongest, List.length_cons] at this
            simp only at this
            omega
          obtain ⟨front, blanks, here, there⟩ := ih (cs.drop (size - 1)).length
            (by rw [← hn, List.length_drop, List.length_cons]; omega) closed rfl
          refine ⟨⟨kind, c :: cs.take (size - 1)⟩ :: front, blanks, ?_, ?_⟩
          · rw [hscan, here, List.cons_append]
          · rw [List.cons_append, scan_cons hlongest', List.take_append_of_le_length hsize,
              List.drop_append_of_le_length hsize, there, List.cons_append]
    · have blank : cs.all isBlank := by simpa using visible
      have whole : scan (cs ++ []) = gap cs ++ scan [] := scan_gap blank (by simp)
      exact ⟨[], cs, by simpa using whole, scan_seam blank ds⟩

/-! ## Unknown characters -/

/-- Unknown characters on both sides of another lexeme do not touch. -/
theorem joinUnknown_append_cons {l : Lexeme} (h : l.kind ≠ .unknown) (ls ms : List Lexeme) :
    joinUnknown (ls ++ l :: ms) = joinUnknown ls ++ l :: joinUnknown ms := by
  induction ls with
  | nil =>
    change consUnknown l (joinUnknown ms) = l :: joinUnknown ms
    cases joinUnknown ms with
    | nil => rfl
    | cons m ms => exact if_neg fun both => h both.1
  | cons k ls ih =>
    change consUnknown k (joinUnknown (ls ++ l :: ms)) =
      consUnknown k (joinUnknown ls) ++ l :: joinUnknown ms
    rw [ih]
    cases joinUnknown ls with
    | nil => exact if_neg fun both => h both.2
    | cons m ls =>
      simp only [List.cons_append, consUnknown]
      split <;> rfl

/-- A run of blanks keeps unknown characters apart. -/
theorem joinUnknown_append_blank (ls ms : List Lexeme) (blanks : List Char) :
    joinUnknown (ls ++ ⟨.blank, blanks⟩ :: ms) =
      joinUnknown ls ++ ⟨.blank, blanks⟩ :: joinUnknown ms :=
  joinUnknown_append_cons (by simp) ls ms

theorem joinUnknown_append_gap (ls : List Lexeme) (blanks : List Char) :
    joinUnknown (ls ++ gap blanks) = joinUnknown ls ++ gap blanks := by
  unfold gap
  split
  · simp
  · exact joinUnknown_append_blank ls [] blanks

theorem joinUnknown_gap_append (blanks : List Char) (ms : List Lexeme) :
    joinUnknown (gap blanks ++ ms) = gap blanks ++ joinUnknown ms := by
  unfold gap
  split
  · simp
  · exact joinUnknown_append_blank [] ms blanks

/-- Joining unknown characters leaves all other lexemes. -/
theorem mem_joinUnknown {l : Lexeme} {ls : List Lexeme} (h : l ∈ ls) (known : l.kind ≠ .unknown) :
    l ∈ joinUnknown ls := by
  obtain ⟨before, after, rfl⟩ := List.append_of_mem h
  rw [joinUnknown_append_cons known]
  simp

/-! ## Lexemes in their places -/

/-- The lexeme in a text that is moved on. -/
def Placed.shift (distance : Nat) (p : Placed) : Placed := ⟨p.lexeme, p.span.shift distance⟩

theorem sideBySide_append (start : Nat) (ls ms : List Lexeme) :
    sideBySide start (ls ++ ms) =
      sideBySide start ls ++ sideBySide (start + String.utf8Len (chars ls)) ms := by
  induction ls generalizing start with
  | nil => rfl
  | cons l ls ih =>
    rw [List.cons_append, sideBySide, sideBySide, ih, byteLength_eq_utf8Len, chars_cons,
      String.utf8Len_append, Nat.add_assoc, List.cons_append]

theorem sideBySide_shift (start distance : Nat) (ls : List Lexeme) :
    sideBySide (start + distance) ls = (sideBySide start ls).map (Placed.shift distance) := by
  induction ls generalizing start with
  | nil => rfl
  | cons l ls ih =>
    rw [sideBySide, sideBySide, Nat.add_right_comm start distance, ih, List.map_cons]
    rfl

theorem exists_mem_place {l : Lexeme} {ls : List Lexeme} (h : l ∈ ls) :
    ∃ p ∈ place ls, p.lexeme = l := by
  obtain ⟨before, after, rfl⟩ := List.append_of_mem h
  rw [place_eq, sideBySide_append]
  exact ⟨_, List.mem_append_right _ List.mem_cons_self, rfl⟩

theorem chars_gap (blanks : List Char) : chars (gap blanks) = blanks := by
  unfold gap
  split <;> simp_all

section Traces

variable {α : Type*} {trace : Placed → Option α} {move : Nat → α → α}

theorem filterMap_gap (silent : ∀ text span, trace ⟨⟨.blank, text⟩, span⟩ = none) (start : Nat)
    (blanks : List Char) : (sideBySide start (gap blanks)).filterMap trace = [] := by
  unfold gap
  split
  · rfl
  · simp [sideBySide, silent]

/-- What lexemes other than blanks leave behind, with more lines behind a text: that of the text,
and that of the other lines, moved on. -/
theorem filterMap_line (silent : ∀ text span, trace ⟨⟨.blank, text⟩, span⟩ = none)
    (moved : ∀ distance p, trace (p.shift distance) = (trace p).map (move distance))
    (closed : AllClosed (scan cs)) (ds : List Char) :
    (place (joinUnknown (scan (cs ++ '\n' :: ds)))).filterMap trace =
      (place (joinUnknown (scan cs))).filterMap trace ++
        ((place (joinUnknown (scan ds))).filterMap trace).map (move (String.utf8Len cs + 1)) := by
  obtain ⟨front, blanks, here, there⟩ := scan_line closed ds
  have text : String.utf8Len cs = String.utf8Len (chars front) + String.utf8Len blanks := by
    rw [← String.utf8Len_append, ← chars_scan cs, here, chars_append, chars_gap]
  have distance : String.utf8Len (chars (joinUnknown front)) + (String.utf8Len blanks +
      (String.utf8Len ['\n'] + String.utf8Len (ds.takeWhile isBlank))) =
        String.utf8Len (ds.takeWhile isBlank) + (String.utf8Len cs + 1) := by
    rw [chars_joinUnknown, text, show String.utf8Len ['\n'] = 1 from rfl]
    omega
  have behind (start : Nat) (ls : List Lexeme) : (sideBySide (start + (String.utf8Len cs + 1))
      ls).filterMap trace =
        ((sideBySide start ls).filterMap trace).map (move (String.utf8Len cs + 1)) := by
    rw [sideBySide_shift, List.filterMap_map, List.map_filterMap]
    exact congrArg₂ _ (funext fun p => moved _ p) rfl
  rw [there, here, scan_leading ds, joinUnknown_append_blank, joinUnknown_append_gap,
    joinUnknown_gap_append]
  simp only [place_eq, sideBySide_append, sideBySide, List.filterMap_append,
    filterMap_gap silent, List.filterMap_cons_none (silent _ _), List.append_nil, List.nil_append,
    chars_gap, Nat.zero_add]
  rw [byteLength_eq_utf8Len, String.utf8Len_append, ← List.singleton_append, String.utf8Len_append,
    distance, behind]

end Traces

end Lexeme

/-! ## Tokens and findings -/

/-- The token in a text that is moved on. -/
def Token.shift (distance : Nat) (token : Token) : Token :=
  { token with span := token.span.shift distance }

/-- The finding in a text that is moved on. -/
def Finding.shift (distance : Nat) (finding : Finding) : Finding :=
  { finding with span := finding.span.shift distance }

section Source

variable {source : String}

/-- What is left open is told of. -/
theorem allClosed_scan (closed : ∀ finding ∈ (tokenize source).findings,
    finding.fault ≠ .openComment ∧ finding.fault ≠ .openTextBlock) :
    Lexeme.AllClosed (Lexeme.scan source.toList) := by
  intro l hl
  have told {fault : Fault} (hfault : l.fault? = some fault) (known : l.kind ≠ .unknown) :
      ∃ finding ∈ (tokenize source).findings, finding.fault = fault := by
    obtain ⟨p, hp, rfl⟩ := Lexeme.exists_mem_place (Lexeme.mem_joinUnknown hl known)
    refine ⟨⟨fault, p.span⟩, List.mem_filterMap.2 ⟨p, hp, ?_⟩, rfl⟩
    rw [Lexeme.Placed.finding?, hfault]
    rfl
  constructor
  · intro opened
    obtain ⟨finding, hfinding, hfault⟩ := told
      (show l.fault? = some .openComment by simp [Lexeme.fault?, opened]) (by simp [opened])
    exact (closed finding hfinding).1 hfault
  · intro opened
    obtain ⟨finding, hfinding, hfault⟩ := told
      (show l.fault? = some .openTextBlock by simp [Lexeme.fault?, opened]) (by simp [opened])
    exact (closed finding hfinding).2 hfault

theorem toList_line (source more : String) :
    (source ++ "\n" ++ more).toList = source.toList ++ '\n' :: more.toList := by simp

theorem tokens_line (closed : Lexeme.AllClosed (Lexeme.scan source.toList)) (more : String) :
    (tokenize (source ++ "\n" ++ more)).tokens = (tokenize source).tokens ++
      (tokenize more).tokens.map (Token.shift (source.utf8ByteSize + 1)) := by
  simp only [tokenize, toList_line, ← Span.utf8Len_toList source]
  refine Lexeme.filterMap_line (fun _ _ => rfl) (fun distance p => ?_) closed _
  simp only [Lexeme.Placed.token?, Option.map_map]
  rfl

theorem findings_line (closed : Lexeme.AllClosed (Lexeme.scan source.toList)) (more : String) :
    (tokenize (source ++ "\n" ++ more)).findings = (tokenize source).findings ++
      (tokenize more).findings.map (Finding.shift (source.utf8ByteSize + 1)) := by
  simp only [tokenize, toList_line, ← Span.utf8Len_toList source]
  refine Lexeme.filterMap_line (fun _ _ => rfl) (fun distance p => ?_) closed _
  simp only [Lexeme.Placed.finding?, Option.map_map]
  rfl

/-- Where neither a comment nor a text block is left open, the lines that follow are scanned by
themselves: their tokens and findings stand behind those of the text, moved on. -/
theorem tokenize_local_to_lines
    (closed : ∀ finding ∈ (tokenize source).findings,
      finding.fault ≠ .openComment ∧ finding.fault ≠ .openTextBlock) (more : String) :
    tokenize (source ++ "\n" ++ more) =
      ⟨(tokenize source).tokens ++
          (tokenize more).tokens.map (Token.shift (source.utf8ByteSize + 1)),
        (tokenize source).findings ++
          (tokenize more).findings.map (Finding.shift (source.utf8ByteSize + 1))⟩ := by
  have closed := allClosed_scan closed
  rw [← tokens_line closed, ← findings_line closed]

/-- Unknown characters on both sides of a newline, the first a backslash that would escape it. -/
theorem tokenize_local_to_lines_of_open_string :
    let source := "#\"a\\"
    (∀ finding ∈ (tokenize source).findings,
      finding.fault ≠ .openComment ∧ finding.fault ≠ .openTextBlock) ∧
    tokenize (source ++ "\n" ++ "#b") =
      ⟨[⟨.literal, "\"a", 1, 3⟩, ⟨.ident, "b", 6, 7⟩],
        [⟨.unknownCharacters "#", 0, 1⟩, ⟨.openString, 1, 3⟩, ⟨.unknownCharacters "\\", 3, 4⟩,
          ⟨.unknownCharacters "#", 5, 6⟩]⟩ := by
  intro source
  have closed : ∀ finding ∈ (tokenize source).findings,
      finding.fault ≠ .openComment ∧ finding.fault ≠ .openTextBlock := by decide +kernel
  refine ⟨closed, ?_⟩
  rw [tokenize_local_to_lines closed]
  exact congrArg₂ Tokenization.mk (by decide +kernel) (by decide +kernel)

end Source

end JavaLens
