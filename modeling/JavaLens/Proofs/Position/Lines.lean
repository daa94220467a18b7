import JavaLens.Position
import JavaLens.Proofs.Span
import Mathlib.Algebra.GroupWithZero.Nat
import Mathlib.Data.List.DropRight
import Mathlib.Order.Bounds.Basic

/-!
# Lines of a text

A text that is cut at a character boundary has a position behind its first part: the newlines there,
and the code units behind the last of them. The line index finds that position for every offset up
to the next boundary, and finds the boundary again from the position.

## Main definitions

* `utf16Length` — the number of code units of a run of characters.
* `Position.behind` — the position behind a run of characters.
* `boundariesUpTo` — the character boundaries of a text up to an offset.
* `CutAt` — a text cut at the last boundary up to an offset.

## Main statements

* `LineIndex.drop_lines` — the lines of an index behind whole lines of the text.
* `LineIndex.bisect_spec` — what a search for a line by its start finds or misses.
* `isGreatest_utf8Len` — where a text is cut at an offset is its last boundary up to there.
* `positionOf_of_cutAt` — the position of an offset is the one behind the characters before it.
* `offsetOf_behind` — the offset of such a position is the length of those characters.
-/

namespace JavaLens

open String (utf8Len)

/-! ## Code units -/

/-- The number of UTF-16 code units of a run of characters. -/
def utf16Length (cs : List Char) : Nat := (cs.map codeUnits).sum

@[simp]
theorem utf16Length_nil : utf16Length [] = 0 := rfl

@[simp]
theorem utf16Length_cons (c : Char) (cs : List Char) :
    utf16Length (c :: cs) = codeUnits c + utf16Length cs := List.sum_cons

@[simp]
theorem utf16Length_append (cs ds : List Char) :
    utf16Length (cs ++ ds) = utf16Length cs + utf16Length ds := by
  simp [utf16Length]

theorem codeUnits_pos (c : Char) : 0 < codeUnits c := by
  unfold codeUnits
  split <;> omega

/-- No character has more code units in UTF-16 than in UTF-8. -/
theorem codeUnits_le_utf8Size (c : Char) : codeUnits c ≤ c.utf8Size := by
  unfold codeUnits Char.utf8Size
  grind

theorem utf16Length_le_utf8Len (cs : List Char) : utf16Length cs ≤ utf8Len cs := by
  induction cs with
  | nil => exact Nat.le_refl 0
  | cons c cs ih =>
    have := codeUnits_le_utf8Size c
    rw [utf16Length_cons, String.utf8Len_cons]
    omega

theorem length_le_utf8Len (cs : List Char) : cs.length ≤ utf8Len cs := by
  induction cs with
  | nil => exact Nat.le_refl 0
  | cons c cs ih =>
    have := c.utf8Size_pos
    rw [List.length_cons, String.utf8Len_cons]
    omega

/-! ## Whole lines -/

/-- Whether a run of characters consists of whole lines, each with its newline. -/
def WholeLines (cs : List Char) : Prop := cs = [] ∨ ∃ before, cs = before ++ ['\n']

/-- The position behind a run of characters. -/
def Position.behind (cs : List Char) : Position :=
  ⟨cs.count '\n', utf16Length (cs.rtakeWhile (· ≠ '\n'))⟩

variable {head line rest before after cs : List Char}

theorem WholeLines.tail {c : Char} (h : WholeLines (c :: cs)) :
    WholeLines cs ∧ (c ≠ '\n' → '\n' ∈ cs) := by
  obtain h | ⟨before, h⟩ := h
  · cases h
  · cases before with
    | nil =>
      obtain ⟨rfl, rfl⟩ := List.cons_eq_cons.1 h
      exact ⟨.inl rfl, fun hc => absurd rfl hc⟩
    | cons b before =>
      obtain ⟨rfl, rfl⟩ := List.cons_eq_cons.1 h
      exact ⟨.inr ⟨before, rfl⟩, fun _ => by simp⟩

/-- Every run of characters is whole lines and the start of one more. -/
theorem exists_wholeLines (cs : List Char) :
    ∃ head line, cs = head ++ line ∧ WholeLines head ∧ '\n' ∉ line := by
  induction cs using List.reverseRecOn with
  | nil => exact ⟨[], [], rfl, .inl rfl, List.not_mem_nil⟩
  | append_singleton cs c ih =>
    obtain ⟨head, line, rfl, whole, no_newline⟩ := ih
    by_cases hc : c = '\n'
    · subst hc
      exact ⟨head ++ line ++ ['\n'], [], by simp, .inr ⟨_, rfl⟩, List.not_mem_nil⟩
    · refine ⟨head, line ++ [c], by simp, whole, ?_⟩
      simpa [no_newline] using Ne.symm hc

theorem Position.behind_append (whole : WholeLines head) (no_newline : '\n' ∉ line) :
    behind (head ++ line) = ⟨head.count '\n', utf16Length line⟩ := by
  have all : ∀ c ∈ line.reverse, decide (c ≠ '\n') = true := by
    intro c hc
    simpa using fun h : c = '\n' => no_newline (h ▸ List.mem_reverse.1 hc)
  have last : (head ++ line).rtakeWhile (· ≠ '\n') = line := by
    rw [List.rtakeWhile, List.reverse_append, List.takeWhile_append_of_pos all]
    obtain rfl | ⟨before, rfl⟩ := whole <;> simp
  rw [behind, last, List.count_append, List.count_eq_zero_of_not_mem no_newline, Nat.add_zero]

/-! ## The index -/

namespace LineIndex

/-- The lines of a text but the first one, for a text that starts at the byte `start`. -/
def following (start : Nat) : List Char → List Line
  | [] => []
  | c :: cs =>
    let next := start + c.utf8Size
    if c = '\n' then ⟨next, cs⟩ :: following next cs else following next cs

variable {start offset : Nat}

theorem build_eq (done : Array Line) (start : Nat) (cs : List Char) :
    build done start cs = done ++ following start cs := by
  induction cs generalizing done start with
  | nil => simp [build, following]
  | cons c cs ih =>
    rw [build, following, ih]
    split <;> simp

@[simp]
theorem text_ofText (text : String) : (ofText text).text = text := rfl

theorem lines_ofText (text : String) :
    (ofText text).lines.toList = ⟨0, text.toList⟩ :: following 0 text.toList := by
  simp [ofText, build_eq]

theorem length_following (start : Nat) (cs : List Char) :
    (following start cs).length = cs.count '\n' := by
  induction cs generalizing start with
  | nil => rfl
  | cons c cs ih =>
    rw [following, List.count_cons]
    split <;> simp_all

/-- A line starts behind the first character, at least. -/
theorem start_le_following {c : Char} {l : Line} (h : l ∈ following start (c :: cs)) :
    start + c.utf8Size ≤ l.start := by
  induction cs generalizing start c with
  | nil =>
    rw [following] at h
    split at h
    · obtain rfl := List.mem_singleton.1 h
      exact Nat.le_refl _
    · cases h
  | cons d cs ih =>
    have later (h : l ∈ following (start + c.utf8Size) (d :: cs)) :
        start + c.utf8Size ≤ l.start := Nat.le_trans (Nat.le_add_right ..) (ih h)
    rw [following] at h
    split at h
    · obtain rfl | h := List.mem_cons.1 h
      · exact Nat.le_refl _
      · exact later h
    · exact later h

theorem start_lt_of_mem_following {l : Line} (h : l ∈ following start cs) : start < l.start := by
  cases cs with
  | nil => cases h
  | cons c cs =>
    have := start_le_following h
    have := c.utf8Size_pos
    omega

theorem following_ordered (start : Nat) (cs : List Char) :
    (following start cs).Pairwise (·.start < ·.start) := by
  induction cs generalizing start with
  | nil => exact .nil
  | cons c cs ih =>
    rw [following]
    split
    · exact .cons (fun _ => start_lt_of_mem_following) (ih _)
    · exact ih _

theorem following_append (no_newline : '\n' ∉ line) :
    following start (line ++ rest) = following (start + utf8Len line) rest := by
  induction line generalizing start with
  | nil => rfl
  | cons c line ih =>
    obtain ⟨hc, hline⟩ := List.ne_and_not_mem_of_not_mem_cons no_newline
    rw [List.cons_append, following, if_neg (Ne.symm hc), ih hline, String.utf8Len_cons]
    congr 1
    omega

/-- Behind whole lines of a text the index goes on with the lines of what is left. -/
theorem drop_lines (whole : WholeLines head) :
    (⟨start, head ++ rest⟩ :: following start (head ++ rest)).drop (head.count '\n') =
      ⟨start + utf8Len head, rest⟩ :: following (start + utf8Len head) rest := by
  induction head generalizing start with
  | nil => rfl
  | cons c head ih =>
    obtain ⟨whole, newline⟩ := whole.tail
    have step := @ih (start + c.utf8Size) whole
    have hsize : start + utf8Len (c :: head) = start + c.utf8Size + utf8Len head := by
      rw [String.utf8Len_cons]
      omega
    rw [hsize, ← step, List.cons_append, following]
    by_cases hc : c = '\n'
    · subst hc
      rw [if_pos rfl, List.count_cons_self, List.drop_succ_cons]
    · -- The line goes on, so its end is among the characters behind this one.
      obtain ⟨n, hn⟩ := Nat.exists_eq_add_one.2 (List.count_pos_iff.2 (newline hc))
      rw [if_neg hc, List.count_cons_of_ne hc, hn, List.drop_succ_cons, List.drop_succ_cons]

/-- A line that is found starts where was asked. Where none is found, the line before the place for
it starts earlier and the line at that place starts later. -/
theorem bisect_spec (lines : Array Line) (offset : Nat) {low high : Nat}
    (bounded : high ≤ lines.size) (hle : low ≤ high)
    (below : ∀ k, low = k + 1 → ∀ l ∈ lines[k]?, l.start < offset)
    (above : ∀ l ∈ lines[high]?, offset < l.start) :
    (∃ number < high, bisect lines offset low high bounded = .ok number ∧
      ∀ l ∈ lines[number]?, l.start = offset) ∨
    (∃ next ≤ high, bisect lines offset low high bounded = .error next ∧
      (∀ k, next = k + 1 → ∀ l ∈ lines[k]?, l.start < offset) ∧
      ∀ l ∈ lines[next]?, offset < l.start) := by
  fun_induction bisect lines offset low high bounded with
  | case1 low high bounded between middle inside found =>
    refine .inl ⟨middle, by omega, rfl, fun l hl => ?_⟩
    rw [Array.getElem?_eq_getElem inside] at hl
    exact Option.some.inj hl ▸ found
  | case2 low high bounded between middle inside _ early ih =>
    refine ih (by omega) (fun k hk l hl => ?_) above
    obtain rfl := Nat.succ.inj hk
    rw [Array.getElem?_eq_getElem inside] at hl
    exact Option.some.inj hl ▸ early
  | case3 low high bounded between middle inside other late ih =>
    have above : ∀ l ∈ lines[middle]?, offset < l.start := fun l hl => by
      rw [Array.getElem?_eq_getElem inside] at hl
      obtain rfl := Option.some.inj hl
      omega
    obtain ⟨number, lt, spec⟩ | ⟨next, le, spec⟩ := ih (by omega) below above
    · exact .inl ⟨number, by omega, spec⟩
    · exact .inr ⟨next, by omega, spec⟩
  | case4 low high bounded closed =>
    obtain rfl : high = low := by omega
    exact .inr ⟨high, Nat.le_refl _, rfl, below, above⟩

/-- The line that a search comes to: the one found, or else the one before the place for it. -/
theorem lineNumber_of_search {index : LineIndex} {number : Nat}
    (h : index.search offset = .ok number ∨ index.search offset = .error (number + 1)) :
    index.lineNumber offset = number := by
  rcases h with h | h <;> simp [lineNumber, h]

theorem unitsBefore_eq {seen : Nat} (le : start + utf8Len line ≤ offset)
    (lt : ∀ c ∈ rest.head?, offset < start + utf8Len line + c.utf8Size) :
    unitsBefore offset start seen (line ++ rest) = seen + utf16Length line := by
  induction line generalizing start seen with
  | nil =>
    cases rest with
    | nil => rfl
    | cons c rest =>
      have := lt c rfl
      exact if_neg (by simpa using this)
  | cons c line ih =>
    rw [String.utf8Len_cons] at le lt
    have step := @ih (start + c.utf8Size) (seen + codeUnits c) (by omega)
      fun d hd => by have := lt d hd; omega
    rw [List.cons_append, unitsBefore, if_pos (by omega), step, utf16Length_cons, Nat.add_assoc]

theorem walk_eq (line rest : List Char) (start : Nat) :
    walk (utf16Length line) start (line ++ rest) = start + utf8Len line := by
  induction line generalizing start with
  | nil =>
    cases rest with
    | nil => rfl
    | cons c rest => rfl
  | cons c line ih =>
    have := codeUnits_pos c
    rw [List.cons_append, walk, if_neg (by rw [utf16Length_cons]; omega), utf16Length_cons,
      Nat.add_sub_cancel_left, ih, String.utf8Len_cons]
    omega

end LineIndex

section Text

variable {text : String}

theorem getElem?_lines (whole : WholeLines head) (h : text.toList = head ++ rest) (i : Nat) :
    (LineIndex.ofText text).lines[head.count '\n' + i]? =
      (⟨utf8Len head, rest⟩ :: LineIndex.following (utf8Len head) rest)[i]? := by
  rw [← Array.getElem?_toList, LineIndex.lines_ofText, ← List.getElem?_drop, h,
    LineIndex.drop_lines whole, Nat.zero_add]

theorem size_lines (text : String) :
    (LineIndex.ofText text).lines.size = text.toList.count '\n' + 1 := by
  rw [← Array.length_toList, LineIndex.lines_ofText, List.length_cons, LineIndex.length_following]

/-- There is one line more than there are newlines. -/
theorem exists_line {n : Nat} (h : n ≤ text.toList.count '\n') :
    ∃ l, l ∈ (LineIndex.ofText text).lines[n]? :=
  ⟨_, Array.getElem?_eq_getElem (by rw [size_lines]; omega)⟩

/-- The lines of an index are in the order of the text. -/
theorem start_lt_start {i j : Nat} {a b : Line} (hij : i < j)
    (ha : a ∈ (LineIndex.ofText text).lines[i]?) (hb : b ∈ (LineIndex.ofText text).lines[j]?) :
    a.start < b.start := by
  have ordered : (LineIndex.ofText text).lines.toList.Pairwise (·.start < ·.start) := by
    rw [LineIndex.lines_ofText]
    exact .cons (fun _ => LineIndex.start_lt_of_mem_following) (LineIndex.following_ordered ..)
  rw [← Array.getElem?_toList] at ha hb
  obtain ⟨hi, rfl⟩ := List.getElem?_eq_some_iff.1 ha
  obtain ⟨hj, rfl⟩ := List.getElem?_eq_some_iff.1 hb
  exact List.pairwise_iff_getElem.1 ordered i j hi hj hij

theorem start_le_start {i j : Nat} {a b : Line} (hij : i ≤ j)
    (ha : a ∈ (LineIndex.ofText text).lines[i]?) (hb : b ∈ (LineIndex.ofText text).lines[j]?) :
    a.start ≤ b.start := by
  rcases Nat.lt_or_eq_of_le hij with lt | rfl
  · exact Nat.le_of_lt (start_lt_start lt ha hb)
  · exact Nat.le_of_eq (congrArg Line.start (Option.some.inj (ha.symm.trans hb)))

/-- The first line starts with the text. -/
theorem getElem?_lines_zero (text : String) :
    (LineIndex.ofText text).lines[0]? = some ⟨0, text.toList⟩ := by
  rw [← Array.getElem?_toList, LineIndex.lines_ofText, List.getElem?_cons_zero]

/-! ## Boundaries -/

/-- The character boundaries of a text are the lengths of its prefixes. -/
theorem isValid_iff_utf8Len {b : Nat} :
    (⟨b⟩ : String.Pos.Raw).IsValid text ↔
      ∃ before, before <+: text.toList ∧ utf8Len before = b := by
  rw [String.Pos.Raw.isValid_iff_exists_append]
  constructor
  · rintro ⟨first, second, rfl, h⟩
    refine ⟨first.toList, ⟨second.toList, by simp⟩, ?_⟩
    rw [Span.utf8Len_toList]
    exact (congrArg String.Pos.Raw.byteIdx h).symm
  · rintro ⟨before, ⟨after, h⟩, rfl⟩
    refine ⟨.ofList before, .ofList after, ?_, ?_⟩
    · rw [← String.ofList_append, h, String.ofList_toList]
    · rw [← String.toList_ofList (l := before), Span.utf8Len_toList, String.ofList_toList]
      rfl

/-- The character boundaries of a text up to an offset. -/
def boundariesUpTo (text : String) (offset : Nat) : Set Nat :=
  {b | b ≤ min offset text.utf8ByteSize ∧ (⟨b⟩ : String.Pos.Raw).IsValid text}

theorem isGreatest_floorBoundary (text : String) (offset : Nat) :
    IsGreatest {b | b ≤ offset ∧ (⟨b⟩ : String.Pos.Raw).IsValid text}
      (floorBoundary text offset) := by
  induction offset with
  | zero => exact ⟨⟨Nat.le_refl 0, String.Pos.Raw.isValid_zero⟩, fun b hb => hb.1⟩
  | succ offset ih =>
    rw [floorBoundary]
    split
    · rename_i boundary
      exact ⟨⟨Nat.le_refl _, boundary⟩, fun b hb => hb.1⟩
    · rename_i inside
      obtain ⟨⟨le, boundary⟩, upper⟩ := ih
      refine ⟨⟨Nat.le_succ_of_le le, boundary⟩, fun b hb => upper ⟨?_, hb.2⟩⟩
      have : b ≠ offset + 1 := fun same => inside (same ▸ hb.2)
      have := hb.1
      omega

/-- What an offset is rounded down to is the last boundary up to it. -/
theorem isGreatest_boundaryUpTo (text : String) (offset : Nat) :
    IsGreatest (boundariesUpTo text offset) (boundaryUpTo text offset) :=
  isGreatest_floorBoundary ..

/-! ## Positions and offsets -/

/-- A text cut at the last character boundary up to an offset. -/
structure CutAt (text : String) (offset : Nat) (before after : List Char) : Prop where
  split : text.toList = before ++ after
  le : utf8Len before ≤ offset
  lt : ∀ c ∈ after.head?, offset < utf8Len before + c.utf8Size

theorem exists_cutAt (text : String) (offset : Nat) :
    ∃ before after, CutAt text offset before after := by
  suffices ∀ cs : List Char, ∀ offset, ∃ before after, cs = before ++ after ∧
      utf8Len before ≤ offset ∧ ∀ c ∈ after.head?, offset < utf8Len before + c.utf8Size by
    obtain ⟨before, after, split, le, lt⟩ := this text.toList offset
    exact ⟨before, after, split, le, lt⟩
  intro cs
  induction cs with
  | nil => exact fun offset => ⟨[], [], rfl, Nat.zero_le _, nofun⟩
  | cons c cs ih =>
    intro offset
    by_cases hc : c.utf8Size ≤ offset
    · obtain ⟨before, after, rfl, le, lt⟩ := ih (offset - c.utf8Size)
      refine ⟨c :: before, after, rfl, ?_, fun d hd => ?_⟩
      · rw [String.utf8Len_cons]
        omega
      · have := lt d hd
        rw [String.utf8Len_cons]
        omega
    · refine ⟨[], c :: cs, rfl, Nat.zero_le _, fun d hd => ?_⟩
      obtain rfl : c = d := by simpa using hd
      simpa using hc

/-- A text is cut between two of its parts. -/
theorem cutAt_utf8Len (split : text.toList = before ++ after) :
    CutAt text (utf8Len before) before after := by
  refine ⟨split, Nat.le_refl _, fun c _ => ?_⟩
  have := c.utf8Size_pos
  omega

/-- Where a text is cut at an offset is its last boundary up to there. -/
theorem isGreatest_utf8Len {offset : Nat} (cut : CutAt text offset before after) :
    IsGreatest (boundariesUpTo text offset) (utf8Len before) := by
  have leads : before <+: text.toList := ⟨after, cut.split.symm⟩
  have hsize : utf8Len before ≤ text.utf8ByteSize :=
    Span.utf8Len_toList text ▸ String.utf8Len_le_of_prefix leads
  refine ⟨⟨Nat.le_min.2 ⟨cut.le, hsize⟩, isValid_iff_utf8Len.2 ⟨before, leads, rfl⟩⟩, ?_⟩
  rintro b ⟨hb, boundary⟩
  obtain ⟨other, hother, rfl⟩ := isValid_iff_utf8Len.1 boundary
  obtain shorter | longer := List.prefix_or_prefix_of_prefix hother leads
  · exact String.utf8Len_le_of_prefix shorter
  · -- A longer piece has the character that the offset cuts off, and so ends behind the offset.
    obtain ⟨more, rfl⟩ := longer
    cases more with
    | nil => simp
    | cons c more =>
      obtain ⟨rest, h⟩ := hother
      have hafter : after = c :: (more ++ rest) := by
        rw [cut.split, List.append_assoc, List.append_cancel_left_eq] at h
        exact h.symm
      have := cut.lt c (by rw [hafter]; rfl)
      rw [String.utf8Len_append, String.utf8Len_cons] at hb ⊢
      omega

theorem boundaryUpTo_eq {offset : Nat} (cut : CutAt text offset before after) :
    boundaryUpTo text offset = utf8Len before :=
  (isGreatest_boundaryUpTo text offset).unique (isGreatest_utf8Len cut)

/-- The next line starts behind the offset that the text is cut at. -/
theorem CutAt.lt_next (whole : WholeLines head) (no_newline : '\n' ∉ line) {offset : Nat}
    (cut : CutAt text offset (head ++ line) after) {l : Line}
    (hl : l ∈ (LineIndex.ofText text).lines[head.count '\n' + 1]?) : offset < l.start := by
  rw [getElem?_lines whole (cut.split.trans (List.append_assoc ..)), List.getElem?_cons_succ,
    LineIndex.following_append no_newline, ← String.utf8Len_append] at hl
  have hmem := List.mem_of_getElem? hl
  cases after with
  | nil => cases hmem
  | cons c after => exact Nat.lt_of_lt_of_le (cut.lt c rfl) (LineIndex.start_le_following hmem)

/-- The search for the line of an offset comes to the last line that starts at or before it: either
that one starts there, or a line that does would have to stand right behind it. -/
theorem exists_search (text : String) (offset : Nat) :
    ∃ number < (LineIndex.ofText text).lines.size,
      ((LineIndex.ofText text).search offset = .ok number ∨
        (LineIndex.ofText text).search offset = .error (number + 1)) ∧
      (∀ l ∈ (LineIndex.ofText text).lines[number]?, l.start ≤ boundaryUpTo text offset) ∧
      ∀ l ∈ (LineIndex.ofText text).lines[number + 1]?, boundaryUpTo text offset < l.start := by
  obtain ⟨number, inside, found, same⟩ | ⟨next, inside, missed, below, above⟩ :=
    LineIndex.bisect_spec (LineIndex.ofText text).lines (boundaryUpTo text offset)
      (Nat.le_refl _) (Nat.zero_le _) (by simp) (by simp)
  · have own := Array.getElem?_eq_getElem inside
    refine ⟨number, inside, .inl found, fun l hl => Nat.le_of_eq (same l hl), fun l hl => ?_⟩
    have := same _ own
    have := start_lt_start (Nat.lt_succ_self number) own hl
    omega
  · -- The first line starts with the text, so the place is not in front of it.
    cases next with
    | zero => simpa using above _ (getElem?_lines_zero text)
    | succ number =>
      exact ⟨number, inside, .inr missed, fun l hl => Nat.le_of_lt (below number rfl l hl), above⟩

/-- The line that is found for an offset is the one that the characters before it end in. -/
theorem lineNumber_eq (whole : WholeLines head) (no_newline : '\n' ∉ line) {offset : Nat}
    (cut : CutAt text offset (head ++ line) after) :
    (LineIndex.ofText text).lineNumber offset = head.count '\n' := by
  obtain ⟨number, found, comes, below, above⟩ := exists_search text offset
  rw [LineIndex.lineNumber_of_search comes]
  rw [boundaryUpTo_eq cut] at below above
  have split : text.toList = head ++ (line ++ after) := by rw [cut.split, List.append_assoc]
  have own := getElem?_lines whole split 0
  have hcount : head.count '\n' ≤ text.toList.count '\n' := by simp [split]
  have hsize := size_lines text
  have hle : utf8Len head ≤ utf8Len (head ++ line) := by
    rw [String.utf8Len_append]
    omega
  -- A line before the right one is not the last up to the offset, and one behind it is too late.
  rcases Nat.lt_trichotomy number (head.count '\n') with before | same | behind
  · obtain ⟨next, hnext⟩ := exists_line (Nat.le_trans (Nat.succ_le_of_lt before) hcount)
    have := above next hnext
    have : next.start ≤ utf8Len head := start_le_start before hnext own
    omega
  · exact same
  · obtain ⟨l, hl⟩ := exists_line (show number ≤ text.toList.count '\n' by omega)
    obtain ⟨next, hnext⟩ := exists_line (show head.count '\n' + 1 ≤ text.toList.count '\n' by omega)
    have := below l hl
    have := (cutAt_utf8Len cut.split).lt_next whole no_newline hnext
    have : next.start ≤ l.start := start_le_start behind hnext hl
    omega

/-- The position of an offset is the one behind the characters before it. -/
theorem positionOf_of_cutAt {offset : Nat} (cut : CutAt text offset before after) :
    positionOf text offset = .behind before := by
  obtain ⟨head, line, rfl, whole, no_newline⟩ := exists_wholeLines before
  have split : text.toList = head ++ (line ++ after) := by rw [cut.split, List.append_assoc]
  have found := getElem?_lines whole split 0
  have hlen := String.utf8Len_append head line
  have bounded := cutAt_utf8Len cut.split
  have units : LineIndex.unitsBefore (boundaryUpTo text offset) (utf8Len head) 0 (line ++ after) =
      utf16Length line := by
    rw [boundaryUpTo_eq cut, LineIndex.unitsBefore_eq (hlen ▸ bounded.le) (hlen ▸ bounded.lt),
      Nat.zero_add]
  rw [positionOf, LineIndex.position, lineNumber_eq whole no_newline cut]
  simp only [Nat.add_zero, List.getElem?_cons_zero] at found
  simp only [found, LineIndex.text_ofText, units, Position.behind_append whole no_newline]

/-- The offset of the position behind some characters of a text is their length. -/
theorem offsetOf_behind (h : before <+: text.toList) :
    offsetOf text (.behind before) = utf8Len before := by
  obtain ⟨after, h⟩ := h
  obtain ⟨head, line, rfl, whole, no_newline⟩ := exists_wholeLines before
  have found := getElem?_lines whole (h.symm.trans (List.append_assoc ..)) 0
  simp only [Nat.add_zero, List.getElem?_cons_zero] at found
  rw [Position.behind_append whole no_newline, offsetOf, LineIndex.offset]
  simp only [found, LineIndex.walk_eq, String.utf8Len_append]

end Text

end JavaLens
