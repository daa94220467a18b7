import JavaLens.Proofs.Position.Order

/-!
# Offsets by walking

The offset of a position is found by a walk that starts where the line of the position starts and
passes characters until it has counted enough code units. It counts the units of a character at
once, so it may count one too many, and it takes no notice of newlines. Whatever the text, it ends
at the first boundary that is far enough from the start of the line, and at the end of the text if
none is.

## Main definitions

* `lineStart` — the byte offset where a line starts.
* `unitsBetween` — the number of code units between two boundaries of a text.
* `boundariesReaching` — the boundaries that are far enough from the start of a line.
* `Passes` — the characters that a walk passes.

## Main statements

* `LineIndex.exists_passes` — a walk passes as many characters as it needs, and no more.
* `isLeast_of_passes` — behind these is the first boundary that is far enough.
* `offsets_by_walking` — the offset of a position, and what follows from how it is found.
-/

namespace JavaLens

open String (utf8Len)

variable {text : String} {head rest before passed left cs : List Char} {p : Position}
  {number units start offset : Nat}

/-! ## Starts of lines -/

/-- The number of bytes in front of a line: those up to the newline that ends the line before it,
none for the first line, and all of them where there are too few newlines. -/
def bytesBeforeLine : Nat → List Char → Nat
  | 0, _ => 0
  | _ + 1, [] => 0
  | number + 1, c :: cs =>
    c.utf8Size + bytesBeforeLine (if c = '\n' then number else number + 1) cs

/-- The byte offset where a line of a text starts, or the end of the text if there is no such
line. -/
def lineStart (text : String) (number : Nat) : Nat := bytesBeforeLine number text.toList

theorem bytesBeforeLine_append (whole : WholeLines head) :
    bytesBeforeLine (head.count '\n') (head ++ rest) = utf8Len head := by
  induction head with
  | nil => simp [bytesBeforeLine]
  | cons c head ih =>
    obtain ⟨wholeTail, newline⟩ := whole.tail
    have later := ih wholeTail
    rw [String.utf8Len_cons, Nat.add_comm, ← later, List.cons_append]
    by_cases hc : c = '\n'
    · rw [hc, List.count_cons_self, bytesBeforeLine, if_pos rfl]
    · -- The newline that ends this line comes later.
      obtain ⟨n, hn⟩ := Nat.exists_eq_add_one.2 (List.count_pos_iff.2 (newline hc))
      rw [List.count_cons_of_ne hc, hn, bytesBeforeLine, if_neg hc]

theorem bytesBeforeLine_of_count_lt (h : cs.count '\n' < number) :
    bytesBeforeLine number cs = utf8Len cs := by
  induction cs generalizing number with
  | nil => cases number <;> simp [bytesBeforeLine]
  | cons c cs ih =>
    obtain ⟨n, rfl⟩ := Nat.exists_eq_add_one.2 (Nat.zero_lt_of_lt h)
    have fewer : cs.count '\n' < if c = '\n' then n else n + 1 := by grind
    rw [bytesBeforeLine, ih fewer, String.utf8Len_cons]
    omega

/-- A text is cut where a line starts, and the offsets of positions on that line are found by
walking on from there. -/
theorem exists_walk (text : String) (line : Nat) :
    ∃ head rest, text.toList = head ++ rest ∧ lineStart text line = utf8Len head ∧
      ∀ character, offsetOf text ⟨line, character⟩ =
        LineIndex.walk character (utf8Len head) rest := by
  by_cases h : line ≤ text.toList.count '\n'
  · obtain ⟨head, rest, split, whole, rfl⟩ := exists_wholeLines_of_le h
    have found := getElem?_lines whole split 0
    simp only [Nat.add_zero, List.getElem?_cons_zero] at found
    refine ⟨head, rest, split, ?_, fun character => ?_⟩
    · rw [lineStart, split, bytesBeforeLine_append whole]
    · simp only [offsetOf, LineIndex.offset, found]
  · have missing : (LineIndex.ofText text).lines[line]? = none := by
      rw [Array.getElem?_eq_none_iff, size_lines]
      omega
    refine ⟨text.toList, [], by simp, bytesBeforeLine_of_count_lt (by omega), fun character => ?_⟩
    simp only [offsetOf, LineIndex.offset, missing, LineIndex.text_ofText, LineIndex.walk,
      Span.utf8Len_toList]

theorem lineStart_le (text : String) (line : Nat) : lineStart text line ≤ text.utf8ByteSize := by
  obtain ⟨head, rest, split, starts, -⟩ := exists_walk text line
  rw [starts, ← Span.utf8Len_toList, split, String.utf8Len_append]
  omega

/-! ## The characters that a walk passes -/

/-- Whether a walk of so many code units passes just `passed` and leaves `left`: it has not gone far
enough before, and goes no further unless everything is passed. -/
structure Passes (units : Nat) (passed left : List Char) : Prop where
  short : ∀ before, before <+: passed → before ≠ passed → utf16Length before < units
  enough : units ≤ utf16Length passed ∨ left = []

theorem Passes.nil (h : units = 0 ∨ left = []) : Passes units [] left where
  short _ leads proper := absurd (List.prefix_nil.1 leads) proper
  enough := h.imp_left Nat.le_of_eq

theorem Passes.cons {c : Char} (pos : 0 < units) (h : Passes (units - codeUnits c) passed left) :
    Passes units (c :: passed) left where
  short before leads proper := by
    rcases List.prefix_cons_iff.1 leads with rfl | ⟨later, rfl, leadsLater⟩
    · exact pos
    · have := h.short later leadsLater fun same => proper (same ▸ rfl)
      rw [utf16Length_cons]
      omega
  enough := by
    refine h.enough.imp_left fun enough => ?_
    rw [utf16Length_cons]
    omega

/-- A walk passes as many characters as it needs, and no more. -/
theorem LineIndex.exists_passes (units : Nat) (cs : List Char) :
    ∃ passed left, cs = passed ++ left ∧ Passes units passed left ∧
      ∀ start, walk units start cs = start + utf8Len passed := by
  induction cs generalizing units with
  | nil => exact ⟨[], [], rfl, .nil (.inr rfl), fun start => rfl⟩
  | cons c cs ih =>
    by_cases done : units = 0
    · exact ⟨[], c :: cs, rfl, .nil (.inl done), fun start => by simp [walk, done]⟩
    · -- What is left to count may be less than nothing, and then counts as nothing.
      obtain ⟨passed, left, rfl, passes, walked⟩ := ih (units - codeUnits c)
      refine ⟨c :: passed, left, rfl, passes.cons (by omega), fun start => ?_⟩
      rw [walk, if_neg done, walked, String.utf8Len_cons]
      omega

/-! ## Far enough from the start of a line -/

/-- The number of code units of a text between two of its boundaries. -/
def unitsBetween (text : String) (start stop : Nat) : Nat :=
  utf16Length (Span.slice ⟨start, stop⟩ text).toList

/-- The boundaries of a text from `start` on that are at least so many code units away from it. -/
def boundariesReaching (text : String) (start units : Nat) : Set Nat :=
  {b | start ≤ b ∧ (⟨b⟩ : String.Pos.Raw).IsValid text ∧ units ≤ unitsBetween text start b}

theorem boundariesReaching_anti {fewer more : Nat} (h : fewer ≤ more) :
    boundariesReaching text start more ⊆ boundariesReaching text start fewer :=
  fun _ ⟨le, boundary, reaches⟩ => ⟨le, boundary, Nat.le_trans h reaches⟩

theorem unitsBetween_eq (h : head ++ before <+: text.toList) :
    unitsBetween text (utf8Len head) (utf8Len (head ++ before)) = utf16Length before := by
  obtain ⟨after, h⟩ := h
  have marks : Span.Marks ⟨utf8Len head, utf8Len (head ++ before)⟩ text (.ofList before) := by
    refine ⟨.ofList head, .ofList after, ?_, ?_, ?_⟩
    · rw [← String.ofList_append, ← String.ofList_append, h, String.ofList_toList]
    · rw [String.utf8ByteSize_ofList]
    · rw [← String.ofList_append, String.utf8ByteSize_ofList]
  rw [unitsBetween, marks.slice_eq, String.toList_ofList]

/-- The boundaries that are far enough, by the characters up to them. -/
theorem mem_boundariesReaching_iff (split : text.toList = head ++ rest) :
    offset ∈ boundariesReaching text (utf8Len head) units ↔
      ∃ before, before <+: rest ∧ utf8Len (head ++ before) = offset ∧
        units ≤ utf16Length before := by
  have leads : head <+: text.toList := ⟨rest, split.symm⟩
  constructor
  · rintro ⟨le, boundary, reaches⟩
    obtain ⟨other, hother, rfl⟩ := isValid_iff_utf8Len.1 boundary
    obtain ⟨before, rfl⟩ := prefix_of_utf8Len_le leads hother le
    rw [unitsBetween_eq hother] at reaches
    exact ⟨before, (List.prefix_append_right_inj head).1 (split ▸ hother), rfl, reaches⟩
  · rintro ⟨before, hbefore, rfl, reaches⟩
    have both : head ++ before <+: text.toList := by
      rw [split]
      exact (List.prefix_append_right_inj head).2 hbefore
    refine ⟨?_, isValid_iff_utf8Len.2 ⟨_, both, rfl⟩, by rwa [unitsBetween_eq both]⟩
    rw [String.utf8Len_append]
    omega

/-- Behind the characters that a walk passes is the first boundary that is far enough. -/
theorem isLeast_of_passes (split : text.toList = head ++ (passed ++ left))
    (passes : Passes units passed left) (enough : units ≤ utf16Length passed) :
    IsLeast (boundariesReaching text (utf8Len head) units) (utf8Len (head ++ passed)) := by
  refine ⟨(mem_boundariesReaching_iff split).2 ⟨passed, List.prefix_append .., rfl, enough⟩, ?_⟩
  intro b hb
  obtain ⟨before, leads, rfl, reaches⟩ := (mem_boundariesReaching_iff split).1 hb
  have longer : passed <+: before := by
    rcases List.prefix_or_prefix_of_prefix leads (List.prefix_append passed left) with h | h
    · by_cases same : before = passed
      · exact same ▸ List.prefix_rfl
      · have := passes.short before h same
        omega
    · exact h
  exact String.utf8Len_le_of_prefix ((List.prefix_append_right_inj head).2 longer)

/-- Where a walk ends too early, no boundary is far enough. -/
theorem boundariesReaching_eq_empty (split : text.toList = head ++ rest)
    (short : utf16Length rest < units) : boundariesReaching text (utf8Len head) units = ∅ := by
  rw [Set.eq_empty_iff_forall_notMem]
  intro b hb
  obtain ⟨before, leads, -, reaches⟩ := (mem_boundariesReaching_iff split).1 hb
  have := utf16Length_le_of_prefix leads
  omega

/-- The offset of a position is the first boundary that is far enough from the start of its line, or
the end of the text if there is none. -/
theorem isLeast_offsetOf (text : String) (p : Position) :
    IsLeast (boundariesReaching text (lineStart text p.line) p.character) (offsetOf text p) ∨
      boundariesReaching text (lineStart text p.line) p.character = ∅ ∧
        offsetOf text p = text.utf8ByteSize := by
  obtain ⟨head, rest, split, starts, walks⟩ := exists_walk text p.line
  obtain ⟨passed, left, rfl, passes, walked⟩ := LineIndex.exists_passes p.character rest
  have found : offsetOf text p = utf8Len (head ++ passed) := by
    rw [String.utf8Len_append, ← walked]
    exact walks p.character
  rw [starts, found]
  by_cases enough : p.character ≤ utf16Length passed
  · exact .inl (isLeast_of_passes split passes enough)
  · obtain rfl : left = [] := passes.enough.resolve_left enough
    rw [List.append_nil] at split
    refine .inr ⟨boundariesReaching_eq_empty split (by omega), ?_⟩
    rw [← split, Span.utf8Len_toList]

/-! ## Consequences -/

/-- Where some boundary is far enough, the walk ends at the first one. -/
theorem isLeast_offsetOf_of_mem
    (h : offset ∈ boundariesReaching text (lineStart text p.line) p.character) :
    IsLeast (boundariesReaching text (lineStart text p.line) p.character) (offsetOf text p) := by
  rcases isLeast_offsetOf text p with least | ⟨none, -⟩
  · exact least
  · rw [none] at h
    cases h

theorem isValid_offsetOf (text : String) (p : Position) :
    (⟨offsetOf text p⟩ : String.Pos.Raw).IsValid text := by
  rcases isLeast_offsetOf text p with least | ⟨-, last⟩
  · exact least.1.2.1
  · rw [last, ← Span.utf8Len_toList]
    exact isValid_iff_utf8Len.2 ⟨text.toList, List.prefix_rfl, rfl⟩

theorem lineStart_le_offsetOf (text : String) (p : Position) :
    lineStart text p.line ≤ offsetOf text p := by
  rcases isLeast_offsetOf text p with least | ⟨-, last⟩
  · exact least.1.1
  · exact last ▸ lineStart_le text p.line

theorem offsetOf_le (text : String) (p : Position) : offsetOf text p ≤ text.utf8ByteSize :=
  (isValid_offsetOf text p).le_utf8ByteSize

/-- On one line, a later column has no earlier offset. -/
theorem monotone_offsetOf (text : String) (line : Nat) :
    Monotone fun character => offsetOf text ⟨line, character⟩ := by
  intro fewer more h
  rcases isLeast_offsetOf text ⟨line, more⟩ with least | ⟨-, last⟩
  · have reached := boundariesReaching_anti h least.1
    exact (isLeast_offsetOf_of_mem (p := ⟨line, fewer⟩) reached).2 reached
  · dsimp only
    rw [last]
    exact offsetOf_le text _

/-- A walk that would end between the code units of a character passes it. -/
theorem passes_pair {c : Char} (pair : codeUnits c = 2) (before after : List Char) :
    Passes (utf16Length before + 1) (before ++ [c]) after where
  short other leads proper := by
    rcases List.prefix_concat_iff.1 leads with same | leads
    · exact absurd same proper
    · have := utf16Length_le_of_prefix leads
      omega
  enough := .inl (by simp [pair])

/-- A column inside a surrogate pair counts as the column behind it. -/
theorem offsetOf_pair {front back : String} {c : Char} {line : Nat}
    (split : text = front ++ String.singleton c ++ back) (pair : codeUnits c = 2)
    (behind : lineStart text line ≤ front.utf8ByteSize) :
    offsetOf text ⟨line, unitsBetween text (lineStart text line) front.utf8ByteSize + 1⟩ =
      (front ++ String.singleton c).utf8ByteSize := by
  obtain ⟨head, rest, hsplit, starts, -⟩ := exists_walk text line
  have leads : front.toList <+: text.toList := ⟨c :: back.toList, by simp [split]⟩
  rw [starts, ← Span.utf8Len_toList] at behind
  obtain ⟨before, hfront⟩ := prefix_of_utf8Len_le ⟨rest, hsplit.symm⟩ leads behind
  have parts : text.toList = head ++ (before ++ [c] ++ back.toList) := by
    simp [split, ← hfront]
  have least := isLeast_of_passes parts (passes_pair pair before back.toList) (by simp [pair])
  rw [← starts] at least
  have found := isLeast_offsetOf_of_mem (p := ⟨line, _⟩) least.1
  rw [← Span.utf8Len_toList front, starts, ← hfront, unitsBetween_eq (hfront ▸ leads),
    found.unique least, ← Span.utf8Len_toList]
  simp [← hfront]

/-- The offset of a position is found by a walk over code units, whatever the position. It is a
boundary of the text, from the start of the line of the position on: the first one that is far
enough from there, or the end of the text if none is. So a later column of a line has no earlier
offset, and a column between the code units of a character has the offset behind the character. -/
theorem offsets_by_walking (text : String) :
    (∀ p,
      let start := lineStart text p.line
      let reaching := boundariesReaching text start p.character
      (⟨offsetOf text p⟩ : String.Pos.Raw).IsValid text ∧
      start ≤ offsetOf text p ∧ offsetOf text p ≤ text.utf8ByteSize ∧
      (IsLeast reaching (offsetOf text p) ∨
        reaching = ∅ ∧ offsetOf text p = text.utf8ByteSize)) ∧
    (∀ line, Monotone fun character => offsetOf text ⟨line, character⟩) ∧
    ∀ line front c back, text = front ++ String.singleton c ++ back → codeUnits c = 2 →
      lineStart text line ≤ front.utf8ByteSize →
      offsetOf text ⟨line, unitsBetween text (lineStart text line) front.utf8ByteSize + 1⟩ =
        (front ++ String.singleton c).utf8ByteSize := by
  refine ⟨fun p => ?_, monotone_offsetOf text, fun line front c back => offsetOf_pair⟩
  exact ⟨isValid_offsetOf text p, lineStart_le_offsetOf text p, offsetOf_le text p,
    isLeast_offsetOf text p⟩

/-- The second line opens with a character of two code units. A column between these has the offset
behind the character, whether it is counted from the start of its own line or from the line
before. -/
theorem offsets_by_walking_into_clef :
    let text := "a\n𝄞b"
    offsetOf text ⟨1, 1⟩ = 6 ∧ offsetOf text ⟨0, 3⟩ = 6 := by
  intro text
  have split : text = "a\n" ++ String.singleton '𝄞' ++ "b" := by decide
  have leads : ['a', '\n'] <+: text.toList := ⟨['𝄞', 'b'], by decide⟩
  have starts : lineStart text 1 = 2 ∧ lineStart text 0 = 0 := by decide
  have sizes : "a\n".utf8ByteSize = 2 ∧ ("a\n" ++ String.singleton '𝄞').utf8ByteSize = 6 := by
    decide
  have own : unitsBetween text 2 2 = 0 := @unitsBetween_eq text ['a', '\n'] [] leads
  have above : unitsBetween text 0 2 = 2 := @unitsBetween_eq text [] ['a', '\n'] leads
  have pair := fun line => (offsets_by_walking text).2.2 line "a\n" '𝄞' "b" split rfl
  have second := pair 1 (by decide)
  have first := pair 0 (by decide)
  rw [sizes.1, sizes.2, starts.1, own] at second
  rw [sizes.1, sizes.2, starts.2, above] at first
  exact ⟨second, first⟩

end JavaLens
