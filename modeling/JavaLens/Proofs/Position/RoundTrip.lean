import JavaLens.Editor.Range
import JavaLens.Proofs.Position.Lines

/-!
# Offsets to positions and back

An offset goes to a position and back to the last character boundary up to it. A position goes to
an offset and back to itself if it is the position of a boundary, that is, if its line and its
column are there and the column is not within a surrogate pair. In a text that is short enough the
same holds of positions as they are sent.

## Main definitions

* `lineOf` — a line of a text, without its newline.
* `SplitsPair` — a column between the two code units of one character.

## Main statements

* `exists_behind_iff` — the positions of boundaries.
* `positions_invert_offsets` — both ways round, for positions and for positions on the wire.
-/

namespace JavaLens

open String (utf8Len)

variable {text : String} {before after line cs : List Char} {offset : Nat} {p : Position}

/-! ## Boundaries -/

/-- A boundary is the last one up to itself. -/
theorem eq_of_isGreatest {b : Nat} (greatest : IsGreatest (boundariesUpTo text offset) b)
    (boundary : (⟨offset⟩ : String.Pos.Raw).IsValid text) : b = offset := by
  have hb : b ≤ offset := Nat.le_trans greatest.1.1 (Nat.min_le_left ..)
  have hoffset : offset ≤ text.utf8ByteSize := boundary.le_utf8ByteSize
  exact Nat.le_antisymm hb (greatest.2 ⟨Nat.le_min.2 ⟨Nat.le_refl _, hoffset⟩, boundary⟩)

/-! ## Columns -/

/-- Whether a column falls between the two code units of one character of a line. -/
def SplitsPair (line : List Char) (character : Nat) : Prop :=
  ∃ before c after, line = before ++ c :: after ∧ codeUnits c = 2 ∧
    character = utf16Length before + 1

theorem codeUnits_eq_one_or_two (c : Char) : codeUnits c = 1 ∨ codeUnits c = 2 := by
  unfold codeUnits
  split
  · exact .inl rfl
  · exact .inr rfl

theorem utf16Length_le_of_prefix {cs ds : List Char} (h : cs <+: ds) :
    utf16Length cs ≤ utf16Length ds := by
  obtain ⟨rest, rfl⟩ := h
  rw [utf16Length_append]
  exact Nat.le_add_right ..

theorem not_splitsPair_of_prefix (h : before <+: line) : ¬SplitsPair line (utf16Length before) := by
  rintro ⟨first, c, rest, rfl, pair, same⟩
  obtain shorter | longer :=
    List.prefix_or_prefix_of_prefix h (List.prefix_append first (c :: rest))
  · have := utf16Length_le_of_prefix shorter
    omega
  · obtain ⟨more, rfl⟩ := longer
    cases more with
    | nil => simp at same
    | cons d more =>
      obtain ⟨rfl, _⟩ := List.cons_prefix_cons.1 ((List.prefix_append_right_inj first).1 h)
      rw [utf16Length_append, utf16Length_cons] at same
      omega

/-- A column of a line that splits no pair stands behind some of its characters. -/
theorem exists_prefix_of_not_splitsPair {character : Nat} (le : character ≤ utf16Length line)
    (whole : ¬SplitsPair line character) :
    ∃ before, before <+: line ∧ utf16Length before = character := by
  induction line generalizing character with
  | nil => exact ⟨[], List.prefix_rfl, (Nat.le_zero.1 le).symm⟩
  | cons c line ih =>
    rw [utf16Length_cons] at le
    by_cases first : character < codeUnits c
    · have pair := codeUnits_eq_one_or_two c
      have : character ≠ 1 := fun h => whole ⟨[], c, line, rfl, by omega, h⟩
      exact ⟨[], List.nil_prefix, by rw [utf16Length_nil]; omega⟩
    · have step : ∃ before, before <+: line ∧ utf16Length before = character - codeUnits c := by
        refine ih (by omega) ?_
        rintro ⟨before, d, after, rfl, pair, same⟩
        refine whole ⟨c :: before, d, after, rfl, pair, ?_⟩
        rw [utf16Length_cons]
        omega
      obtain ⟨before, leads, hlength⟩ := step
      refine ⟨c :: before, List.cons_prefix_cons.2 ⟨rfl, leads⟩, ?_⟩
      rw [utf16Length_cons]
      omega

/-! ## Lines -/

/-- A line of a text, without its newline. -/
def lineOf (text : String) (number : Nat) : List Char :=
  (text.toList.splitOn '\n').getD number []

theorem length_splitOn (cs : List Char) : (cs.splitOn '\n').length = cs.count '\n' + 1 := by
  induction cs with
  | nil => rfl
  | cons c cs ih =>
    rw [List.splitOn_cons_eq_if_modifyHead, List.count_cons]
    split <;> simp_all

theorem head?_splitOn (cs : List Char) :
    (cs.splitOn '\n').head? = some (cs.takeWhile (· ≠ '\n')) := by
  induction cs with
  | nil => rfl
  | cons c cs ih =>
    rw [List.splitOn_cons_eq_if_modifyHead, List.takeWhile_cons]
    split <;> simp_all

/-- A line of a text goes from behind the lines before it up to the next newline. -/
theorem lineOf_eq {head rest : List Char} (whole : WholeLines head)
    (split : text.toList = head ++ rest) :
    lineOf text (head.count '\n') = rest.takeWhile (· ≠ '\n') := by
  suffices (text.toList.splitOn '\n')[head.count '\n']? = some (rest.takeWhile (· ≠ '\n')) by
    rw [lineOf, List.getD_eq_getElem?_getD, this, Option.getD_some]
  rw [split, ← head?_splitOn rest]
  obtain rfl | ⟨before, rfl⟩ := whole
  · exact List.head?_eq_getElem?.symm
  · have hcount : (before ++ ['\n']).count '\n' = (before.splitOn '\n').length := by
      simp [length_splitOn]
    rw [hcount, List.append_assoc, List.singleton_append, List.splitOn_append_cons_self,
      List.getElem?_append_right (Nat.le_refl _), Nat.sub_self, List.head?_eq_getElem?]

theorem exists_wholeLines_of_le {number : Nat} (h : number ≤ cs.count '\n') :
    ∃ head rest, cs = head ++ rest ∧ WholeLines head ∧ head.count '\n' = number := by
  induction number with
  | zero => exact ⟨[], cs, rfl, .inl rfl, rfl⟩
  | succ number ih =>
    obtain ⟨head, rest, rfl, _, hcount⟩ := ih (by omega)
    rw [List.count_append, hcount] at h
    obtain ⟨line, rest, rfl, no_newline⟩ :=
      List.eq_append_cons_of_mem (List.count_pos_iff.1 (show 0 < rest.count '\n' by omega))
    refine ⟨head ++ line ++ ['\n'], rest, by simp, .inr ⟨_, rfl⟩, ?_⟩
    simp [hcount, List.count_eq_zero_of_not_mem no_newline]

/-- Whether a position is that of a character boundary: its line is there, its column is within the
line or at its end, and the column splits no pair. -/
structure Position.OnBoundary (text : String) (p : Position) : Prop where
  line_le : p.line ≤ text.toList.count '\n'
  character_le : p.character ≤ utf16Length (lineOf text p.line)
  unsplit : ¬SplitsPair (lineOf text p.line) p.character

/-- The positions on boundaries are those behind the characters before one. -/
theorem exists_behind_iff :
    (∃ before, before <+: text.toList ∧ Position.behind before = p) ↔ p.OnBoundary text := by
  constructor
  · rintro ⟨before, ⟨after, split⟩, rfl⟩
    obtain ⟨head, line, rfl, whole, no_newline⟩ := exists_wholeLines before
    have hline : line <+: lineOf text (head.count '\n') := by
      have all : ∀ c ∈ line, decide (c ≠ '\n') = true := by
        intro c hc
        simpa using fun h : c = '\n' => no_newline (h ▸ hc)
      rw [lineOf_eq whole (split.symm.trans (List.append_assoc ..)),
        List.takeWhile_append_of_pos all]
      exact List.prefix_append ..
    rw [Position.behind_append whole no_newline]
    refine ⟨?_, utf16Length_le_of_prefix hline, not_splitsPair_of_prefix hline⟩
    simp only [← split, List.count_append]
    omega
  · rintro ⟨hnumber, le, unsplit⟩
    obtain ⟨head, rest, split, whole, hcount⟩ := exists_wholeLines_of_le hnumber
    have hline := lineOf_eq whole split
    rw [hcount] at hline
    rw [hline] at le unsplit
    obtain ⟨before, leads, hlength⟩ := exists_prefix_of_not_splitsPair le unsplit
    have no_newline : '\n' ∉ before := fun h => by
      simpa using List.mem_takeWhile_imp (leads.subset h)
    refine ⟨head ++ before, ?_, ?_⟩
    · rw [split, List.prefix_append_right_inj]
      exact leads.trans (List.takeWhile_prefix _)
    · rw [Position.behind_append whole no_newline, hcount, hlength]

/-! ## Both ways round -/

theorem offsetOf_positionOf (cut : CutAt text offset before after) :
    offsetOf text (positionOf text offset) = utf8Len before := by
  rw [positionOf_of_cutAt cut, offsetOf_behind ⟨after, cut.split.symm⟩]

/-- The position of an offset is that of a boundary. -/
theorem exists_behind_positionOf (text : String) (offset : Nat) :
    ∃ before, before <+: text.toList ∧ Position.behind before = positionOf text offset := by
  obtain ⟨before, after, cut⟩ := exists_cutAt text offset
  exact ⟨before, ⟨after, cut.split.symm⟩, (positionOf_of_cutAt cut).symm⟩

theorem positionOf_utf8Len (h : before <+: text.toList) :
    positionOf text (utf8Len before) = .behind before := by
  obtain ⟨after, h⟩ := h
  exact positionOf_of_cutAt (cutAt_utf8Len h.symm)

theorem positionOf_offsetOf_eq_iff :
    positionOf text (offsetOf text p) = p ↔ p.OnBoundary text := by
  rw [← exists_behind_iff]
  constructor
  · intro h
    exact h ▸ exists_behind_positionOf text _
  · rintro ⟨before, leads, rfl⟩
    rw [offsetOf_behind leads, positionOf_utf8Len leads]

/-! ## On the wire -/

/-- Neither the line nor the column of an offset is larger than the text is long. -/
theorem positionOf_le (text : String) (offset : Nat) :
    (positionOf text offset).line ≤ text.utf8ByteSize ∧
      (positionOf text offset).character ≤ text.utf8ByteSize := by
  obtain ⟨before, leads, hposition⟩ := exists_behind_positionOf text offset
  obtain ⟨head, line, rfl, whole, no_newline⟩ := exists_wholeLines before
  have hlength := String.utf8Len_le_of_prefix leads
  rw [Span.utf8Len_toList, String.utf8Len_append] at hlength
  have hcount : head.count '\n' ≤ utf8Len head :=
    Nat.le_trans List.count_le_length (length_le_utf8Len head)
  have hunits := utf16Length_le_utf8Len line
  rw [← hposition, Position.behind_append whole no_newline]
  constructor <;> dsimp only <;> omega

namespace Editor.Position

/-- A position of a text whose length fits into 32 bits is sent as it is. -/
theorem toPosition_ofPosition (short : text.utf8ByteSize < 2 ^ 32) (offset : Nat) :
    (ofPosition (positionOf text offset)).toPosition = positionOf text offset := by
  obtain ⟨hline, hcharacter⟩ := positionOf_le text offset
  unfold ofPosition toPosition
  rw [Nat.toUInt32_eq, UInt32.toNat_ofNat_of_lt' (Nat.lt_of_le_of_lt hline short),
    Nat.toUInt32_eq, UInt32.toNat_ofNat_of_lt' (Nat.lt_of_le_of_lt hcharacter short)]

theorem ofPosition_eq_iff (short : text.utf8ByteSize < 2 ^ 32) {p : Position} :
    ofPosition (positionOf text offset) = p ↔ positionOf text offset = p.toPosition := by
  constructor
  · rintro rfl
    exact (toPosition_ofPosition short offset).symm
  · intro h
    rw [h]
    simp [ofPosition, toPosition]

end Editor.Position

/-- Offsets and positions are inverse to each other. An offset comes back as the last character
boundary up to it, and a position comes back as itself if and only if it is on a boundary. In a text
shorter than `2 ^ 32` bytes the same holds of positions as they are sent. -/
theorem positions_invert_offsets (text : String) :
    (∀ offset,
      IsGreatest (boundariesUpTo text offset) (offsetOf text (positionOf text offset)) ∧
      ((⟨offset⟩ : String.Pos.Raw).IsValid text →
        offsetOf text (positionOf text offset) = offset)) ∧
    (∀ p, positionOf text (offsetOf text p) = p ↔ p.OnBoundary text) ∧
    (text.utf8ByteSize < 2 ^ 32 →
      (∀ offset,
        IsGreatest (boundariesUpTo text offset)
          (Editor.offsetAt text (.ofPosition (positionOf text offset))) ∧
        ((⟨offset⟩ : String.Pos.Raw).IsValid text →
          Editor.offsetAt text (.ofPosition (positionOf text offset)) = offset)) ∧
      ∀ p : Editor.Position, .ofPosition (positionOf text (Editor.offsetAt text p)) = p ↔
        p.toPosition.OnBoundary text) := by
  have greatest (offset : Nat) :
      IsGreatest (boundariesUpTo text offset) (offsetOf text (positionOf text offset)) := by
    obtain ⟨before, after, cut⟩ := exists_cutAt text offset
    rw [offsetOf_positionOf cut]
    exact isGreatest_utf8Len cut
  refine ⟨fun offset => ⟨greatest offset, eq_of_isGreatest (greatest offset)⟩,
    fun p => positionOf_offsetOf_eq_iff, fun short => ⟨fun offset => ?_, fun p => ?_⟩⟩
  · rw [Editor.offsetAt, Editor.Position.toPosition_ofPosition short]
    exact ⟨greatest offset, eq_of_isGreatest (greatest offset)⟩
  · rw [Editor.Position.ofPosition_eq_iff short]
    exact positionOf_offsetOf_eq_iff

/-- The second line opens with a character of four bytes and two code units. The offset of its
third byte comes back as that of its first, the column between its code units does not come back,
and the one behind it does. -/
theorem positions_invert_offsets_of_clef :
    let text := "a\n𝄞b"
    text.utf8ByteSize < 2 ^ 32 ∧
      Editor.offsetAt text (.ofPosition (positionOf text 4)) = 2 ∧
      Editor.offsetAt text (.ofPosition (positionOf text 6)) = 6 ∧
      .ofPosition (positionOf text (Editor.offsetAt text ⟨1, 1⟩)) ≠ (⟨1, 1⟩ : Editor.Position) ∧
      .ofPosition (positionOf text (Editor.offsetAt text ⟨1, 2⟩)) = (⟨1, 2⟩ : Editor.Position) := by
  intro text
  have short : text.utf8ByteSize < 2 ^ 32 := by decide +kernel
  obtain ⟨offsets, positions⟩ := (positions_invert_offsets text).2.2 short
  have hline : lineOf text 1 = ['𝄞', 'b'] := by decide +kernel
  have hclef : codeUnits '𝄞' = 2 := rfl
  refine ⟨short, ?_, ?_, ?_, ?_⟩
  · have cut : CutAt text 4 ['a', '\n'] ['𝄞', 'b'] :=
      ⟨by decide +kernel, by decide, fun c hc => by cases hc; decide⟩
    exact (offsets 4).1.unique (isGreatest_utf8Len cut)
  · have boundary : (⟨6⟩ : String.Pos.Raw).IsValid text :=
      isValid_iff_utf8Len.2 ⟨['a', '\n', '𝄞'], ⟨['b'], by decide +kernel⟩, rfl⟩
    exact (offsets 6).2 boundary
  · refine mt (positions ⟨1, 1⟩).1 fun onBoundary => onBoundary.unsplit ?_
    exact ⟨[], '𝄞', ['b'], hline, hclef, rfl⟩
  · have behind : ['𝄞'] <+: lineOf text 1 := ⟨['b'], hline.symm⟩
    exact (positions ⟨1, 2⟩).2
      ⟨by decide +kernel, utf16Length_le_of_prefix behind, not_splitsPair_of_prefix behind⟩

end JavaLens
