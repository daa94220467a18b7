import JavaLens.Proofs.Position.RoundTrip
import Mathlib.Data.Prod.Lex

/-!
# Positions by counting, and their order

The line index looks a line up; the position it gives is the one that is found by counting: the
newlines before the last boundary up to the offset, and the code units behind the last of them.
Counting more of a text never leads back, so positions are ordered as their offsets are.

## Main definitions

* `Position.key` — positions by their lines, and on one line by their characters. It is what they
  are ordered by.

## Main statements

* `Position.key_behind_lt` — the position behind more characters is a later one.
* `key_positionOf_le` — positions are in the order of their offsets.
* `positionOf_eq_count` — the position of an offset by counting.
* `positions_count_in_order` — positions by counting, and in the order of their offsets.
-/

namespace JavaLens

open String (utf8Len)

variable {text : String} {cs ds more before before' : List Char} {offset first second : Nat}

/-! ## Behind more of a text -/

/-- Positions are ordered by their lines, and on one line by their characters. -/
def Position.key (p : Position) : ℕ ×ₗ ℕ := toLex (p.line, p.character)

instance : LE Position := ⟨fun p q => p.key ≤ q.key⟩

theorem utf16Length_pos (h : cs ≠ []) : 0 < utf16Length cs := by
  obtain ⟨c, cs, rfl⟩ := List.exists_cons_of_ne_nil h
  have := codeUnits_pos c
  rw [utf16Length_cons]
  omega

/-- The position behind more characters is a later one: on a later line if there is a newline among
them, and else farther along the same line. -/
theorem Position.key_behind_lt (cs : List Char) (h : more ≠ []) :
    (behind cs).key < (behind (cs ++ more)).key := by
  rw [key, key, Prod.Lex.toLex_lt_toLex]
  by_cases newline : '\n' ∈ more
  · left
    have := List.count_pos_iff.2 newline
    simp only [behind, List.count_append]
    omega
  · right
    obtain ⟨head, line, rfl, whole, no_newline⟩ := exists_wholeLines cs
    have longer : '\n' ∉ line ++ more := by simp [no_newline, newline]
    have := utf16Length_pos h
    rw [List.append_assoc, behind_append whole no_newline, behind_append whole longer,
      utf16Length_append]
    exact ⟨rfl, by dsimp only; omega⟩

theorem Position.key_behind_le (h : cs <+: ds) : (behind cs).key ≤ (behind ds).key := by
  obtain ⟨more, rfl⟩ := h
  by_cases empty : more = []
  · rw [empty, List.append_nil]
  · exact (key_behind_lt cs empty).le

/-! ## Up to an offset -/

/-- Of two prefixes of a text, the one that is not longer is a prefix of the other. -/
theorem prefix_of_utf8Len_le (h : before <+: cs) (h' : before' <+: cs)
    (le : utf8Len before ≤ utf8Len before') : before <+: before' := by
  rcases List.prefix_or_prefix_of_prefix h h' with shorter | ⟨more, rfl⟩
  · exact shorter
  · rw [String.utf8Len_append] at le
    obtain rfl : more = [] := String.utf8Len_eq_zero.1 (by omega)
    simp

theorem boundariesUpTo_subset (h : first ≤ second) :
    boundariesUpTo text first ⊆ boundariesUpTo text second :=
  fun _ ⟨le, boundary⟩ => ⟨by omega, boundary⟩

/-- The characters up to an offset, and the position behind them. -/
theorem exists_isGreatest_behind (text : String) (offset : Nat) :
    ∃ before, before <+: text.toList ∧ IsGreatest (boundariesUpTo text offset) (utf8Len before) ∧
      positionOf text offset = .behind before := by
  obtain ⟨before, after, cut⟩ := exists_cutAt text offset
  exact ⟨before, ⟨after, cut.split.symm⟩, isGreatest_utf8Len cut, positionOf_of_cutAt cut⟩

theorem key_positionOf_le (h : first ≤ second) :
    (positionOf text first).key ≤ (positionOf text second).key := by
  obtain ⟨before, leads, greatest, position⟩ := exists_isGreatest_behind text first
  obtain ⟨before', leads', greatest', position'⟩ := exists_isGreatest_behind text second
  have le := greatest.mono greatest' (boundariesUpTo_subset h)
  rw [position, position']
  exact Position.key_behind_le (prefix_of_utf8Len_le leads leads' le)

theorem key_positionOf_lt (boundary : (⟨first⟩ : String.Pos.Raw).IsValid text)
    (boundary' : (⟨second⟩ : String.Pos.Raw).IsValid text) (h : first < second) :
    (positionOf text first).key < (positionOf text second).key := by
  obtain ⟨before, leads, greatest, position⟩ := exists_isGreatest_behind text first
  obtain ⟨before', leads', greatest', position'⟩ := exists_isGreatest_behind text second
  have length := eq_of_isGreatest greatest boundary
  have length' := eq_of_isGreatest greatest' boundary'
  obtain ⟨more, rfl⟩ := prefix_of_utf8Len_le leads leads' (by omega)
  rw [position, position']
  refine Position.key_behind_lt before ?_
  rintro rfl
  rw [List.append_nil] at length'
  omega

/-- The search for the line of an offset comes to a line that is there, and its number is that of
the position. -/
theorem exists_search_eq (text : String) (offset : Nat) :
    ∃ number < (LineIndex.ofText text).lines.size, (positionOf text offset).line = number ∧
      ((LineIndex.ofText text).search offset = .ok number ∨
        (LineIndex.ofText text).search offset = .error (number + 1)) := by
  obtain ⟨number, inside, comes, -, -⟩ := exists_search text offset
  refine ⟨number, inside, ?_, comes⟩
  rw [positionOf, LineIndex.position, LineIndex.lineNumber_of_search comes]
  split <;> rfl

/-- The position of an offset is found by counting: its line is the number of newlines before the
last boundary up to the offset, and its character the number of code units from the last newline
before that boundary on, or from the start. -/
theorem positionOf_eq_count (text : String) (offset : Nat) :
    ∃ before after : String, text = before ++ after ∧
      IsGreatest (boundariesUpTo text offset) before.utf8ByteSize ∧
      positionOf text offset =
        ⟨before.toList.count '\n', utf16Length (before.toList.rtakeWhile (· ≠ '\n'))⟩ := by
  obtain ⟨before, ⟨after, split⟩, greatest, position⟩ := exists_isGreatest_behind text offset
  refine ⟨.ofList before, .ofList after, ?_, ?_, ?_⟩
  · rw [← String.ofList_append, split, String.ofList_toList]
  · rwa [String.utf8ByteSize_ofList]
  · rw [String.toList_ofList]
    exact position

/-- The position of an offset is found by counting. The search for its line always comes to one that
is there: it starts at the last boundary up to the offset, or a line that does would have the next
number. A later offset has no earlier position, and a later boundary has a later one. -/
theorem positions_count_in_order (text : String) :
    (∀ offset,
      (∃ before after : String, text = before ++ after ∧
        IsGreatest (boundariesUpTo text offset) before.utf8ByteSize ∧
        positionOf text offset =
          ⟨before.toList.count '\n', utf16Length (before.toList.rtakeWhile (· ≠ '\n'))⟩) ∧
      let index := LineIndex.ofText text
      ∃ number < index.lines.size, (positionOf text offset).line = number ∧
        (index.search offset = .ok number ∨ index.search offset = .error (number + 1))) ∧
    (∀ first second, first ≤ second →
      (positionOf text first).key ≤ (positionOf text second).key) ∧
    ∀ first second, (⟨first⟩ : String.Pos.Raw).IsValid text →
      (⟨second⟩ : String.Pos.Raw).IsValid text → first < second →
      (positionOf text first).key < (positionOf text second).key :=
  ⟨fun offset => ⟨positionOf_eq_count text offset, exists_search_eq text offset⟩,
    fun _ _ => key_positionOf_le, fun _ _ => key_positionOf_lt⟩

/-- The second line opens with a character of four bytes. An offset inside of it has no earlier
position than its start, which comes behind the end of the first line and before its own end. -/
theorem positions_count_in_order_of_clef :
    let text := "a\n𝄞b"
    (positionOf text 2).key ≤ (positionOf text 4).key ∧
      (positionOf text 1).key < (positionOf text 2).key ∧
      (positionOf text 2).key < (positionOf text 6).key := by
  intro text
  obtain ⟨_, monotone, strict⟩ := positions_count_in_order text
  have one : (⟨1⟩ : String.Pos.Raw).IsValid text :=
    isValid_iff_utf8Len.2 ⟨['a'], ⟨['\n', '𝄞', 'b'], by decide⟩, rfl⟩
  have two : (⟨2⟩ : String.Pos.Raw).IsValid text :=
    isValid_iff_utf8Len.2 ⟨['a', '\n'], ⟨['𝄞', 'b'], by decide⟩, rfl⟩
  have six : (⟨6⟩ : String.Pos.Raw).IsValid text :=
    isValid_iff_utf8Len.2 ⟨['a', '\n', '𝄞'], ⟨['b'], by decide⟩, rfl⟩
  exact ⟨monotone 2 4 (by decide), strict 1 2 one two (by decide), strict 2 6 two six (by decide)⟩

end JavaLens
