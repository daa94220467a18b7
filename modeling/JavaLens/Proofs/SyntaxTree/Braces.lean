import JavaLens.Proofs.SyntaxTree.Mentions
import Mathlib.Combinatorics.Enumerative.DyckWord

/-!
# The braces of a clean source

A reading that reports nothing has passed over braces in pairs only: it enters a region at an
opening brace and leaves it at the closing one, one level further out. So the braces of a source
without errors are a Dyck word, and its height is bounded by the number of levels.

## Main definitions

* `braces` — the braces among tokens, as the steps of a bracket word.
* `NestsWithin` — a bracket word that never opens more than a number of brackets.

## Main statements

* `Grammar.Moves.exists_dyckWord` — a reading without findings passes over a Dyck word.
* `SyntaxTree.braces_balanced` — a source without errors has balanced braces, not nested too deep.
-/

namespace JavaLens

open DyckStep

/-! ## Bracket words -/

/-- The step of a bracket word that a token stands for, if it is a brace. -/
def Token.Kind.brace? : Token.Kind → Option DyckStep
  | .lbrace => some U
  | .rbrace => some D
  | _ => none

/-- The braces among tokens, in order. -/
def braces (tokens : List Token) : List DyckStep := tokens.filterMap (·.kind.brace?)

/-- Whether never more than `n` brackets of a word are open at once. -/
def NestsWithin (n : Nat) (word : DyckWord) : Prop :=
  ∀ k, (word.toList.take k).count U ≤ (word.toList.take k).count D + n

namespace NestsWithin

variable {n : Nat} {p q : DyckWord}

theorem zero (n : Nat) : NestsWithin n 0 := fun k => by
  change ([].take k).count U ≤ _
  simp

theorem add (hp : NestsWithin n p) (hq : NestsWithin n q) : NestsWithin n (p + q) := by
  intro k
  change ((p.toList ++ q.toList).take k).count U ≤ ((p.toList ++ q.toList).take k).count D + n
  simp only [List.take_append, List.count_append]
  obtain hk | hk := Nat.le_total k p.toList.length
  · -- The prefix ends in the first word.
    have := hp k
    simp only [Nat.sub_eq_zero_of_le hk, List.take_zero, List.count_nil]
    omega
  · -- All that the first word opens is closed again.
    have := hq (k - p.toList.length)
    rw [List.take_of_length_le hk, p.count_U_eq_count_D]
    omega

theorem nest (hp : NestsWithin n p) : NestsWithin (n + 1) p.nest := by
  intro k
  change (([U] ++ p.toList ++ [D]).take k).count U ≤ (([U] ++ p.toList ++ [D]).take k).count D + _
  have opened : ([U].take k).count U ≤ 1 := (List.count_le_length).trans (by simp)
  have closed : ∀ l, ([D].take l).count U = 0 := fun l => by cases l <;> simp
  have := hp (k - 1)
  simp only [List.take_append, List.count_append, List.length_singleton, closed]
  omega

end NestsWithin

/-! ## The braces of a reading -/

namespace Grammar

variable {tokens : Array Token} {sourceEnd n i j k : Nat} {ms : List Mention} {fs : List Finding}

/-- The braces from one token up to another. -/
def bracesBetween (tokens : Array Token) (i j : Nat) : List DyckStep :=
  braces (tokens.extract i j).toList

theorem bracesBetween_self (tokens : Array Token) (i : Nat) : bracesBetween tokens i i = [] := by
  simp [bracesBetween, braces]

theorem bracesBetween_append (hij : i ≤ j) (hjk : j ≤ k) :
    bracesBetween tokens i j ++ bracesBetween tokens j k = bracesBetween tokens i k := by
  have joined : tokens.extract i j ++ tokens.extract j k = tokens.extract i k := by
    rw [Array.extract_append_extract, Nat.min_eq_left hij, Nat.max_eq_right hjk]
  rw [bracesBetween, bracesBetween, bracesBetween, ← joined, Array.toList_append, braces, braces,
    braces, List.filterMap_append]

theorem bracesBetween_succ {kind : Token.Kind} (h : kindAt tokens i = some kind) :
    bracesBetween tokens i (i + 1) = kind.brace?.toList := by
  have hi := lt_size_of_kindAt h
  have hkind : tokens[i].kind = kind := by simpa [kindAt, hi] using h
  have alone : (tokens.extract i (i + 1)).toList = [tokens[i]] := by
    rw [Array.extract_succ_right (Nat.lt_succ_self i) hi, Array.toList_push,
      Array.extract_eq_empty_of_le (Nat.min_le_left ..)]
    rfl
  rw [bracesBetween, alone, braces]
  cases hbrace : kind.brace? <;> simp [hkind, hbrace]

theorem brace?_eq_none {kind : Token.Kind} (h : isPlain kind) : kind.brace? = none := by
  cases kind <;> first | rfl | cases h

namespace Moves

/-- What a reading has passed over that found nothing is balanced, and nested no deeper than the
levels it had left. -/
theorem exists_dyckWord (h : Moves tokens sourceEnd n i j ms fs) (clean : fs = []) :
    ∃ word : DyckWord, word.toList = bracesBetween tokens i j ∧ NestsWithin n word := by
  -- A token that is no brace leaves the empty word.
  have plain {n i : Nat} {kind : Token.Kind} (seen : kindAt tokens i = some kind)
      (hkind : kind.brace? = none) :
      ∃ word : DyckWord, word.toList = bracesBetween tokens i (i + 1) ∧ NestsWithin n word := by
    refine ⟨0, ?_, .zero n⟩
    rw [bracesBetween_succ seen, hkind]
    rfl
  induction h with
  | stay n i => exact ⟨0, (bracesBetween_self tokens i).symm, .zero n⟩
  | pass seen isPlain => exact plain seen (brace?_eq_none isPlain)
  | overlook seen | reference seen => exact plain seen rfl
  | report | stray | skip => cases clean
  | openRegion => simp at clean
  | trans first second ih ih' =>
    obtain ⟨rfl, rfl⟩ := List.append_eq_nil_iff.1 clean
    obtain ⟨p, hp, within⟩ := ih rfl
    obtain ⟨q, hq, within'⟩ := ih' rfl
    refine ⟨p + q, ?_, within.add within'⟩
    rw [← bracesBetween_append first.le second.le, ← hp, ← hq]
    rfl
  | region opened inside closed ih =>
    obtain ⟨p, hp, within⟩ := ih clean
    refine ⟨p.nest, ?_, within.nest⟩
    rw [← bracesBetween_append (Nat.le_succ _) (Nat.le_succ_of_le inside.le),
      ← bracesBetween_append inside.le (Nat.le_succ _), ← hp, bracesBetween_succ opened,
      bracesBetween_succ closed, ← List.append_assoc]
    rfl
  | declaration flavor head named rest ih ih' =>
    obtain ⟨rfl, rfl⟩ := List.append_eq_nil_iff.1 clean
    obtain ⟨p, hp, within⟩ := ih rfl
    obtain ⟨q, hq, within'⟩ := ih' rfl
    refine ⟨p + q, ?_, within.add within'⟩
    rw [← bracesBetween_append head.le (Nat.le_of_succ_le rest.le),
      ← bracesBetween_append (Nat.le_succ _) rest.le, ← hp, ← hq, bracesBetween_succ named]
    rfl

end Moves

end Grammar

/-! ## The braces of a source -/

namespace SyntaxTree

open Grammar

variable {source : String}

/-- The braces of a source, as the steps of a bracket word. -/
def sourceBraces (source : String) : List DyckStep := braces (tokenize source).tokens

/-- A source without errors is read without findings. -/
theorem findings_eq_nil_of_clean
    (clean : ∀ problem ∈ (ofSource source).problems, problem.severity ≠ .error) :
    (read (tokenize source).tokens source.utf8ByteSize).findings.toList = [] := by
  refine List.eq_nil_iff_forall_not_mem.2 fun finding hfinding => ?_
  exact clean _ (problem_mem_of_finding hfinding) rfl

theorem exists_dyckWord_of_clean
    (clean : ∀ problem ∈ (ofSource source).problems, problem.severity ≠ .error) :
    ∃ word : DyckWord, word.toList = sourceBraces source ∧ NestsWithin maxNesting word := by
  obtain ⟨_, _, moves⟩ := exists_mentions source
  obtain ⟨word, hword, within⟩ := moves.exists_dyckWord (findings_eq_nil_of_clean clean)
  refine ⟨word, ?_, within⟩
  rw [hword, bracesBetween, Array.extract_size, sourceBraces]

/-- The braces of a source without errors are balanced, and never more than `maxNesting` of them are
open at once. So a source has an error if some brace closes nothing, some brace is not closed, or
braces are nested too deep. -/
theorem braces_balanced (source : String) :
    ((∀ problem ∈ (ofSource source).problems, problem.severity ≠ .error) →
      ∃ word : DyckWord, word.toList = sourceBraces source ∧ NestsWithin maxNesting word) ∧
    ((∃ k, ((sourceBraces source).take k).count U < ((sourceBraces source).take k).count D) ∨
        (∃ k, ((sourceBraces source).drop k).count D < ((sourceBraces source).drop k).count U) ∨
        (∃ k, ((sourceBraces source).take k).count D + maxNesting <
          ((sourceBraces source).take k).count U) →
      ∃ problem ∈ (ofSource source).problems, problem.severity = .error) := by
  refine ⟨exists_dyckWord_of_clean, fun broken => ?_⟩
  by_contra clean
  have clean : ∀ problem ∈ (ofSource source).problems, problem.severity ≠ .error :=
    fun problem hmem herror => clean ⟨problem, hmem, herror⟩
  obtain ⟨word, hword, within⟩ := exists_dyckWord_of_clean clean
  rw [← hword] at broken
  obtain ⟨k, stray⟩ | ⟨k, unclosed⟩ | ⟨k, deep⟩ := broken
  · exact Nat.not_lt.2 (word.count_D_le_count_U k) stray
  · -- What is opened behind a prefix and not closed is more than was closed before it.
    have balanced := word.count_U_eq_count_D
    have before := word.count_D_le_count_U k
    rw [← List.take_append_drop k word.toList, List.count_append, List.count_append] at balanced
    omega
  · exact Nat.not_lt.2 (within k) deep

/-- A class with a method, an initializer and an array that is filled in place. -/
theorem braces_balanced_of_nested_blocks :
    let source := "class A \x7b int[] f() \x7b return new int[] \x7b 1 \x7d; \x7d \x7b \x7d \x7d"
    ∃ word : DyckWord, word.toList = [U, U, U, D, D, U, D, D] ∧
      word.toList = sourceBraces source := by
  intro source
  have clean : ∀ problem ∈ (ofSource source).problems, problem.severity ≠ .error := by
    simp only [mem_problems_iff]
    decide +kernel
  obtain ⟨word, hword, _⟩ := (braces_balanced source).1 clean
  exact ⟨word, hword.trans (by decide +kernel), hword⟩

end SyntaxTree

end JavaLens
