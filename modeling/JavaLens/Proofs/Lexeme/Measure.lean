import JavaLens.Proofs.Lexeme
import JavaLens.Proofs.Lexeme.Pattern

/-!
# What recognizers measure

A recognizer measures a language if it gives the length of the longest text of the language at the
front of what it is given. Chaining recognizers never goes back, so for a chain to measure the
concatenation of two languages, a text of the first one must not go on with what the second one may
start with.

## Main definitions

* `Recognizer.Measures` — a recognizer gives the longest match of a language.

## Main statements

* `Recognizer.Measures.followedBy`, `Recognizer.Measures.extendedBy`, `Recognizer.Measures.either` —
  what chains of recognizers measure.
* `Recognizer.measures_closedLiteral`, `Recognizer.measures_openLiteral` — literals between quotes.
* `Recognizer.enclosed_body` — regions end with the first closer.
-/

namespace JavaLens

namespace Recognizer

/-- Whether a recognizer gives the length of the longest text of a language at the front. A text of
the language that is not the longest one goes on with a character that satisfies `p`. -/
structure Measures (p : Char → Bool) (r : Recognizer) (l : Language Char) : Prop where
  le : ∀ cs, r cs ≤ cs.length
  mem : ∀ cs, r cs ≠ 0 → cs.take (r cs) ∈ l
  nonempty : [] ∉ l
  longest : ∀ w ∈ l, ∀ rest, w.length ≤ r (w ++ rest)
  goesOn : ∀ w ∈ l, ∀ rest, w.length < r (w ++ rest) → rest.head?.any p

variable {p p' q q' : Char → Bool} {r r' : Recognizer} {l l' : Language Char} {w rest : List Char}

theorem followedBy_eq (r r' : Recognizer) (cs : List Char) :
    r.followedBy r' cs =
      if r cs = 0 ∨ r' (cs.drop (r cs)) = 0 then 0 else r cs + r' (cs.drop (r cs)) := by
  unfold followedBy
  split
  · simp_all
  · rename_i n hn
    rw [hn]
    split <;> simp_all

theorem extendedBy_eq (r r' : Recognizer) (cs : List Char) :
    r.extendedBy r' cs = if r cs = 0 then 0 else r cs + r' (cs.drop (r cs)) := by
  unfold extendedBy
  split <;> simp_all

namespace Measures

/-- A text of the language is positive in length. -/
theorem length_pos (h : Measures p r l) (hw : w ∈ l) : 0 < w.length := by
  apply List.length_pos_of_ne_nil
  rintro rfl
  exact h.nonempty hw

/-- A text of the language is the longest one if what follows does not prolong it. -/
theorem exact (h : Measures p r l) (hw : w ∈ l) (stops : rest.head?.any p = false) :
    r (w ++ rest) = w.length := by
  have := h.longest w hw rest
  have := h.goesOn w hw rest
  grind

/-- What a recognizer takes starts as the texts of its language do. -/
theorem starts (h : Measures p r l) (hr : Starts q r) (hw : w ∈ l) :
    ∃ c w', w = c :: w' ∧ q c := by
  obtain ⟨c, w', rfl⟩ := List.exists_cons_of_ne_nil (List.ne_nil_of_length_pos (h.length_pos hw))
  have taken := h.longest _ hw []
  exact ⟨c, w', rfl, hr.of_ne_zero (Nat.ne_of_gt (Nat.lt_of_lt_of_le (h.length_pos hw) taken))⟩

/-- What starts with a text of the language is not empty. -/
theorem nil_notMem_mul (h : Measures p r l) (l' : Language Char) : [] ∉ l * l' := by
  intro empty
  obtain ⟨u, hu, v, -, huv⟩ := Language.mem_mul.1 empty
  obtain rfl := (List.append_eq_nil_iff.1 huv).1
  exact h.nonempty hu

/-- A part that never goes on may be followed by anything. -/
theorem followedBy (h : Measures (fun _ => false) r l) (h' : Measures p' r' l') :
    Measures p' (r.followedBy r') (l * l') := by
  -- What is taken of a text of the concatenation.
  have size {u v : List Char} (hu : u ∈ l) (hv : v ∈ l') (rest : List Char) :
      r.followedBy r' (u ++ v ++ rest) = u.length + r' (v ++ rest) := by
    have first : r (u ++ (v ++ rest)) = u.length := h.exact hu (by simp)
    have := h.length_pos hu
    have := h'.length_pos hv
    have := h'.longest v hv rest
    rw [List.append_assoc, followedBy_eq, first, List.drop_left, if_neg (by omega)]
  constructor
  case le =>
    intro cs
    have := h.le cs
    have := h'.le (cs.drop (r cs))
    rw [followedBy_eq]
    grind
  case mem =>
    intro cs taken
    rw [followedBy_eq] at taken ⊢
    split at taken
    · simp at taken
    · rename_i both
      obtain ⟨first, second⟩ := not_or.1 both
      rw [if_neg both, List.take_add]
      exact Language.append_mem_mul (h.mem cs first) (h'.mem _ second)
  case nonempty => exact h.nil_notMem_mul _
  case longest =>
    intro w hw rest
    obtain ⟨u, hu, v, hv, rfl⟩ := Language.mem_mul.1 hw
    have := h'.longest v hv rest
    rw [size hu hv rest, List.length_append]
    omega
  case goesOn =>
    intro w hw rest longer
    obtain ⟨u, hu, v, hv, rfl⟩ := Language.mem_mul.1 hw
    rw [size hu hv rest, List.length_append] at longer
    exact h'.goesOn v hv rest (by omega)

/-- A part may be extended by another one if it does not itself go on with what the other one starts
with. -/
theorem extendedBy (h : Measures p r l) (h' : Measures p' r' l') (starts : Starts q r')
    (apart : ∀ c, p c → q c = false) :
    Measures (fun c => p c || p' c || q c) (r.extendedBy r') (l * (1 + l')) := by
  have size {u v : List Char} (hu : u ∈ l) (hv : v ∈ l') (rest : List Char) :
      r.extendedBy r' (u ++ v ++ rest) = u.length + r' (v ++ rest) := by
    obtain ⟨c, v, rfl, hc⟩ := h'.starts starts hv
    have stops : p c = false := by
      by_contra goesOn
      simp [apart c (by simpa using goesOn)] at hc
    have first : r (u ++ (c :: v ++ rest)) = u.length := h.exact hu (by simpa using stops)
    have := h.length_pos hu
    rw [List.append_assoc, extendedBy_eq, first, List.drop_left, if_neg (by omega)]
  constructor
  case le =>
    intro cs
    have := h.le cs
    have := h'.le (cs.drop (r cs))
    rw [extendedBy_eq]
    grind
  case mem =>
    intro cs taken
    rw [extendedBy_eq] at taken ⊢
    split at taken
    · simp at taken
    · rename_i first
      rw [if_neg first, List.take_add]
      refine Language.append_mem_mul (h.mem cs first) ?_
      by_cases second : r' (cs.drop (r cs)) = 0
      · rw [second, List.take_zero]
        exact .inl Language.nil_mem_one
      · exact .inr (h'.mem _ second)
  case nonempty => exact h.nil_notMem_mul _
  case longest =>
    intro w hw rest
    obtain ⟨u, hu, v, rfl | hv, rfl⟩ := Language.mem_mul.1 hw
    · have := h.longest u hu rest
      have := h.length_pos hu
      rw [List.append_nil, extendedBy_eq]
      grind
    · have := h'.longest v hv rest
      rw [size hu hv rest, List.length_append]
      omega
  case goesOn =>
    intro w hw rest longer
    obtain ⟨u, hu, v, rfl | hv, rfl⟩ := Language.mem_mul.1 hw
    · rw [List.append_nil] at longer
      have := h.longest u hu rest
      by_cases more : u.length < r (u ++ rest)
      · have := h.goesOn u hu rest more
        cases rest <;> simp_all
      · -- Only the second part can have made the match longer.
        have first : r (u ++ rest) = u.length := by omega
        rw [extendedBy_eq, first, List.drop_left] at longer
        have second : r' rest ≠ 0 := by grind
        cases rest with
        | nil => exact absurd (Nat.le_zero.1 (h'.le [])) second
        | cons c rest => simp [starts.of_ne_zero second]
    · rw [size hu hv rest, List.length_append] at longer
      have := h'.goesOn v hv rest (by omega)
      cases rest <;> simp_all

theorem either (h : Measures p r l) (h' : Measures p' r' l') (starts : Starts q r)
    (starts' : Starts q' r') (apart : ∀ c, q c → q' c = false) :
    Measures (fun c => p c || p' c) (r.either r') (l + l') := by
  have left {u : List Char} (hu : u ∈ l) (rest : List Char) :
      r.either r' (u ++ rest) = r (u ++ rest) := by
    obtain ⟨c, u, rfl, hc⟩ := h.starts starts hu
    have : r' (c :: (u ++ rest)) = 0 := starts' c _ (apart c hc)
    simp [Recognizer.either, this]
  have right {u : List Char} (hu : u ∈ l') (rest : List Char) :
      r.either r' (u ++ rest) = r' (u ++ rest) := by
    obtain ⟨c, u, rfl, hc⟩ := h'.starts starts' hu
    have missed : q c = false := by
      by_contra hq
      simp [apart c (by simpa using hq)] at hc
    have : r (c :: (u ++ rest)) = 0 := starts c _ missed
    simp [Recognizer.either, this]
  constructor
  case le => exact fun cs => Nat.max_le.2 ⟨h.le cs, h'.le cs⟩
  case mem =>
    intro cs taken
    unfold Recognizer.either at *
    rcases Nat.le_total (r' cs) (r cs) with hle | hle
    · rw [Nat.max_eq_left hle] at taken ⊢
      exact .inl (h.mem cs taken)
    · rw [Nat.max_eq_right hle] at taken ⊢
      exact .inr (h'.mem cs taken)
  case nonempty => exact not_or.2 ⟨h.nonempty, h'.nonempty⟩
  case longest =>
    rintro w (hw | hw) rest
    · rw [left hw]
      exact h.longest w hw rest
    · rw [right hw]
      exact h'.longest w hw rest
  case goesOn =>
    rintro w (hw | hw) rest longer
    · rw [left hw] at longer
      have := h.goesOn w hw rest longer
      cases rest <;> simp_all
    · rw [right hw] at longer
      have := h'.goesOn w hw rest longer
      cases rest <;> simp_all

theorem one (p : Char → Bool) : Measures (fun _ => false) (one p) (Regex.oneOf p).language := by
  have size {c : Char} (hc : p c) (rest : List Char) : Recognizer.one p ([c] ++ rest) = 1 := by
    simp [Recognizer.one, hc]
  constructor
  case le =>
    intro cs
    cases cs <;> grind [Recognizer.one]
  case mem =>
    intro cs taken
    cases cs with
    | nil => simp [Recognizer.one] at taken
    | cons c cs =>
      have hc : p c := by simpa [Recognizer.one] using taken
      exact ⟨c, hc, by simp [Recognizer.one, hc]⟩
  case nonempty => simp
  case longest =>
    rintro _ ⟨c, hc, rfl⟩ rest
    exact Nat.le_of_eq (size hc rest).symm
  case goesOn =>
    rintro _ ⟨c, hc, rfl⟩ rest longer
    exact absurd (size hc rest) (Nat.ne_of_gt longer)

theorem run (p : Char → Bool) : Measures p (run p) (Regex.plus (.oneOf p)).language := by
  have size {w : List Char} (hw : w.all p) (rest : List Char) :
      Recognizer.run p (w ++ rest) = w.length + Recognizer.run p rest := by
    simp [Recognizer.run, List.takeWhile_append_of_pos (List.all_eq_true.1 hw)]
  constructor
  case le => exact fun cs => (List.takeWhile_sublist p).length_le
  case mem =>
    intro cs taken
    have front : cs.take (Recognizer.run p cs) = cs.takeWhile p :=
      (List.prefix_iff_eq_take.1 (List.takeWhile_prefix p)).symm
    rw [front]
    exact Regex.mem_plus_oneOf.2 ⟨fun h => taken (by simp [Recognizer.run, h]), List.all_takeWhile⟩
  case nonempty => simp
  case longest =>
    intro w hw rest
    have := size (Regex.mem_plus_oneOf.1 hw).2 rest
    omega
  case goesOn =>
    intro w hw rest longer
    rw [size (Regex.mem_plus_oneOf.1 hw).2 rest] at longer
    cases rest with
    | nil => simp [Recognizer.run] at longer
    | cons c rest =>
      by_contra stops
      simp_all [Recognizer.run]

theorem exactly {spelling : List Char} (hne : spelling ≠ []) :
    Measures (fun _ => false) (exactly spelling) (Regex.literal spelling).language := by
  have size (rest : List Char) : Recognizer.exactly spelling (spelling ++ rest) = spelling.length :=
    if_pos (List.isPrefixOf_iff_prefix.2 (List.prefix_append ..))
  constructor
  case le =>
    intro cs
    by_cases h : spelling <+: cs
    · obtain ⟨rest, rfl⟩ := h
      simp [size]
    · simp [exactly_of_missed h]
  case mem =>
    intro cs taken
    by_cases h : spelling <+: cs
    · obtain ⟨rest, rfl⟩ := h
      simp [size]
    · exact absurd (exactly_of_missed h) taken
  case nonempty => simpa using hne.symm
  case longest =>
    intro w hw rest
    obtain rfl := Regex.mem_literal.1 hw
    exact Nat.le_of_eq (size rest).symm
  case goesOn =>
    intro w hw rest longer
    obtain rfl := Regex.mem_literal.1 hw
    exact absurd (size rest) (Nat.ne_of_gt longer)

/-- A part that may be repeated at will. -/
theorem extendedBy_run (h : Measures p r l) (q : Char → Bool) (apart : ∀ c, p c → q c = false) :
    Measures (fun c => p c || q c) (r.extendedBy (Recognizer.run q))
      (l * (Regex.star (.oneOf q)).language) := by
  have starts : Starts q (Recognizer.run q) := fun c cs hc => by simp [Recognizer.run, hc]
  have repeated : 1 + (Regex.plus (.oneOf q)).language = (Regex.star (.oneOf q)).language :=
    Language.one_add_self_mul_kstar_eq_kstar _
  have := h.extendedBy (run q) starts apart
  rw [repeated] at this
  simpa only [Bool.or_assoc, Bool.or_self] using this

/-- Where nothing follows, nothing follows that could be taken. -/
theorem of_longest (le : ∀ cs, r cs ≤ cs.length) (mem : ∀ cs, r cs ≠ 0 → cs.take (r cs) ∈ l)
    (nonempty : [] ∉ l) (longest : ∀ w ∈ l, ∀ rest, w.length ≤ r (w ++ rest)) :
    Measures (fun _ => true) r l := by
  refine ⟨le, mem, nonempty, longest, fun w _ rest longer => ?_⟩
  have := le (w ++ rest)
  cases rest with
  | nil => grind
  | cons c rest => rfl

end Measures

/-! ## Literals between quotes -/

section Literals

open Lexeme (literalUnit openLiteral)

variable {quote : Char}

/-- The body of a literal is scanned unit by unit. -/
theorem literalBody_units (hw : w ∈ (Regex.star (literalUnit quote)).language) (seen : Nat)
    (rest : List Char) :
    literalBody quote seen (w ++ rest) = literalBody quote (seen + w.length) rest := by
  refine Regex.star_induction (motive := fun w => ∀ seen,
    literalBody quote seen (w ++ rest) = literalBody quote (seen + w.length) rest)
    (fun _ => rfl) (fun u v hu _ ih seen => ?_) hw seen
  obtain ⟨c, hc, rfl⟩ | ⟨_, ⟨_, escape, rfl⟩, _, ⟨c, hc, rfl⟩, rfl⟩ := hu
  · obtain ⟨notQuote, notEscape, notNewline⟩ := of_decide_eq_true hc
    have step : literalBody quote seen (c :: (v ++ rest)) = _ := literalBody_cons notEscape
    rw [if_neg notQuote, if_neg notNewline, ih] at step
    simpa [Nat.add_assoc, Nat.add_comm 1] using step
  · obtain rfl := of_decide_eq_true escape
    have hc := of_decide_eq_true hc
    have step : literalBody quote seen ('\\' :: c :: (v ++ rest)) = _ := literalBody.eq_2 ..
    rw [if_neg hc, ih] at step
    simpa [Nat.add_assoc, Nat.add_comm 2] using step

theorem literalBody_open (hw : w ∈ (Regex.star (literalUnit quote)).language) (seen : Nat) :
    literalBody quote seen w = (seen + w.length, false) := by
  simpa [literalBody] using literalBody_units hw seen []

theorem literalBody_closed (hquote : quote ≠ '\\')
    (hw : w ∈ (Regex.star (literalUnit quote)).language) (seen : Nat) (rest : List Char) :
    literalBody quote seen (w ++ quote :: rest) = (seen + w.length, true) := by
  rw [literalBody_units hw, literalBody_cons hquote, if_pos rfl]

/-- What is scanned of a literal are units, and if it is closed then its quote follows. -/
theorem exists_units (quote : Char) (seen : Nat) (cs : List Char) :
    ∃ w rest, cs = w ++ rest ∧ w ∈ (Regex.star (literalUnit quote)).language ∧
      (literalBody quote seen cs).1 = seen + w.length ∧
      ((literalBody quote seen cs).2 → rest.head? = some quote) := by
  have none (seen : Nat) (cs : List Char) : ∃ w rest, cs = w ++ rest ∧
      w ∈ (Regex.star (literalUnit quote)).language ∧ seen = seen + w.length ∧
      (false → rest.head? = some quote) := ⟨[], cs, rfl, Regex.nil_mem_star _, rfl, by simp⟩
  fun_induction literalBody quote seen cs with
  | case1 seen => exact none seen []
  | case2 seen cs => exact none seen _
  | case3 seen c cs hc ih =>
    obtain ⟨w, rest, rfl, hw, hsize, hquote⟩ := ih
    have unit : ['\\', c] ∈ (literalUnit quote).language :=
      .inr ⟨['\\'], ⟨_, rfl, rfl⟩, [c], ⟨c, by simpa using hc, rfl⟩, rfl⟩
    refine ⟨['\\', c] ++ w, rest, rfl, Regex.append_mem_star unit hw, ?_, hquote⟩
    simp [hsize, Nat.add_assoc, Nat.add_comm 2]
  | case4 seen cs _ => exact ⟨[], quote :: cs, rfl, Regex.nil_mem_star _, rfl, fun _ => rfl⟩
  | case5 seen c cs _ _ _ => exact none seen _
  | case6 seen c cs _ notQuote goesOn ih =>
    obtain ⟨w, rest, rfl, hw, hsize, hquote⟩ := ih
    have unit : [c] ∈ (literalUnit quote).language :=
      .inl ⟨c, by simp_all, rfl⟩
    refine ⟨[c] ++ w, rest, rfl, Regex.append_mem_star unit hw, ?_, hquote⟩
    simp [hsize, Nat.add_assoc, Nat.add_comm 1]

theorem quoted_true_cons (quote : Char) (cs : List Char) :
    quoted quote true (quote :: cs) =
      if (literalBody quote 1 cs).2 then (literalBody quote 1 cs).1 + 1 else 0 := by
  rcases h : literalBody quote 1 cs with ⟨size, _ | _⟩ <;> simp [quoted, h]

theorem quoted_false_cons (quote : Char) (cs : List Char) :
    quoted quote false (quote :: cs) = (literalBody quote 1 cs).1 := by
  simp [quoted]

theorem mem_openLiteral :
    w ∈ (openLiteral quote).language ↔
      ∃ body ∈ (Regex.star (literalUnit quote)).language, w = quote :: body := by
  simp [openLiteral, eq_comm]

theorem mem_closedLiteral :
    w ∈ ((openLiteral quote).append (.literal [quote])).language ↔
      ∃ body ∈ (Regex.star (literalUnit quote)).language, w = quote :: (body ++ [quote]) := by
  simp [mem_openLiteral, eq_comm]

theorem measures_openLiteral (quote : Char) :
    Measures (fun _ => true) (quoted quote false) (openLiteral quote).language := by
  refine .of_longest ?le ?mem ?nonempty ?longest
  case le =>
    intro cs
    by_cases opens : [quote] <+: cs
    · obtain ⟨cs, rfl⟩ := opens
      obtain ⟨w, rest, rfl, -, hsize, -⟩ := exists_units quote 1 cs
      have := quoted_false_cons quote (w ++ rest)
      simp_all
      omega
    · simp [quoted_of_missed opens]
  case mem =>
    intro cs taken
    by_cases opens : [quote] <+: cs
    · obtain ⟨cs, rfl⟩ := opens
      obtain ⟨w, rest, rfl, hw, hsize, -⟩ := exists_units quote 1 cs
      refine mem_openLiteral.2 ⟨w, hw, ?_⟩
      rw [List.singleton_append, quoted_false_cons, hsize, Nat.add_comm]
      simp
    · exact absurd (quoted_of_missed opens) taken
  case nonempty => simp [mem_openLiteral]
  case longest =>
    intro w hw rest
    obtain ⟨body, hbody, rfl⟩ := mem_openLiteral.1 hw
    obtain ⟨more, -, -, -, hsize, -⟩ := exists_units quote (1 + body.length) rest
    rw [List.cons_append, quoted_false_cons, literalBody_units hbody, hsize, List.length_cons]
    omega

theorem measures_closedLiteral (hquote : quote ≠ '\\') :
    Measures (fun _ => true) (quoted quote true)
      ((openLiteral quote).append (.literal [quote])).language := by
  refine .of_longest (fun _ => quoted_le hquote) ?mem ?nonempty ?longest
  case mem =>
    intro cs taken
    by_cases opens : [quote] <+: cs
    · obtain ⟨cs, rfl⟩ := opens
      obtain ⟨w, rest, rfl, hw, hsize, hclosed⟩ := exists_units quote 1 cs
      rw [List.singleton_append, quoted_true_cons] at taken ⊢
      split at taken
      · rename_i closed
        obtain ⟨rest, rfl⟩ := List.head?_eq_some_iff.1 (hclosed closed)
        refine mem_closedLiteral.2 ⟨w, hw, ?_⟩
        rw [if_pos closed, hsize, Nat.add_comm 1]
        simp [List.take_append]
      · exact absurd rfl taken
    · exact absurd (quoted_of_missed opens) taken
  case nonempty => simp
  case longest =>
    intro w hw rest
    obtain ⟨body, hbody, rfl⟩ := mem_closedLiteral.1 hw
    rw [List.cons_append, quoted_true_cons, List.append_assoc, List.singleton_append,
      literalBody_closed hquote hbody]
    simp [Nat.add_comm]

end Literals

/-! ## Regions with a closing delimiter -/

section Regions

open Lexeme (Body EndsFirst)

variable {opener closer : List Char}

theorem endsFirst_self (closer : List Char) : EndsFirst closer closer where
  ended := List.suffix_rfl
  first _ front ends := front.eq_of_length_le ends.length_le

/-- One more character in front of a body, if the closer does not start with it. -/
theorem endsFirst_cons {c : Char} {body rest : List Char} (hne : closer ≠ [])
    (missed : ¬closer <+: c :: (body ++ rest)) (h : EndsFirst closer body) :
    EndsFirst closer (c :: body) where
  ended := h.ended.trans (List.suffix_cons c body)
  first front hfront ends := by
    cases front with
    | nil => exact absurd (List.suffix_nil.1 ends) hne
    | cons d front =>
      obtain ⟨rfl, tail⟩ := List.cons_prefix_cons.1 hfront
      rcases List.suffix_cons_iff.1 ends with rfl | ends
      · have := tail.trans (List.prefix_append body rest)
        exact absurd (List.cons_prefix_cons.2 ⟨rfl, this⟩) missed
      · rw [h.first front tail ends]

/-- What is passed up to the first closer, or to the end. -/
theorem upTo_body (hne : closer ≠ []) {seen size : Nat} {cs : List Char} {closed : Bool}
    (h : upTo closer seen cs = (size, closed)) :
    ∃ body rest, cs = body ++ rest ∧ size = seen + body.length ∧ Body closer closed body rest := by
  induction cs generalizing seen with
  | nil =>
    obtain ⟨rfl, rfl⟩ := Prod.mk.inj h
    exact ⟨[], [], rfl, rfl, .open (by simpa using hne)⟩
  | cons c cs ih =>
    rw [upTo] at h
    split at h
    · rename_i found
      obtain ⟨rest, hrest⟩ := List.isPrefixOf_iff_prefix.1 found
      obtain ⟨rfl, rfl⟩ := Prod.mk.inj h
      exact ⟨closer, rest, hrest.symm, rfl, .closed (endsFirst_self closer)⟩
    · rename_i missed
      have missed := mt List.isPrefixOf_iff_prefix.2 missed
      obtain ⟨body, rest, rfl, rfl, body_spec⟩ := ih h
      refine ⟨c :: body, rest, rfl, by rw [List.length_cons]; omega, ?_⟩
      cases body_spec with
      | closed ends => exact .closed (endsFirst_cons hne missed ends)
      | «open» never =>
        rw [List.append_nil] at missed
        exact .open fun inside => (List.infix_cons_iff.1 inside).elim missed never

/-- A region is its opener and its body. -/
theorem enclosed_body (hne : closer ≠ []) {closed : Bool} {cs : List Char}
    (h : enclosed opener closer closed cs ≠ 0) :
    ∃ body rest, cs = opener ++ (body ++ rest) ∧
      enclosed opener closer closed cs = (opener ++ body).length ∧
      Body closer closed body rest := by
  by_cases opens : opener <+: cs
  · obtain ⟨cs, rfl⟩ := opens
    rcases hbody : upTo closer opener.length cs with ⟨size, found⟩
    obtain ⟨body, rest, rfl, rfl, body_spec⟩ := upTo_body hne hbody
    have value : enclosed opener closer closed (opener ++ (body ++ rest)) =
        if found = closed then opener.length + body.length else 0 := by
      simp [enclosed, hbody]
    rw [value] at h ⊢
    split at h
    · rename_i same
      subst same
      exact ⟨body, rest, rfl, by simp, body_spec⟩
    · exact absurd rfl h
  · exact absurd (enclosed_of_missed opens) h

/-- Behind its opener there is a region, closed or not. -/
theorem exists_enclosed (opener : List Char) (hne : closer ≠ []) (cs : List Char) :
    ∃ closed, opener.length ≤ enclosed opener closer closed (opener ++ cs) := by
  rcases hbody : upTo closer opener.length cs with ⟨size, found⟩
  obtain ⟨body, rest, rfl, rfl, -⟩ := upTo_body hne hbody
  exact ⟨found, by simp [enclosed, hbody]⟩

end Regions

end Recognizer

end JavaLens
