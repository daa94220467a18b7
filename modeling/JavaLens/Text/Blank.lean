/-!
# Blank text

## Main definitions

* `Text.isBlankChar` — the characters with the Unicode property `White_Space`.
* `Text.isBlank` — text of such characters only.
* `Text.trim` — text without such characters at its ends.
-/

namespace JavaLens.Text

/-- The ranges of the characters with the Unicode property `White_Space`. -/
def blankRanges : List (Nat × Nat) :=
  [(0x09, 0x0d), (0x20, 0x20), (0x85, 0x85), (0xa0, 0xa0), (0x1680, 0x1680), (0x2000, 0x200a),
    (0x2028, 0x2029), (0x202f, 0x202f), (0x205f, 0x205f), (0x3000, 0x3000)]

/-- Whether a character has the Unicode property `White_Space`. -/
def isBlankChar (c : Char) : Bool := blankRanges.any fun (lo, hi) => lo ≤ c.toNat ∧ c.toNat ≤ hi

/-- Whether a text has blank characters only. -/
def isBlank (s : String) : Bool := s.toList.all isBlankChar

/-- The characters without the blank ones at both ends. -/
def trim (cs : List Char) : List Char :=
  ((cs.dropWhile isBlankChar).reverse.dropWhile isBlankChar).reverse

end JavaLens.Text
