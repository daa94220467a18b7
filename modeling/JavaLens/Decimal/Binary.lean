import JavaLens.Decimal

/-!
# Binary numbers in decimal

Numbers with a fraction are kept in the 64-bit binary format and written with the fewest digits that
read back as the same number.

## Main definitions

* `Binary` — a number in the 64-bit binary format.
* `Binary.ofDecimal` — the binary number nearest to a decimal one.
* `Binary.shortest` — the fewest digits that read back.
* `Binary.text` — the number as text.
-/

namespace JavaLens

/-- A number in the 64-bit binary format. -/
structure Binary where
  bits : UInt64
deriving DecidableEq, Repr, Inhabited

namespace Binary

/-- Positive infinity. -/
def infinity : Binary := ⟨0x7FF0000000000000⟩

/-- Positive zero. -/
def zero : Binary := ⟨0⟩

/-- The value that is no number. -/
def nan : Binary := ⟨0x7FF8000000000000⟩

/-- The number with the opposite sign. -/
def neg (b : Binary) : Binary := ⟨b.bits ^^^ 0x8000000000000000⟩

/-- The binary number nearest to a decimal one. The format ends far below `10 ^ 400` and above
`10 ^ -400`. -/
def ofDecimal (d : Decimal) : Binary :=
  let mantissa := d.mantissa.natAbs
  let digits : Int := mantissa.repr.length
  let size :=
    if mantissa = 0 ∨ digits + d.exponent < -400 then zero
    else if 400 < digits + d.exponent then infinity
    else ⟨(Float.ofScientific mantissa (d.exponent < 0) d.exponent.natAbs).toBits⟩
  if d.mantissa < 0 then size.neg else size

/-- Whether the sign is a minus. -/
def isNegative (b : Binary) : Bool := b.bits >>> 63 = 1

/-- The bits of the exponent. -/
def exponentBits (b : Binary) : Nat := ((b.bits >>> 52) &&& 0x7FF).toNat

/-- The bits of the fraction. -/
def fractionBits (b : Binary) : Nat := (b.bits &&& 0xFFFFFFFFFFFFF).toNat

/-- Whether the value is zero, of either sign. -/
def isZero (b : Binary) : Bool := b.exponentBits = 0 && b.fractionBits = 0

/-- Whether the value is an infinity or no number. -/
def isSpecial (b : Binary) : Bool := b.exponentBits = 0x7FF

/-! ## The size of a finite number -/

/-- A size `significand * 2 ^ exponent`. -/
structure Size where
  significand : Nat
  exponent : Int
  /-- The next smaller size is half as far away as the next larger one. -/
  narrowBelow : Bool

/-- The size of a finite number. -/
def size (b : Binary) : Size :=
  if b.exponentBits = 0 then ⟨b.fractionBits, -1074, false⟩
  else
    ⟨Nat.pow 2 52 + b.fractionBits, (b.exponentBits : Int) - 1075,
      b.fractionBits = 0 && 1 < b.exponentBits⟩

/-- Compares `a * 10 ^ i` with `n * 2 ^ j`. -/
def compareScaled (a : Nat) (i : Int) (n : Nat) (j : Int) : Ordering :=
  compare (a * Nat.pow 10 i.toNat * Nat.pow 2 (-j).toNat)
    (n * Nat.pow 2 j.toNat * Nat.pow 10 (-i).toNat)

/-- Whether `digits * 10 ^ exponent` lies among the numbers to which the size is nearest. An end of
that interval belongs to it if the significand is even. -/
def Size.readsBack (x : Size) (digits : Nat) (exponent : Int) : Bool :=
  let lowEnd := if x.narrowBelow then 4 * x.significand - 1 else 4 * x.significand - 2
  let highEnd := 4 * x.significand + 2
  let low := compareScaled digits exponent lowEnd (x.exponent - 2)
  let high := compareScaled digits exponent highEnd (x.exponent - 2)
  let even := x.significand % 2 = 0
  (low = .gt ∨ (even ∧ low = .eq)) ∧ (high = .lt ∨ (even ∧ high = .eq))

/-- The least power of ten above the size, which is not zero: estimated from the binary logarithm,
and corrected. -/
def Size.scale (x : Size) : Int :=
  let estimate := ((x.significand.log2 : Int) + x.exponent) * 30103 / 100000
  if compareScaled 1 (estimate + 1) x.significand x.exponent = .gt then estimate + 1
  else estimate + 2

/-- The largest number of digits on the grid `10 ^ exponent` that does not exceed the size. -/
def Size.floorOn (x : Size) (exponent : Int) : Nat :=
  (x.significand * Nat.pow 2 x.exponent.toNat * Nat.pow 10 (-exponent).toNat) /
    (Nat.pow 2 (-x.exponent).toNat * Nat.pow 10 exponent.toNat)

/-- The digits on the grid `10 ^ exponent` that read back. Of two neighbours the nearer is taken,
and the upper one if they are equally near. -/
def Size.onGrid? (x : Size) (exponent : Int) : Option Nat :=
  let below := x.floorOn exponent
  match x.readsBack below exponent, x.readsBack (below + 1) exponent with
  | true, true =>
    -- Twice the size is compared with the sum of the two.
    if compareScaled (2 * below + 1) exponent (2 * x.significand) x.exponent = .gt then some below
    else some (below + 1)
  | true, false => some below
  | false, true => some (below + 1)
  | false, false => none

/-- The digits without the zeros at their end, which go into the power of ten. -/
def stripZeros (digits : Nat) (exponent : Int) : Nat × Int :=
  if digits ≠ 0 ∧ digits % 10 = 0 then stripZeros (digits / 10) (exponent + 1)
  else (digits, exponent)
termination_by digits
decreasing_by omega

/-- The fewest digits that read back as the size, and their power of ten. Seventeen digits always
do. -/
def Size.shortest (x : Size) : Nat × Int :=
  let scale := x.scale
  let found := (List.range 17).findSome? fun n =>
    let exponent := scale - (n + 1 : Nat)
    (x.onGrid? exponent).map (stripZeros · exponent)
  found.getD (x.floorOn (scale - 17), scale - 17)

/-- The number as text: the fewest digits, without an exponent, and without a fraction if it is
whole. -/
def text (b : Binary) : String :=
  if b.isSpecial && b.fractionBits ≠ 0 then "NaN"
  else
    let sign := if b.isNegative then "-" else ""
    if b.isSpecial then sign ++ "inf"
    else if b.isZero then sign ++ "0"
    else
      let (digits, exponent) := b.size.shortest
      sign ++ Decimal.positional digits exponent

/-- The number as text, with a fraction also if it is whole. -/
def textWithPoint (b : Binary) : String :=
  if b.isSpecial || b.text.contains '.' then b.text else b.text ++ ".0"

end Binary

end JavaLens
