/-!
# Decimal numbers

Numbers as they are written: a whole number of digits, scaled by a power of ten.

## Main definitions

* `Decimal` — an exact decimal number.
* `Decimal.ofDigits` — the number that digits denote.
* `Decimal.positional` — a number written without an exponent.
-/

namespace JavaLens

/-- The number `mantissa * 10 ^ exponent`. -/
structure Decimal where
  mantissa : Int
  exponent : Int
deriving DecidableEq, Repr, Inhabited

namespace Decimal

/-- The number that decimal digits denote. -/
def ofDigits (ds : List Char) : Nat := ds.foldl (fun n d => n * 10 + (d.toNat - '0'.toNat)) 0

/-- The digits `digits` scaled by a power of ten, written without an exponent. -/
def positional (digits : Nat) (exponent : Int) : String :=
  let ds := digits.repr.toList
  if 0 ≤ exponent then String.ofList (ds ++ List.replicate exponent.toNat '0')
  else
    let places := (-exponent).toNat
    -- There is always a digit before the point.
    let padded := List.replicate (places + 1 - ds.length) '0' ++ ds
    let whole := padded.length - places
    String.ofList (padded.take whole ++ '.' :: padded.drop whole)

end Decimal

end JavaLens
