import JavaLens.Toml
import JavaLens.Toml.Moment
import JavaLens.Toml.Text

/-!
# Numbers and other words in TOML

Values without delimiters of their own: truth values, numbers, dates and times.

## Main definitions

* `Toml.word?` — the value that a word denotes.
-/

namespace JavaLens.Toml

/-- The digits of a number without the underscores, each of which stands between two digits. -/
def digits? (isDigit : Char → Bool) (cs : List Char) : Option (List Char) :=
  if cs.head?.any isDigit && cs.getLast?.any isDigit && cs.all (fun c => isDigit c || c = '_') &&
      (cs.zip cs.tail).all (fun (a, b) => a ≠ '_' || b ≠ '_')
  then some (cs.filter (· ≠ '_'))
  else none

/-- A whole number that fits into 64 bits. -/
def bounded? (n : Int) : Option Toml :=
  if -Int.pow 2 63 ≤ n ∧ n < Int.pow 2 63 then some (.int n) else none

/-- A number in a base other than ten, behind the letter for the base. -/
def based? (base : Nat) (cs : List Char) : Option Toml := do
  let isDigit c := (hexDigit? c).any (· < base)
  let ds ← digits? isDigit cs
  bounded? ((ds.filterMap hexDigit?).foldl (fun n d => n * base + d) 0 : Nat)

/-- The digits before the point, which do not start with a zero unless it stands alone. -/
def whole? (cs : List Char) : Option (List Char) :=
  match digits? Char.isDigit cs with
  | some ('0' :: _ :: _) => none
  | found => found

/-- The power of ten behind the letter for it. -/
def exponent? : List Char → Option Int
  | '-' :: cs => (digits? Char.isDigit cs).map fun ds => -(Decimal.ofDigits ds : Int)
  | '+' :: cs => (digits? Char.isDigit cs).map fun ds => (Decimal.ofDigits ds : Int)
  | cs => (digits? Char.isDigit cs).map fun ds => (Decimal.ofDigits ds : Int)

/-- A number with its fraction and exponent, of which each may be missing; the fraction comes with
its point and the exponent with its letter. -/
def float? (negative : Bool) (whole fraction exponent : List Char) : Option Toml := do
  let whole ← whole? whole
  let fraction ← match fraction with
    | [] => some []
    | _ :: ds => digits? Char.isDigit ds
  let exponent ← match exponent with
    | [] => some 0
    | _ :: ds => exponent? ds
  let size := Decimal.ofDigits (whole ++ fraction)
  let value := Binary.ofDecimal ⟨size, exponent - fraction.length⟩
  -- Only numbers above zero can be too large.
  guard (negative ∨ value ≠ Binary.infinity)
  return .float (if negative then value.neg else value)

/-- A decimal number without its sign. -/
def decimal? (negative : Bool) (cs : List Char) : Option Toml :=
  let (whole, rest) := cs.span fun c => c ≠ '.' ∧ c ≠ 'e' ∧ c ≠ 'E'
  let (fraction, exponent) := rest.span fun c => c ≠ 'e' ∧ c ≠ 'E'
  if rest.isEmpty then do
    let ds ← whole? whole
    let size : Int := Decimal.ofDigits ds
    bounded? (if negative then -size else size)
  else float? negative whole fraction exponent

/-- A number that may have a sign. -/
def signed? (negative : Bool) : List Char → Option Toml
  | ['i', 'n', 'f'] => some (.float (if negative then Binary.infinity.neg else Binary.infinity))
  | ['n', 'a', 'n'] => some (.float (if negative then Binary.nan.neg else Binary.nan))
  | cs => decimal? negative cs

/-- The value that a word denotes. -/
def word? (cs : List Char) : Option Toml :=
  match cs with
  | ['t', 'r', 'u', 'e'] => some (.bool true)
  | ['f', 'a', 'l', 's', 'e'] => some (.bool false)
  | '0' :: 'x' :: ds => based? 16 ds
  | '0' :: 'o' :: ds => based? 8 ds
  | '0' :: 'b' :: ds => based? 2 ds
  | '+' :: rest => signed? false rest
  | '-' :: rest => signed? true rest
  | cs =>
    match moment? cs with
    | some text => some (.moment text)
    | none => signed? false cs

end JavaLens.Toml
