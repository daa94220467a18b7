import JavaLens.Json

/-!
# Reading JSON

A reader for JSON texts. Each function takes the characters that are left and gives what it read
with the characters behind it.

## Main definitions

* `Json.parse?` — the value that a text denotes, if it is JSON.
-/

namespace JavaLens.Json

namespace Reader

/-- The characters from the first that is no blank. -/
def skipBlanks (cs : List Char) : List Char :=
  cs.dropWhile fun c => c = ' ' ∨ c = '\t' ∨ c = '\n' ∨ c = '\r'

/-- The value of a hexadecimal digit. -/
def hexDigit? (c : Char) : Option Nat :=
  if c.isDigit then some (c.toNat - '0'.toNat)
  else if 'a' ≤ c ∧ c ≤ 'f' then some (c.toNat - 'a'.toNat + 10)
  else if 'A' ≤ c ∧ c ≤ 'F' then some (c.toNat - 'A'.toNat + 10)
  else none

/-- The code unit that four hexadecimal digits stand for. -/
def codeUnit? (a b c d : Char) : Option Nat := do
  let a ← hexDigit? a
  let b ← hexDigit? b
  let c ← hexDigit? c
  let d ← hexDigit? d
  return ((a * 16 + b) * 16 + c) * 16 + d

/-- The character that a backslash and `c` stand for. -/
def escaped? : Char → Option Char
  | '"' => some '"'
  | '\\' => some '\\'
  | '/' => some '/'
  | 'b' => some '\x08'
  | 'f' => some '\x0c'
  | 'n' => some '\n'
  | 'r' => some '\r'
  | 't' => some '\t'
  | _ => none

/-- The rest of a string whose opening quote and characters `done`, last first, are read. A code
unit of a surrogate pair must have its partner. -/
def text (done : List Char) : List Char → Option (String × List Char)
  | [] => none
  | '"' :: rest => some (String.ofList done.reverse, rest)
  | '\\' :: 'u' :: a :: b :: c :: d :: rest =>
    match codeUnit? a b c d with
    | none => none
    | some unit =>
      if unit < 0xD800 ∨ 0xDFFF < unit then text (Char.ofNat unit :: done) rest
      else if unit < 0xDC00 then
        match rest with
        | '\\' :: 'u' :: e :: f :: g :: h :: rest =>
          match codeUnit? e f g h with
          | none => none
          | some low =>
            if 0xDC00 ≤ low ∧ low ≤ 0xDFFF then
              text (Char.ofNat (0x10000 + (unit - 0xD800) * 0x400 + (low - 0xDC00)) :: done) rest
            else none
        | _ => none
      else none
  | '\\' :: c :: rest =>
    match escaped? c with
    | none => none
    | some c => text (c :: done) rest
  | c :: rest => if c < ' ' then none else text (c :: done) rest

/-- The digits at the front, of which there must be one. -/
def digits? (cs : List Char) : Option (List Char × List Char) :=
  match cs.span Char.isDigit with
  | ([], _) => none
  | found => some found

/-- The digits behind a point, none when there is no point. -/
def fraction? : List Char → Option (List Char × List Char)
  | '.' :: cs => digits? cs
  | cs => some ([], cs)

/-- The exponent, if there is one. -/
def exponent? : List Char → Option (Option Int × List Char)
  | c :: cs =>
    if c = 'e' ∨ c = 'E' then
      match cs with
      | '-' :: cs => (digits? cs).map fun (ds, rest) => (some (-(Decimal.ofDigits ds : Int)), rest)
      | '+' :: cs => (digits? cs).map fun (ds, rest) => (some (Decimal.ofDigits ds : Int), rest)
      | cs => (digits? cs).map fun (ds, rest) => (some (Decimal.ofDigits ds : Int), rest)
    else some (none, c :: cs)
  | [] => some (none, [])

/-- Whether a whole number has at most 64 bits, with a sign or without. -/
def isWord (n : Int) : Bool := -Int.pow 2 63 ≤ n ∧ n < Int.pow 2 64

/-- A number behind its sign. A leading zero stands alone. It is whole if it is written so and has
at most 64 bits, and if it is no zero with a minus. It must not be too large. -/
def unsigned? (negative : Bool) (cs : List Char) : Option (Json × List Char) := do
  let (whole, rest) ← digits? cs
  guard (whole.length = 1 ∨ whole.head? ≠ some '0')
  let (fraction, rest) ← fraction? rest
  let (exponent, rest) ← exponent? rest
  let size := Decimal.ofDigits (whole ++ fraction)
  let value : Int := if negative then -size else size
  if fraction.isEmpty ∧ exponent.isNone ∧ isWord value ∧ ¬(negative ∧ size = 0) then
    return (.int value, rest)
  let x := Binary.ofDecimal ⟨size, exponent.getD 0 - fraction.length⟩
  guard !x.isSpecial
  return (.float (if negative then x.neg else x), rest)

/-- A number. -/
def number? : List Char → Option (Json × List Char)
  | '-' :: cs => unsigned? true cs
  | cs => unsigned? false cs

mutual

/-- A value, read with at most `fuel` nested calls. -/
def value? : Nat → List Char → Option (Json × List Char)
  | 0, _ => none
  | fuel + 1, cs =>
    match skipBlanks cs with
    | '\x7b' :: rest =>
      match skipBlanks rest with
      | '\x7d' :: rest => some (.object [], rest)
      | rest => members? fuel #[] rest
    | '[' :: rest =>
      match skipBlanks rest with
      | ']' :: rest => some (.array [], rest)
      | rest => items? fuel #[] rest
    | '"' :: rest => (text [] rest).map fun (s, rest) => (.string s, rest)
    | 't' :: 'r' :: 'u' :: 'e' :: rest => some (.bool true, rest)
    | 'f' :: 'a' :: 'l' :: 's' :: 'e' :: rest => some (.bool false, rest)
    | 'n' :: 'u' :: 'l' :: 'l' :: rest => some (.null, rest)
    | rest => number? rest

/-- The rest of an array behind the items `done`. -/
def items? : Nat → Array Json → List Char → Option (Json × List Char)
  | 0, _, _ => none
  | fuel + 1, done, cs =>
    match value? fuel cs with
    | none => none
    | some (item, rest) =>
      match skipBlanks rest with
      | ',' :: rest => items? fuel (done.push item) rest
      | ']' :: rest => some (.array (done.push item).toList, rest)
      | _ => none

/-- The rest of an object behind the fields `done`. -/
def members? : Nat → Array (String × Json) → List Char → Option (Json × List Char)
  | 0, _, _ => none
  | fuel + 1, done, cs =>
    match skipBlanks cs with
    | '"' :: rest =>
      match text [] rest with
      | none => none
      | some (name, rest) =>
        match skipBlanks rest with
        | ':' :: rest =>
          match value? fuel rest with
          | none => none
          | some (value, rest) =>
            match skipBlanks rest with
            | ',' :: rest => members? fuel (done.push (name, value)) rest
            | '\x7d' :: rest => some (.object (done.push (name, value)).toList, rest)
            | _ => none
        | _ => none
    | _ => none

end

end Reader

/-- The value that a text denotes. Each nested call reads a character, so the length of the text
bounds their number. -/
def parse? (source : String) : Option Json :=
  let cs := source.toList
  match Reader.value? (cs.length + 1) cs with
  | some (value, rest) => if (Reader.skipBlanks rest).isEmpty then some value else none
  | none => none

end JavaLens.Json
