import JavaLens.Decimal

/-!
# Dates and times in TOML

## Main definitions

* `Toml.moment?` — the canonical form of a date, a time or both.
-/

namespace JavaLens.Toml

/-- The number that two digits denote. -/
def twoDigits? (a b : Char) : Option Nat :=
  if a.isDigit ∧ b.isDigit then some (Decimal.ofDigits [a, b]) else none

/-- The number of days of a month. -/
def daysInMonth (year month : Nat) : Nat :=
  if month = 2 then
    if (year % 4 = 0 ∧ year % 100 ≠ 0) ∨ year % 400 = 0 then 29 else 28
  else if month = 4 ∨ month = 6 ∨ month = 9 ∨ month = 11 then 30
  else 31

/-- A date, as it is written, with what follows it. -/
def date? : List Char → Option (String × List Char)
  | y1 :: y2 :: y3 :: y4 :: '-' :: m1 :: m2 :: '-' :: d1 :: d2 :: rest => do
    let century ← twoDigits? y1 y2
    let year ← twoDigits? y3 y4
    let month ← twoDigits? m1 m2
    let day ← twoDigits? d1 d2
    guard (1 ≤ month ∧ month ≤ 12 ∧ 1 ≤ day ∧ day ≤ daysInMonth (century * 100 + year) month)
    return (String.ofList [y1, y2, y3, y4, '-', m1, m2, '-', d1, d2], rest)
  | _ => none

/-- The fraction of a second, to nine places and without the zeros at its end. -/
def secondFraction (ds : List Char) : String :=
  match ((ds.take 9).reverse.dropWhile (· = '0')).reverse with
  | [] => ""
  | ds => String.ofList ('.' :: ds)

/-- A time of day in its canonical form, with what follows it. -/
def time? : List Char → Option (String × List Char)
  | h1 :: h2 :: ':' :: m1 :: m2 :: ':' :: s1 :: s2 :: rest => do
    let hour ← twoDigits? h1 h2
    let minute ← twoDigits? m1 m2
    let second ← twoDigits? s1 s2
    guard (hour ≤ 23 ∧ minute ≤ 59 ∧ second ≤ 60)
    let text := String.ofList [h1, h2, ':', m1, m2, ':', s1, s2]
    match rest with
    | '.' :: rest =>
      match rest.span Char.isDigit with
      | ([], _) => none
      | (ds, rest) => return (text ++ secondFraction ds, rest)
    | rest => return (text, rest)
  | _ => none

/-- The offset of a time zone in its canonical form, which must end the text. -/
def offset? : List Char → Option String
  | [] => some ""
  | ['Z'] | ['z'] => some "Z"
  | [sign, h1, h2, ':', m1, m2] => do
    guard (sign = '+' ∨ sign = '-')
    let hour ← twoDigits? h1 h2
    let minute ← twoDigits? m1 m2
    guard (hour ≤ 23 ∧ minute ≤ 59)
    -- No offset has no sign of its own.
    let sign := if hour = 0 ∧ minute = 0 then '+' else sign
    return String.ofList [sign, h1, h2, ':', m1, m2]
  | _ => none

/-- The canonical form of a date, a time or both. -/
def moment? (cs : List Char) : Option String :=
  match date? cs with
  | some (date, []) => some date
  | some (date, delimiter :: rest) => do
    guard (delimiter = 'T' ∨ delimiter = 't' ∨ delimiter = ' ')
    let (time, rest) ← time? rest
    let offset ← offset? rest
    return date ++ "T" ++ time ++ offset
  | none =>
    match time? cs with
    | some (time, []) => some time
    | _ => none

end JavaLens.Toml
