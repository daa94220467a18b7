/-!
# Hosts of addresses

A host is a name, a number of four bytes, or a number of sixteen bytes in square brackets.

## Main definitions

* `Uri.isHost` — whether a text is a host of a scheme that looks hosts up.
* `Uri.isOpaqueHost` — whether a text is a host of any other scheme.
-/

namespace JavaLens.Uri

/-! ## Numbers of four bytes -/

/-- The value of a digit in a base up to 16. -/
def digit? (base : Nat) (c : Char) : Option Nat :=
  let value :=
    if c.isDigit then some (c.toNat - '0'.toNat)
    else if 'a' ≤ c ∧ c ≤ 'f' then some (c.toNat - 'a'.toNat + 10)
    else if 'A' ≤ c ∧ c ≤ 'F' then some (c.toNat - 'A'.toNat + 10)
    else none
  value.filter (· < base)

/-- The number that digits of a base stand for. No digits stand for zero. -/
def number? (base : Nat) (digits : List Char) : Option Nat :=
  digits.foldlM (fun n c => (digit? base c).map (n * base + ·)) 0

/-- The number in a part of a dotted number. It is hexadecimal behind `0x` and octal behind `0`. -/
def part? : List Char → Option Nat
  | [] => none
  | '0' :: 'x' :: digits | '0' :: 'X' :: digits => number? 16 digits
  | '0' :: digits => number? 8 digits
  | digits => number? 10 digits

/-- Texts between points. A point at the end does not count. -/
def dotted (host : List Char) : List (List Char) :=
  let parts := host.splitOn '.'
  if 1 < parts.length ∧ parts.getLast? = some [] then parts.dropLast else parts

/-- Whether the last part of a host is a number, so that the host must be one as a whole. -/
def endsInNumber (host : List Char) : Bool :=
  match (dotted host).getLast? with
  | none => false
  | some last => (!last.isEmpty && last.all Char.isDigit) || (part? last).isSome

/-- Whether a text is a number of four bytes. The last part stands for all bytes that are left. -/
def isDottedNumber (host : List Char) : Bool :=
  match (dotted host).mapM part? with
  | none => false
  | some numbers =>
    numbers.length ≤ 4 && numbers.dropLast.all (· < 256) &&
      numbers.getLast?.any (· < Nat.pow 256 (5 - numbers.length))

/-! ## Numbers of sixteen bytes -/

/-- Whether a text is a byte in decimal, without a leading zero. -/
def isByte : List Char → Bool
  | [] => false
  | ['0'] => true
  | '0' :: _ => false
  | digits => (number? 10 digits).any (· < 256)

/-- How many pairs of bytes a group of a number stands for. Only the last group may have points. -/
def groupSize? (isLast : Bool) (group : List Char) : Option Nat :=
  if isLast && group.contains '.' then
    let bytes := group.splitOn '.'
    if bytes.length = 4 ∧ bytes.all isByte then some 2 else none
  else if !group.isEmpty && group.length ≤ 4 && (number? 16 group).isSome then some 1
  else none

/-- How many pairs of bytes groups between colons stand for. -/
def groupsSize? (isLast : Bool) : List (List Char) → Option Nat
  | [] => some 0
  | [group] => groupSize? isLast group
  | group :: rest => do return (← groupSize? false group) + (← groupsSize? isLast rest)

/-- How many pairs of bytes a side of a double colon stands for. -/
def sideSize? (isLast : Bool) (side : List Char) : Option Nat :=
  if side.isEmpty then some 0 else groupsSize? isLast (side.splitOn ':')

/-- The texts before and behind the first double colon. -/
def splitDoubleColon? : List Char → Option (List Char × List Char)
  | [] => none
  | ':' :: ':' :: rest => some ([], rest)
  | c :: rest => (splitDoubleColon? rest).map fun (before, behind) => (c :: before, behind)

/-- Whether a text is a number of sixteen bytes. A double colon stands for at least two of them. -/
def isGroupedNumber (host : List Char) : Bool :=
  match splitDoubleColon? host with
  | none => groupsSize? true (host.splitOn ':') = some 8
  | some (before, behind) =>
    match sideSize? false before, sideSize? true behind with
    | some m, some n => m + n ≤ 7
    | _, _ => false

/-- Whether a host in square brackets is a number of sixteen bytes. -/
def isBracketed (host : List Char) : Bool :=
  host.getLast? = some ']' && isGroupedNumber (host.drop 1).dropLast

/-! ## Names -/

/-- The characters of a host, in which a percent sign and two digits stand for a byte. -/
def unescape : List Char → List Char
  | '%' :: a :: b :: rest =>
    match digit? 16 a, digit? 16 b with
    | some a, some b => Char.ofNat (a * 16 + b) :: unescape rest
    | _, _ => '%' :: unescape (a :: b :: rest)
  | c :: rest => c :: unescape rest
  | [] => []

/-- Whether a character cannot stand in any host. -/
def isForbidden (c : Char) : Bool :=
  c = '\x00' ∨ c = '\t' ∨ c = '\n' ∨ c = '\r' ∨ c ∈ " #/:<>?@[\\]^|".toList

/-- Whether a character cannot stand in a host that is looked up. -/
def isForbiddenInName (c : Char) : Bool := isForbidden c ∨ c < ' ' ∨ c = '%' ∨ c = '\x7f'

/-- Whether a text is a host of a scheme that looks hosts up. -/
def isHost (host : List Char) : Bool :=
  if host.head? = some '[' then isBracketed host
  else
    let name := unescape host
    !name.isEmpty && !name.any isForbiddenInName && (!endsInNumber name || isDottedNumber name)

/-- Whether a text is a host of any other scheme. -/
def isOpaqueHost (host : List Char) : Bool :=
  if host.head? = some '[' then isBracketed host else !host.any isForbidden

end JavaLens.Uri
