/-!
# Strings in TOML

The four ways to write a string. Each function takes the characters behind the opening delimiter and
gives the string with the characters behind the closing one; `done` holds the characters read so
far, last first.

## Main definitions

* `Toml.basicString`, `Toml.literalString` — strings on one line, with and without escapes.
* `Toml.basicText`, `Toml.literalText` — strings over several lines.
-/

namespace JavaLens.Toml

/-- What may stand in a line: everything but control characters other than the tab. -/
def isPlain (c : Char) : Bool := c = '\t' ∨ (' ' ≤ c ∧ c ≠ '\x7f')

/-- Spaces and tabs. -/
def isSpace (c : Char) : Bool := c = ' ' ∨ c = '\t'

/-- The value of a hexadecimal digit. -/
def hexDigit? (c : Char) : Option Nat :=
  if c.isDigit then some (c.toNat - '0'.toNat)
  else if 'a' ≤ c ∧ c ≤ 'f' then some (c.toNat - 'a'.toNat + 10)
  else if 'A' ≤ c ∧ c ≤ 'F' then some (c.toNat - 'A'.toNat + 10)
  else none

/-- The character whose number is written in hexadecimal digits. -/
def ofHex? (ds : List Char) : Option Char := do
  let ds ← ds.mapM hexDigit?
  let n := ds.foldl (fun n d => n * 16 + d) 0
  if n.isValidChar then some (Char.ofNat n) else none

/-- The character that a backslash and a letter stand for. -/
def escaped? : Char → Option Char
  | 'b' => some '\x08'
  | 't' => some '\t'
  | 'n' => some '\n'
  | 'f' => some '\x0c'
  | 'r' => some '\r'
  | '"' => some '"'
  | '\\' => some '\\'
  | _ => none

/-- A string in double quotes. -/
def basicString (done : List Char) : List Char → Option (String × List Char)
  | [] => none
  | '"' :: rest => some (String.ofList done.reverse, rest)
  | '\\' :: 'u' :: a :: b :: c :: d :: rest =>
    match ofHex? [a, b, c, d] with
    | some c => basicString (c :: done) rest
    | none => none
  | '\\' :: 'U' :: a :: b :: c :: d :: e :: f :: g :: h :: rest =>
    match ofHex? [a, b, c, d, e, f, g, h] with
    | some c => basicString (c :: done) rest
    | none => none
  | '\\' :: c :: rest =>
    match escaped? c with
    | some c => basicString (c :: done) rest
    | none => none
  | c :: rest => if isPlain c then basicString (c :: done) rest else none

/-- A string in single quotes. -/
def literalString (done : List Char) : List Char → Option (String × List Char)
  | [] => none
  | '\'' :: rest => some (String.ofList done.reverse, rest)
  | c :: rest => if isPlain c then literalString (c :: done) rest else none

/-- Whether nothing but spaces stands before the end of the line. -/
def endsLine (cs : List Char) : Bool :=
  match cs.dropWhile isSpace with
  | '\n' :: _ | '\r' :: '\n' :: _ => true
  | _ => false

/-- A string in three double quotes. A backslash at the end of a line takes the blanks and line ends
behind it away, which `skipping` says is going on. One or two quotes may stand right before the
closing delimiter. -/
def basicText (skipping : Bool) (done : List Char) : List Char → Option (String × List Char)
  | [] => none
  | '"' :: '"' :: '"' :: '"' :: '"' :: rest =>
    some (String.ofList ('"' :: '"' :: done).reverse, rest)
  | '"' :: '"' :: '"' :: '"' :: rest => some (String.ofList ('"' :: done).reverse, rest)
  | '"' :: '"' :: '"' :: rest => some (String.ofList done.reverse, rest)
  | '\\' :: 'u' :: a :: b :: c :: d :: rest =>
    match ofHex? [a, b, c, d] with
    | some c => basicText false (c :: done) rest
    | none => none
  | '\\' :: 'U' :: a :: b :: c :: d :: e :: f :: g :: h :: rest =>
    match ofHex? [a, b, c, d, e, f, g, h] with
    | some c => basicText false (c :: done) rest
    | none => none
  | '\r' :: '\n' :: rest => basicText skipping (if skipping then done else '\n' :: done) rest
  | '\n' :: rest => basicText skipping (if skipping then done else '\n' :: done) rest
  | '\\' :: c :: rest =>
    if endsLine (c :: rest) then basicText true done (c :: rest)
    else
      match escaped? c with
      | some c => basicText false (c :: done) rest
      | none => none
  | c :: rest =>
    if skipping && isSpace c then basicText true done rest
    else if isPlain c then basicText false (c :: done) rest
    else none

/-- A string in three single quotes. -/
def literalText (done : List Char) : List Char → Option (String × List Char)
  | [] => none
  | '\'' :: '\'' :: '\'' :: '\'' :: '\'' :: rest =>
    some (String.ofList ('\'' :: '\'' :: done).reverse, rest)
  | '\'' :: '\'' :: '\'' :: '\'' :: rest => some (String.ofList ('\'' :: done).reverse, rest)
  | '\'' :: '\'' :: '\'' :: rest => some (String.ofList done.reverse, rest)
  | '\r' :: '\n' :: rest => literalText ('\n' :: done) rest
  | '\n' :: rest => literalText ('\n' :: done) rest
  | c :: rest => if isPlain c then literalText (c :: done) rest else none

/-- The characters without a line end at their start. -/
def afterNewline : List Char → List Char
  | '\n' :: rest => rest
  | '\r' :: '\n' :: rest => rest
  | cs => cs

/-- The string whose opening quotes are at the front. -/
def anyString? : List Char → Option (String × List Char)
  | '"' :: '"' :: '"' :: rest => basicText false [] (afterNewline rest)
  | '\'' :: '\'' :: '\'' :: rest => literalText [] (afterNewline rest)
  | '"' :: rest => basicString [] rest
  | '\'' :: rest => literalString [] rest
  | _ => none

end JavaLens.Toml
