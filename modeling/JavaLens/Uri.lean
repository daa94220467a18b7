import JavaLens.Uri.Host

/-!
# Addresses

An address has a scheme, which decides how the rest is read. Some schemes need a host, files may
have one, and in all other schemes what follows is free unless two slashes announce a host.

## Main definitions

* `isUri` — whether a text is an address.
-/

namespace JavaLens

namespace Uri

/-- How the rest of an address is read. -/
inductive Scheme where
  /-- A host follows. -/
  | hosted
  | file
  | other
deriving DecidableEq, Repr

namespace Scheme

/-- The scheme with a name. Case does not matter. -/
def ofName (name : List Char) : Scheme :=
  match String.ofList (name.map Char.toLower) with
  | "http" | "https" | "ws" | "wss" | "ftp" => hosted
  | "file" => file
  | _ => other

/-- Whether a character ends what names the host. A backslash does where it counts as a slash. -/
def isBorder (scheme : Scheme) (c : Char) : Bool :=
  c = '/' ∨ c = '?' ∨ c = '#' ∨ (c = '\\' ∧ scheme ≠ other)

end Scheme

/-- Whether a text tells a port, or nothing. -/
def isPort (port : List Char) : Bool := (number? 10 port).any (· < 65536)

/-- The host and what follows its colon. A colon in square brackets belongs to the host. -/
def splitHost (bracketed : Bool) : List Char → List Char × Option (List Char)
  | [] => ([], none)
  | ':' :: rest =>
    if bracketed then
      let (host, port) := splitHost true rest
      (':' :: host, port)
    else ([], some rest)
  | c :: rest =>
    let bracketed := c = '[' ∨ (bracketed ∧ c ≠ ']')
    let (host, port) := splitHost bracketed rest
    (c :: host, port)

/-- The user that an authority names before its last at sign, and the rest. -/
def splitUser (authority : List Char) : Option (List Char) × List Char :=
  let rest := (authority.reverse.takeWhile (· ≠ '@')).reverse
  if rest.length = authority.length then (none, rest)
  else (some (authority.take (authority.length - rest.length - 1)), rest)

/-- Whether a text names a host, and maybe a user and a port. A host may be missing only where
nothing else is named. -/
def isAuthority (scheme : Scheme) (authority : List Char) : Bool :=
  let (user, rest) := splitUser authority
  let (host, port) := splitHost false rest
  if host.isEmpty then
    scheme = .other && port.isNone && user.all (· = [':'])
  else
    (if scheme = .other then isOpaqueHost host else isHost host) &&
      port.all fun port => isPort (if scheme = .other then port.takeWhile (· ≠ '\\') else port)

/-- Whether a text is a letter with a colon or a bar behind it, which names a disk. -/
def isDisk : List Char → Bool
  | [letter, mark] => letter.isAlpha && (mark = ':' || mark = '|')
  | _ => false

/-- Whether a text can follow the colon behind a scheme. -/
def isRest (scheme : Scheme) (rest : List Char) : Bool :=
  let isSlash (c : Char) : Bool := c = '/' ∨ (c = '\\' ∧ scheme ≠ .other)
  let authority (cs : List Char) : List Char := cs.takeWhile (!scheme.isBorder ·)
  match scheme, rest with
  | .hosted, rest => isAuthority .hosted (authority (rest.dropWhile isSlash))
  | .file, a :: b :: rest =>
    let host := authority rest
    !(isSlash a && isSlash b) || host.isEmpty || isDisk host || isHost host
  | .other, '/' :: '/' :: rest => isAuthority .other (authority rest)
  | _, _ => true

/-- The characters of an address that count. Blanks around it and line breaks in it do not. -/
def meaningful (s : String) : List Char :=
  let trim (cs : List Char) : List Char := cs.dropWhile (· ≤ ' ')
  (trim (trim s.toList).reverse).reverse.filter fun c => c ≠ '\t' ∧ c ≠ '\n' ∧ c ≠ '\r'

end Uri

/-- Whether a text is an address. -/
def isUri (s : String) : Bool :=
  let isSchemePart (c : Char) : Bool := c.isAlphanum ∨ c = '+' ∨ c = '-' ∨ c = '.'
  let (scheme, rest) := (Uri.meaningful s).span isSchemePart
  match rest with
  | ':' :: rest => scheme.head?.any Char.isAlpha && Uri.isRest (.ofName scheme) rest
  | _ => false

end JavaLens
