import JavaLens.Json

/-!
# Writing JSON

## Main definitions

* `Json.render` — the text of a value, without blanks.
-/

namespace JavaLens.Json

namespace Writer

/-- The hexadecimal digit for a number below sixteen. -/
def hexDigit (n : Nat) : Char := if n < 10 then Char.ofNat (48 + n) else Char.ofNat (87 + n)

/-- A character as it stands between quotes. -/
def escape (c : Char) : String :=
  match c with
  | '"' => "\\\""
  | '\\' => "\\\\"
  | '\n' => "\\n"
  | '\r' => "\\r"
  | '\t' => "\\t"
  | '\x08' => "\\b"
  | '\x0c' => "\\f"
  | c =>
    if c < ' ' then
      "\\u00" ++ (hexDigit (c.toNat / 16)).toString ++ (hexDigit (c.toNat % 16)).toString
    else c.toString

/-- A text between quotes, behind `done`. -/
def quote (done : String) (s : String) : String :=
  (s.foldl (fun done c => done ++ escape c) (done.push '"')).push '"'

mutual

/-- A value, behind `done`. -/
def value (done : String) : Json → String
  | .null => done ++ "null"
  | .bool true => done ++ "true"
  | .bool false => done ++ "false"
  | .int n => done ++ toString n
  | .float x => done ++ x.textWithPoint
  | .string s => quote done s
  | .array [] => done ++ "[]"
  | .array (item :: rest) => (items (value (done.push '[') item) rest).push ']'
  | .object [] => done ++ "\x7b\x7d"
  | .object ((name, item) :: rest) =>
    (members (value ((quote (done.push '\x7b') name).push ':') item) rest).push '\x7d'

/-- The items of an array behind its first one. -/
def items (done : String) : List Json → String
  | [] => done
  | item :: rest => items (value (done.push ',') item) rest

/-- The fields of an object behind its first one. -/
def members (done : String) : List (String × Json) → String
  | [] => done
  | (name, item) :: rest =>
    members (value ((quote (done.push ',') name).push ':') item) rest

end

end Writer

/-- The text of a value. -/
def render (j : Json) : String := Writer.value "" j

end JavaLens.Json
