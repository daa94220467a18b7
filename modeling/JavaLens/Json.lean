import JavaLens.Decimal.Binary

/-!
# JSON values

The values in which editor and server talk to each other. Whole numbers of 64 bits are kept
apart from all other numbers, because settings and shapes tell the two apart.

## Main definitions

* `Json` — a JSON value.
* `Json.field?`, `Json.string?` and their kin — views of a value.
-/

namespace JavaLens

/-- A JSON value. The fields of an object keep their order. -/
inductive Json where
  | null
  | bool (value : Bool)
  | int (value : Int)
  | float (value : Binary)
  | string (value : String)
  | array (items : List Json)
  | object (fields : List (String × Json))
deriving Repr, Inhabited

namespace Json

/-- Whether the value is `null`. -/
def isNull : Json → Bool
  | null => true
  | _ => false

/-- The value of a field of an object, the last one if the name is repeated. -/
def field? (name : String) : Json → Option Json
  | object fields => (fields.reverse.find? (·.1 == name)).map (·.2)
  | _ => none

/-- The value as text. -/
def string? : Json → Option String
  | string s => some s
  | _ => none

/-- The value as a truth value. -/
def bool? : Json → Option Bool
  | bool b => some b
  | _ => none

/-- The value as a whole number. -/
def int? : Json → Option Int
  | int n => some n
  | _ => none

/-- The value as a natural number. -/
def nat? : Json → Option Nat
  | int (.ofNat n) => some n
  | _ => none

/-- The items of an array. -/
def array? : Json → Option (List Json)
  | array items => some items
  | _ => none

/-- A value that may be missing, with `null` for a missing one. -/
def ofOption {α : Type} (encode : α → Json) (value : Option α) : Json :=
  (value.map encode).getD null

/-- A natural number. -/
def nat (n : Nat) : Json := int n

/-- An object without the fields that are missing. -/
def objectOf (fields : List (String × Option Json)) : Json :=
  object (fields.filterMap fun (name, value) => value.map (name, ·))

end Json

end JavaLens
