import JavaLens.Json
import JavaLens.Uri

/-!
# Shapes of JSON values

What a JSON value must look like for the editor protocol. Reading a value by its shape either
refuses it or gives it back with nothing in it but what the shape tells of.

## Main definitions

* `Shape` — what a value must look like.
* `Shape.read?` — a value reduced to its shape.
-/

namespace JavaLens.Rpc

/-- Whether a field of an object must be there. -/
inductive Presence where
  | required
  /-- The field may be missing or be null. -/
  | optional
  /-- The field may be missing. -/
  | omissible
deriving DecidableEq, Repr

/-- What a JSON value must look like. -/
inductive Shape where
  | any
  | null
  | bool
  | string
  /-- An absolute address. -/
  | uri
  /-- A given text. -/
  | literal (text : String)
  /-- One of some words. It may also be the name of the one field of an object, which is null. -/
  | word (choices : List String)
  /-- A whole number within bounds, both included. -/
  | integer (least greatest : Int)
  | number
  | list (item : Shape)
  /-- A list with one item of each shape. -/
  | tuple (items : List Shape)
  /-- The first of some shapes that fits. -/
  | oneOf (shapes : List Shape)
  /-- An object with fields of any name that fits a shape, and of values that fit another. -/
  | dictionary (name value : Shape)
  /-- An object with fields of given shapes. Other fields have the shape `others` and are left
  out. -/
  | object (fields : List (String × Presence × Shape)) (others : Shape)
  /-- An object with fields of given shapes, or the list of their values in the same order. Other
  fields are left out. -/
  | record (fields : List (String × Presence × Shape))

/-- Fields of an object: their names, whether they must be there, and what they look like. -/
abbrev Fields := List (String × Presence × Shape)

namespace Shape

/-- A whole number of 32 bits with a sign. -/
def int32 : Shape := integer (-Int.pow 2 31) (Int.pow 2 31 - 1)

/-- A whole number of 32 bits without a sign. -/
def nat32 : Shape := integer 0 (Int.pow 2 32 - 1)

/-- A whole number of 64 bits with a sign. -/
def int64 : Shape := integer (-Int.pow 2 63) (Int.pow 2 63 - 1)

/-- No value at all. -/
def never : Shape := oneOf []

/-- The fields to which a list gives values in their order. A field without a value must be one
that may be missing, and so must all behind it. -/
def inOrder? (fields : Fields) (items : List Json) : Option (List (String × Json)) :=
  if items.length ≤ fields.length ∧
      (fields.drop items.length).all fun (_, presence, _) => presence = .omissible then
    some ((fields.map (·.1)).zip items)
  else none

mutual

/-- A value reduced to its shape, unless it does not fit. -/
def read? : Shape → Json → Option Json
  | any, j => some j
  | null, j => if j.isNull then some j else none
  | bool, j => if j.bool?.isSome then some j else none
  | string, j => if j.string?.isSome then some j else none
  | uri, j => if j.string?.any isUri then some j else none
  | literal text, j => if j.string? = some text then some j else none
  | word choices, .string s | word choices, .object [(s, .null)] =>
    if s ∈ choices then some (.string s) else none
  | word _, _ => none
  | integer least greatest, j =>
    if j.int?.any fun n => least ≤ n ∧ n ≤ greatest then some j else none
  | number, .int n => some (.int n)
  | number, .float x => some (.float x)
  | number, _ => none
  | list item, .array items => (items.mapM (read? item)).map .array
  | list _, _ => none
  | tuple shapes, .array items => (readEach? shapes items).map .array
  | tuple _, _ => none
  | oneOf shapes, j => readFirst? shapes j
  | dictionary name value, .object entries =>
    let readEntry? (entry : String × Json) : Option (String × Json) :=
      match read? name (.string entry.1), read? value entry.2 with
      | some _, some j => some (entry.1, j)
      | _, _ => none
    (entries.mapM readEntry?).map .object
  | dictionary _ _, _ => none
  | object fields others, .object entries =>
    let isKnown (name : String) : Bool := fields.any (·.1 == name)
    if entries.all fun (name, j) => isKnown name || (read? others j).isSome then
      (readFields? fields entries).map .object
    else none
  | object _ _, _ => none
  | record fields, .object entries => (readFields? fields entries).map .object
  | record fields, .array items =>
    match inOrder? fields items with
    | some entries => (readFields? fields entries).map .object
    | none => none
  | record _, _ => none

/-- Values reduced to one shape each. -/
def readEach? : List Shape → List Json → Option (List Json)
  | [], [] => some []
  | shape :: shapes, j :: items =>
    match read? shape j, readEach? shapes items with
    | some j, some items => some (j :: items)
    | _, _ => none
  | _, _ => none

/-- A value reduced to the first shape that fits. -/
def readFirst? : List Shape → Json → Option Json
  | [], _ => none
  | shape :: rest, j =>
    match read? shape j with
    | some j => some j
    | none => readFirst? rest j

/-- The known fields of an object, each reduced to its shape. -/
def readFields? : List (String × Presence × Shape) → List (String × Json) →
    Option (List (String × Json))
  | [], _ => some []
  | (name, presence, shape) :: rest, entries =>
    match (Json.object entries).field? name, presence with
    | none, .required => none
    | none, _ | some .null, .optional => readFields? rest entries
    | some j, _ =>
      match read? shape j, readFields? rest entries with
      | some j, some rest => some ((name, j) :: rest)
      | _, _ => none

end

/-- A field that must be there. -/
def required (name : String) (shape : Shape) : String × Presence × Shape := (name, .required, shape)

/-- A field that may be missing or null. -/
def optional (name : String) (shape : Shape) : String × Presence × Shape := (name, .optional, shape)

/-- A field that may be missing. -/
def omissible (name : String) (shape : Shape) : String × Presence × Shape :=
  (name, .omissible, shape)

/-- An object with fields of given shapes. Other fields are left out. -/
def params (fields : Fields) : Shape := object fields any

/-- Fields of one shape that may be missing or null. -/
def options (shape : Shape) (names : List String) : Fields := names.map (optional · shape)

end Shape

end JavaLens.Rpc
