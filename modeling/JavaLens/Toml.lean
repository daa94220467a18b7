import JavaLens.Decimal.Binary

/-!
# TOML values

The values that a configuration file can hold.

## Main definitions

* `Toml` — a value.
-/

namespace JavaLens

/-- A value of a configuration file. Dates and times are kept as the text of their canonical form.
A table holds each key once. -/
inductive Toml where
  | string (value : String)
  | int (value : Int)
  | float (value : Binary)
  | bool (value : Bool)
  | moment (text : String)
  | array (items : List Toml)
  | table (entries : List (String × Toml))
deriving Repr, Inhabited

end JavaLens
