import JavaLens.Decimal
import JavaLens.Settings.Setting

/-!
# Key paths

The way to a setting through nested tables and lists, such as `diagnostics.source` or
`roots[0].name`.

## Main definitions

* `KeyPath` — a way through nested settings.
* `KeyPath.parse?` — the way that a text denotes.
* `KeyPath.set` — settings with a value at the end of a way.
-/

namespace JavaLens

/-- A step into a nested setting. -/
inductive KeyPath.Step where
  /-- To the entry of a table. -/
  | child (name : String)
  /-- To the item of a list; a negative number counts from its end. -/
  | index (i : Int)
deriving DecidableEq, Repr

/-- A way through nested settings: the entry of the outermost table, and the steps from there. -/
structure KeyPath where
  head : String
  steps : List KeyPath.Step
deriving DecidableEq, Repr

namespace KeyPath

/-! ## Reading -/

/-- What a name in a path is made of. -/
def isNamePart (c : Char) : Bool := c.isAlphanum ∨ c = ' ' ∨ c = '_' ∨ c = '-'

/-- A name at the front of a text. -/
def name? (cs : List Char) : Option (String × List Char) :=
  match cs.span isNamePart with
  | ([], _) => none
  | (name, rest) => some (String.ofList name, rest)

/-- A number between brackets, behind the opening one. It fits into 64 bits. -/
def index? (cs : List Char) : Option (Int × List Char) :=
  let isSpace (c : Char) : Bool := c = ' ' ∨ c = '\t'
  let cs := cs.dropWhile isSpace
  let (negative, cs) :=
    match cs with
    | '-' :: rest => (true, rest)
    | cs => (false, cs)
  match cs.span Char.isDigit with
  | ([], _) => none
  | (ds, rest) =>
    let size : Int := Decimal.ofDigits ds
    let i := if negative then -size else size
    match rest.dropWhile isSpace with
    | ']' :: rest => if -Int.pow 2 63 ≤ i ∧ i < Int.pow 2 63 then some (i, rest) else none
    | _ => none

/-- The steps of a path, of which there are at most `fuel`. -/
def steps? : Nat → List Char → Option (List Step)
  | _, [] => some []
  | 0, _ => none
  | fuel + 1, '.' :: rest =>
    match name? rest with
    | some (name, rest) => (steps? fuel rest).map (.child name :: ·)
    | none => none
  | fuel + 1, '[' :: rest =>
    match index? rest with
    | some (i, rest) => (steps? fuel rest).map (.index i :: ·)
    | none => none
  | _, _ => none

/-- The way that a text denotes. -/
def parse? (text : String) : Option KeyPath :=
  match name? text.toList with
  | some (head, rest) => (steps? rest.length rest).map (⟨head, ·⟩)
  | none => none

/-- The way that the key of a file denotes. Any key is at least the name of an entry. -/
def ofKey (key : String) : KeyPath := (parse? key).getD ⟨key, []⟩

/-! ## Setting -/

/-- The place in a list that a number means. -/
def place (i : Int) (size : Nat) : Nat := if i < 0 then (size + i).toNat else i.toNat

/-- A list with one item changed, which is long enough to have it. -/
def modifyItem (i : Int) (change : Setting → Setting) (s : Setting) : Setting :=
  let i := place i s.items.length
  let missing := Setting.given .nothing
  let filled := s.items ++ List.replicate (i + 1 - s.items.length) missing
  let origin := match s with
    | .mk origin (.list _) => origin
    | _ => none
  .mk origin (.list (filled.modify i change))

/-- The setting with a value at the end of a way that goes from a name on. Values of the wrong kind
give way to the tables and lists that the way needs. -/
def setFrom (name : String) (v : Setting) : List Step → Setting → Setting
  | [], s => Setting.assign name v s
  | .child next :: steps, s =>
    let key := Text.lowerCase name
    Setting.setEntry key (setFrom next v steps ((s.get? key).getD (.given .nothing))) s
  | .index i :: steps, s =>
    let key := Text.lowerCase name
    Setting.setEntry key (setItem i v steps ((s.get? key).getD (.given .nothing))) s
where
  /-- The list with a value at the end of a way that goes from an item on. -/
  setItem (i : Int) (v : Setting) : List Step → Setting → Setting
    | [], s => modifyItem i (fun _ => v) s
    | .child next :: steps, s => modifyItem i (setFrom next v steps) s
    | .index j :: steps, s => modifyItem i (setItem j v steps) s

/-- The settings with a value at the end of a way. -/
def set (path : KeyPath) (v : Setting) (s : Setting) : Setting := setFrom path.head v path.steps s

end KeyPath

end JavaLens
