import JavaLens.Toml

/-!
# Building tables

A configuration file builds its tables piece by piece: by headers, by arrays of tables and by dotted
keys. A table may be opened by one header only, and keys may neither be repeated nor reach into what
another form has defined.

## Main definitions

* `Toml.Table` — a table under construction, with how it came about.
* `Toml.Table.insert?` — a table with one more value, under a dotted key.
* `Toml.Table.modifyAt?` — a table with a change at the end of a path.
* `Toml.Table.toToml` — the finished table.
-/

namespace JavaLens.Toml

mutual

/-- A table under construction. It is `implicit` if no header has opened it, and `dotted` if dotted
keys have made it. -/
inductive Table where
  | mk (implicit dotted : Bool) (entries : List (String × Item))

/-- What stands under a key of a table under construction. -/
inductive Item where
  | value (v : Toml)
  | table (t : Table)
  | tables (ts : List Table)

end

namespace Table

/-- A table that a header or a brace has opened. -/
def opened : Table := mk false false []

/-- Whether no header has opened the table. -/
def implicit : Table → Bool
  | mk implicit _ _ => implicit

/-- Whether dotted keys have made the table. -/
def dotted : Table → Bool
  | mk _ dotted _ => dotted

/-- The entries of a table. -/
def entries : Table → List (String × Item)
  | mk _ _ entries => entries

/-- What stands under a key. -/
def get? (t : Table) (key : String) : Option Item := (t.entries.find? (·.1 == key)).map (·.2)

/-- The table without a key. -/
def erase : Table → String → Table
  | mk implicit dotted entries, key => mk implicit dotted (entries.filter (·.1 != key))

/-- The table with a new or replaced item under a key. -/
def set (t : Table) (key : String) (item : Item) : Table :=
  match t.erase key with
  | mk implicit dotted entries => mk implicit dotted (entries ++ [(key, item)])

/-- The table at the end of a path, which goes through the last one of an array of tables. -/
def findAt? : List String → Table → Option Table
  | [], t => some t
  | key :: path, t =>
    match t.get? key with
    | some (.table c) => findAt? path c
    | some (.tables ts) =>
      match ts.getLast? with
      | some c => findAt? path c
      | none => none
    | _ => none

/-- The table with a change to the table at the end of a path, in which missing tables are made.
With `dotted` keys the path must not pass through a table that a header has opened. A path goes
through the last one of an array of tables. -/
def modifyAt? (dotted : Bool) (change : Table → Option Table) : List String → Table → Option Table
  | [], t => change t
  | key :: path, t =>
    match t.get? key with
    | none => (modifyAt? dotted change path (mk true dotted [])).map fun c => t.set key (.table c)
    | some (.value _) => none
    | some (.table c) =>
      if dotted && !c.implicit then none
      else (modifyAt? dotted change path c).map fun c => t.set key (.table c)
    | some (.tables ts) =>
      match ts.getLast? with
      | none => none
      | some c =>
        (modifyAt? dotted change path c).map fun c => t.set key (.tables (ts.dropLast ++ [c]))

/-- The table with a value under a dotted key, which is given as a path and its last segment. -/
def insert? (path : List String) (key : String) (v : Toml) (t : Table) : Option Table :=
  modifyAt? true (fun t =>
    if t.dotted = path.isEmpty || (t.get? key).isSome then none
    else some (t.set key (.value v))) path t

mutual

/-- The finished table. -/
def toToml : Table → Toml
  | mk _ _ entries => .table (entriesToToml entries)

/-- The finished entries of a table. -/
def entriesToToml : List (String × Item) → List (String × Toml)
  | [] => []
  | (key, .value v) :: rest => (key, v) :: entriesToToml rest
  | (key, .table t) :: rest => (key, toToml t) :: entriesToToml rest
  | (key, .tables ts) :: rest => (key, .array (tablesToToml ts)) :: entriesToToml rest

/-- The finished tables of an array. -/
def tablesToToml : List Table → List Toml
  | [] => []
  | t :: rest => toToml t :: tablesToToml rest

end

end Table

end JavaLens.Toml
