import JavaLens.Json
import JavaLens.Text.LowerCase
import JavaLens.Toml

/-!
# Setting values

Values before it is known which setting they are for. Each remembers where it came from.

## Main definitions

* `Setting` — a value with its origin.
* `Setting.ofToml`, `Setting.ofJson` — values from a file and from elsewhere.
* `Setting.assign` — a table with a value under a key, in which tables are merged.
-/

namespace JavaLens

mutual

/-- A value, with the name of the file that it came from. -/
inductive Setting where
  | mk (origin : Option String) (value : Setting.Value)

/-- The value of a setting. The keys of a table are in small letters once `Setting.assign` has put
them there. -/
inductive Setting.Value where
  | nothing
  | bool (b : Bool)
  | int (n : Int)
  | float (x : Binary)
  | text (s : String)
  | list (items : List Setting)
  | table (entries : List (String × Setting))

end

namespace Setting

/-- Where a value came from. -/
def origin : Setting → Option String
  | mk origin _ => origin

/-- A value without its origin. -/
def value : Setting → Value
  | mk _ value => value

/-- A value that comes from no file. -/
def given (v : Value) : Setting := mk none v

/-- A table that comes from no file. -/
def emptyTable : Setting := given (.table [])

/-! ## Values from elsewhere -/

mutual

/-- A value of a file. -/
def ofToml (origin : Option String) : Toml → Setting
  | .string s => mk origin (.text s)
  | .int n => mk origin (.int n)
  | .float x => mk origin (.float x)
  | .bool b => mk origin (.bool b)
  | .moment text => mk origin (.text text)
  | .array items => mk origin (.list (ofTomlItems origin items))
  | .table entries => mk origin (.table (ofTomlEntries origin entries))

/-- The items of a list of a file. -/
def ofTomlItems (origin : Option String) : List Toml → List Setting
  | [] => []
  | item :: rest => ofToml origin item :: ofTomlItems origin rest

/-- The entries of a table of a file. -/
def ofTomlEntries (origin : Option String) : List (String × Toml) → List (String × Setting)
  | [] => []
  | (key, v) :: rest => (key, ofToml origin v) :: ofTomlEntries origin rest

end

mutual

/-- A value that a caller gives. -/
def ofJson : Json → Setting
  | .null => given .nothing
  | .bool b => given (.bool b)
  | .int n => given (.int n)
  | .float x => given (.float x)
  | .string s => given (.text s)
  | .array items => given (.list (ofJsonItems items))
  | .object fields => given (.table (ofJsonFields fields))

/-- The items of a list that a caller gives. -/
def ofJsonItems : List Json → List Setting
  | [] => []
  | item :: rest => ofJson item :: ofJsonItems rest

/-- The entries of a table that a caller gives. -/
def ofJsonFields : List (String × Json) → List (String × Setting)
  | [] => []
  | (key, v) :: rest => (key, ofJson v) :: ofJsonFields rest

end

/-! ## Tables -/

/-- The entries of a table; any other value has none. -/
def entries : Setting → List (String × Setting)
  | mk _ (.table entries) => entries
  | _ => []

/-- The items of a list; any other value has none. -/
def items : Setting → List Setting
  | mk _ (.list items) => items
  | _ => []

/-- The value under a key. -/
def get? (s : Setting) (key : String) : Option Setting := (s.entries.find? (·.1 == key)).map (·.2)

/-- The entries with a new or replaced value under a key. -/
def put (key : String) (v : Setting) : List (String × Setting) → List (String × Setting)
  | [] => [(key, v)]
  | (k, old) :: rest => if k == key then (k, v) :: rest else (k, old) :: put key v rest

theorem find?_put_self (key : String) (v : Setting) (es : List (String × Setting)) :
    ((put key v es).find? (·.1 == key)).map (·.2) = some v := by
  induction es with
  | nil => simp [put]
  | cons e es ih =>
    obtain ⟨k, old⟩ := e
    by_cases h : k = key
    · simp [put, h]
    · have hb : (k == key) = false := by simpa using h
      simpa [put, hb] using ih

theorem find?_put_of_ne {k key : String} (h : k ≠ key) (v : Setting)
    (es : List (String × Setting)) :
    ((put key v es).find? (·.1 == k)) = es.find? (·.1 == k) := by
  have hb : (key == k) = false := by simpa using h.symm
  induction es with
  | nil => simp [put, hb]
  | cons e es ih =>
    obtain ⟨j, old⟩ := e
    by_cases hj : j = key
    · simp [put, hj, hb]
    · have hjb : (j == key) = false := by simpa using hj
      by_cases hk : j = k
      · subst hk
        simp [put, hjb]
      · have hkb : (j == k) = false := by simpa using hk
        simpa [put, hjb, hkb] using ih

/-- A value as a table: any other value gives way to an empty one. -/
def asTable : Setting → Setting
  | mk origin (.table entries) => mk origin (.table entries)
  | _ => emptyTable

/-- A table with one entry changed. -/
def setEntry (key : String) (v : Setting) (s : Setting) : Setting :=
  mk s.asTable.origin (.table (put key v s.entries))

@[simp] theorem entries_setEntry (key : String) (v : Setting) (s : Setting) :
    (setEntry key v s).entries = put key v s.entries := rfl

@[simp] theorem get?_setEntry_self (key : String) (v : Setting) (s : Setting) :
    (setEntry key v s).get? key = some v := by
  simp only [get?, entries_setEntry, find?_put_self]

theorem get?_setEntry_of_ne {k key : String} (h : k ≠ key) (v : Setting) (s : Setting) :
    (setEntry key v s).get? k = s.get? k := by
  simp only [get?, entries_setEntry, find?_put_of_ne h]

mutual

/-- A table with a value under a key, whatever the case of its letters. A table is merged with the
one that stands there, entry by entry; any other value takes the place of the old one. -/
def assign (key : String) : Setting → Setting → Setting
  | mk _ (.table incoming), s =>
    let key := Text.lowerCase key
    setEntry key (assignAll incoming ((s.get? key).getD emptyTable)) s
  | v, s => setEntry (Text.lowerCase key) v s

/-- A value with entries merged into it one after the other. -/
def assignAll : List (String × Setting) → Setting → Setting
  | [], s => s
  | (key, v) :: rest, s => assignAll rest (assign key v s)

end

end Setting

end JavaLens
