/-!
# Open documents

The current text of every document that an editor has open, by the URI of the document.

## Main definitions

* `Documents` — the open documents.
* `Documents.get?`, `Documents.put`, `Documents.remove` — reading and changing them.
-/

namespace JavaLens

/-- The open documents: at most one text for each URI. -/
structure Documents where
  entries : List (String × String)
deriving DecidableEq, Repr, Inhabited

namespace Documents

/-- No document is open. -/
def empty : Documents := ⟨[]⟩

/-- The text of a document. -/
def get? (d : Documents) (uri : String) : Option String :=
  (d.entries.find? (·.1 == uri)).map (·.2)

/-- The documents without one of them. -/
def remove (d : Documents) (uri : String) : Documents := ⟨d.entries.filter (·.1 != uri)⟩

/-- The documents with a new or replaced text for one of them. -/
def put (d : Documents) (uri text : String) : Documents := ⟨(uri, text) :: (d.remove uri).entries⟩

/-- The number of open documents. -/
def size (d : Documents) : Nat := d.entries.length

/-- Whether no document is open. -/
def isEmpty (d : Documents) : Bool := d.entries.isEmpty

theorem get?_remove_self (d : Documents) (uri : String) : (d.remove uri).get? uri = none := by
  simp [get?, remove, List.find?_eq_none]

theorem get?_remove_of_ne (d : Documents) {uri other : String} (h : other ≠ uri) :
    (d.remove uri).get? other = d.get? other := by
  simp only [get?, remove, List.find?_filter]
  congr 2
  grind

theorem get?_put_self (d : Documents) (uri text : String) :
    (d.put uri text).get? uri = some text := by
  simp [get?, put]

theorem get?_put_of_ne (d : Documents) {uri other : String} (text : String) (h : other ≠ uri) :
    (d.put uri text).get? other = d.get? other := by
  rw [← get?_remove_of_ne d h]
  simp [get?, put, h.symm]

end Documents

end JavaLens
