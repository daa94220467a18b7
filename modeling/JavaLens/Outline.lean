import JavaLens.SyntaxTree

/-!
# Outlines

The outline of a source holds its types and their members, each within the innermost one that
encloses it. Local variables and parameters are left out.

## Main definitions

* `Symbol` — an entry of an outline, with the entries inside it.
* `Symbol.forest` — entries in document order, nested by enclosure.
* `SyntaxTree.outline` — the outline of a source.
-/

namespace JavaLens

/-- The kind of an entry, numbered as in the editor protocol. -/
structure Symbol.Kind where
  code : Int
deriving DecidableEq, Repr, Inhabited

/-- The kind of entry that a flavor of declaration makes, if it makes one. -/
def Symbol.Kind.ofFlavor? : Flavor → Option Symbol.Kind
  | .class => some ⟨5⟩
  | .interface | .annotationType => some ⟨11⟩
  | .enum => some ⟨10⟩
  | .record => some ⟨23⟩
  | .method => some ⟨6⟩
  | .constructor => some ⟨9⟩
  | .field => some ⟨8⟩
  | .enumConstant => some ⟨22⟩
  | .localVariable | .parameter => none

/-- An entry of an outline. -/
structure Symbol where
  name : String
  detail : Option String
  kind : Symbol.Kind
  /-- The whole declaration. -/
  span : Span
  /-- The declared name. -/
  selection : Span
  children : List Symbol
deriving Repr, Inhabited

namespace Symbol

/-- The entry that a declaration makes, without anything inside. -/
def ofDeclaration? (d : Declaration) : Option Symbol :=
  (Kind.ofFlavor? d.flavor).map fun kind =>
    ⟨d.name.text, some d.flavor.text, kind, d.span, d.name.span, []⟩

/-- Entries in document order, nested: an entry holds those that follow it for as long as it
encloses them. -/
def forest : List Symbol → List Symbol
  | [] => []
  | s :: rest =>
    let inside := rest.takeWhile fun t => s.span.Encloses t.span
    let behind := rest.dropWhile fun t => s.span.Encloses t.span
    { s with children := forest inside } :: forest behind
termination_by symbols => symbols.length
decreasing_by
  all_goals simp only [List.length_cons]
  · exact Nat.lt_succ_of_le (List.takeWhile_sublist _).length_le
  · exact Nat.lt_succ_of_le (List.dropWhile_sublist _).length_le

end Symbol

/-- The entries of an outline in document order, before they are nested. -/
def SyntaxTree.entries (t : SyntaxTree) : List Symbol :=
  t.declarations.filterMap Symbol.ofDeclaration?

/-- The outline of a source. -/
def SyntaxTree.outline (t : SyntaxTree) : List Symbol := Symbol.forest t.entries

end JavaLens
