import JavaLens.SyntaxTree

/-!
# Imports

An import of a single name is used when the name is referred to anywhere in the source. Imports on
demand are never reported.

## Main definitions

* `Import` — an import declaration.
* `Import.unused` — the warnings about imports that nothing refers to.
-/

namespace JavaLens

/-- An import declaration, static or not. -/
structure Import where
  /-- The segments of the dotted name, without `static` and without a final `.*`. -/
  segments : List String
  /-- From the first to the last segment. -/
  span : Span
  /-- Whether the import ends in `.*`. -/
  onDemand : Bool
deriving DecidableEq, Repr

namespace Import

/-- The dotted name of an import. -/
def path (i : Import) : String := String.intercalate "." i.segments

/-- The name by which the source refers to what is imported. -/
def simpleName (i : Import) : String := i.segments.getLastD ""

/-- Whether the import names one thing to which no node refers. -/
def isUnused (nodes : List Node) (i : Import) : Bool :=
  !i.onDemand && !nodes.any (·.refersTo i.simpleName)

/-- The warning about an unused import. -/
def warning (i : Import) : Problem :=
  ⟨.warning, "The import " ++ i.path ++ " is never used", i.span⟩

/-- One warning for each unused import. -/
def unused (imports : List Import) (nodes : List Node) : List Problem :=
  (imports.filter (isUnused nodes)).map warning

end Import

end JavaLens
