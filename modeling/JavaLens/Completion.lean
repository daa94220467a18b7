import JavaLens.SyntaxTree

/-!
# Completion

Every declaration of a source is a candidate for completion, wherever the cursor stands.

## Main definitions

* `Completion` — a candidate.
* `SyntaxTree.completions` — the candidates of a source, in document order.
-/

namespace JavaLens

/-- The kind of a candidate, numbered as in the editor protocol. -/
structure Completion.Kind where
  code : Int
deriving DecidableEq, Repr, Inhabited

/-- The kinds that declarations have as candidates. -/
def Completion.Kind.ofDeclaration : Declaration.Kind → Completion.Kind
  | .type => ⟨7⟩
  | .method => ⟨2⟩
  | .var => ⟨6⟩

/-- A candidate for completion. -/
structure Completion where
  label : String
  detail : Option String
  kind : Completion.Kind
deriving DecidableEq, Repr, Inhabited

/-- The candidate that a declaration is. -/
def Completion.ofDeclaration (d : Declaration) : Completion :=
  ⟨d.name.text, some d.flavor.text, .ofDeclaration d.kind⟩

/-- One candidate for each declaration, in document order. -/
def SyntaxTree.completions (t : SyntaxTree) : List Completion :=
  t.declarations.map Completion.ofDeclaration

end JavaLens
