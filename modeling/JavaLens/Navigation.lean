import JavaLens.SyntaxTree

/-!
# Navigation

What stands at an offset, what it is, and where its name is declared. Names are compared as texts:
scopes, overloads and other sources play no part.

## Main definitions

* `SyntaxTree.nodeAt?`, `SyntaxTree.identifierAt?` — the innermost node at an offset and its name.
* `SyntaxTree.hover?` — a description of what stands at an offset.
* `SyntaxTree.definition?` — the declaration of the name at an offset.
-/

namespace JavaLens

/-- A description of the name at a place. -/
structure Hover where
  /-- The kind of the declaration and its name. -/
  contents : String
  /-- The name described. -/
  span : Span
deriving DecidableEq, Repr

namespace SyntaxTree

/-- The better of two nodes at an offset, the second of which comes later: the shorter one, and of
two equally long ones the later. -/
def innermost (best : Option Node) (node : Node) : Option Node :=
  match best with
  | some current => if current.span.length < node.span.length then some current else some node
  | none => some node

/-- The innermost node that touches an offset. -/
def nodeAt? (t : SyntaxTree) (offset : Nat) : Option Node :=
  (t.nodes.filter fun node => node.span.Touches offset).foldl innermost none

/-- The name at an offset. -/
def identifierAt? (t : SyntaxTree) (offset : Nat) : Option Identifier :=
  (t.nodeAt? offset).map Node.identifier

/-- The kind of what a node names: a declaration tells it itself, a reference takes it from the
first declaration of its name. -/
def kindOf? (t : SyntaxTree) : Node → Option Declaration.Kind
  | .declaration d => some d.kind
  | .reference name => (t.firstDeclaration? name.text).map Declaration.kind

/-- The description of the name at an offset. -/
def hover? (t : SyntaxTree) (offset : Nat) : Option Hover := do
  let node ← t.nodeAt? offset
  let kind ← t.kindOf? node
  return ⟨kind.text ++ " " ++ node.identifier.text, node.identifier.span⟩

/-- The first declaration, in document order, of the name at an offset. -/
def definition? (t : SyntaxTree) (offset : Nat) : Option Declaration := do
  let name ← t.identifierAt? offset
  t.firstDeclaration? name.text

end SyntaxTree

end JavaLens
