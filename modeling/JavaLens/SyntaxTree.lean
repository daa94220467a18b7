import JavaLens.Problem

/-!
# Syntax trees

A syntax tree names things: it holds every declaration of a source with its extent, every other
occurrence of an identifier as a reference, and the problems of the source. Enclosing nodes come
before what they enclose, so the tree is a list in document order.

## Main definitions

* `Flavor`, `Declaration.Kind` — what a declaration introduces, in eleven and in three classes.
* `Node` — a declaration or a reference.
* `SyntaxTree.ofParts` — the tree with given nodes and problems, put into document order.
-/

namespace JavaLens

/-- An occurrence of an identifier. -/
structure Identifier where
  text : String
  span : Span
deriving DecidableEq, Repr, Inhabited

/-- The three kinds of declarations. -/
inductive Declaration.Kind where
  | type
  | method
  | var
deriving DecidableEq, Repr, Inhabited

namespace Declaration.Kind

/-- The kinds in order. -/
def all : List Kind := [type, method, var]

/-- The word for a kind. Every type is called a class. -/
def text : Kind → String
  | type => "class"
  | method => "method"
  | var => "variable"

end Declaration.Kind

/-- What a declaration introduces. -/
inductive Flavor where
  | «class»
  | interface
  | enum
  | record
  | annotationType
  | method
  | constructor
  | field
  | enumConstant
  | localVariable
  | parameter
deriving DecidableEq, Repr, Inhabited

namespace Flavor

/-- The flavors in order. -/
def all : List Flavor :=
  [«class», interface, enum, record, annotationType, method, constructor, field, enumConstant,
   localVariable, parameter]

/-- The kind of declaration that a flavor refines. -/
def kind : Flavor → Declaration.Kind
  | «class» | interface | enum | record | annotationType => .type
  | method | constructor => .method
  | field | enumConstant | localVariable | parameter => .var

/-- The words for a flavor. -/
def text : Flavor → String
  | «class» => "class"
  | interface => "interface"
  | enum => "enum"
  | record => "record"
  | annotationType => "annotation"
  | method => "method"
  | constructor => "constructor"
  | field => "field"
  | enumConstant => "enum constant"
  | localVariable => "local variable"
  | parameter => "parameter"

/-- The flavor with the given words. -/
def ofText? (t : String) : Option Flavor := all.find? (·.text == t)

end Flavor

/-- A declaration. Types and methods extend from their first modifier to their last token, variables
over name and initializer, parameters from their type to their name. -/
structure Declaration where
  flavor : Flavor
  name : Identifier
  span : Span
deriving DecidableEq, Repr, Inhabited

/-- The kind of a declaration. -/
def Declaration.kind (d : Declaration) : Declaration.Kind := d.flavor.kind

/-- A named place in a source: a declaration, or a reference to a name. -/
inductive Node where
  | declaration (d : Declaration)
  | reference (name : Identifier)
deriving DecidableEq, Repr, Inhabited

namespace Node

/-- The extent of a node; a reference extends over its name. -/
def span : Node → Span
  | declaration d => d.span
  | reference name => name.span

/-- The name at a node. -/
def identifier : Node → Identifier
  | declaration d => d.name
  | reference name => name

/-- The declaration at a node, if it is one. -/
def declaration? : Node → Option Declaration
  | declaration d => some d
  | reference _ => none

/-- Whether the node is a reference to `name`. -/
def refersTo (name : String) : Node → Bool
  | declaration _ => false
  | reference identifier => identifier.text == name

/-- The node extended to `stop`; its extent never ends before it starts. -/
def extendTo (stop : Nat) : Node → Node
  | declaration d => declaration { d with span := ⟨d.span.start, max stop d.span.start⟩ }
  | reference name => reference { name with span := ⟨name.span.start, max stop name.span.start⟩ }

/-- Document order: by start, and of two nodes that start together the longer one first. -/
def precedes (a b : Node) : Bool :=
  a.span.start < b.span.start ∨ (a.span.start = b.span.start ∧ b.span.stop ≤ a.span.stop)

end Node

/-- The nodes and problems of a source, each in document order. -/
structure SyntaxTree where
  nodes : List Node
  problems : List Problem
deriving DecidableEq, Repr, Inhabited

namespace SyntaxTree

/-- The tree with the given nodes and problems. What is equal in document order stays as given. -/
def ofParts (nodes : List Node) (problems : List Problem) : SyntaxTree where
  nodes := nodes.mergeSort Node.precedes
  problems := problems.mergeSort Problem.precedes

/-- The declarations of a tree, in document order. -/
def declarations (t : SyntaxTree) : List Declaration := t.nodes.filterMap Node.declaration?

/-- The first declaration of a name in document order. -/
def firstDeclaration? (t : SyntaxTree) (name : String) : Option Declaration :=
  t.declarations.find? (·.name.text == name)

/-- Whether a tree has neither nodes nor problems. -/
def isEmpty (t : SyntaxTree) : Bool := t.nodes.isEmpty && t.problems.isEmpty

end SyntaxTree

end JavaLens
