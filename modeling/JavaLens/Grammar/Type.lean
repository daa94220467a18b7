import JavaLens.Grammar.Recovery

/-!
# Types, annotations and modifiers

The grammar goes deeper in three places only: expressions, blocks and bodies. What it does there is
handed to every function below as `Inner`, so none of them is recursive.

## Main definitions

* `Inner` — how the regions one level deeper are read.
* `annotationUse`, `skipModifiers` — what may stand before a declaration.
* `typeName`, `typeArguments` — types, whose names are recorded as references.
-/

namespace JavaLens.Grammar

/-- How the regions one level deeper are read. -/
structure Inner where
  /-- Moves over an expression, up to one of the given tokens at the latest. -/
  expression : List Token.Kind → State → State
  /-- Moves over a block. -/
  block : State → State
  /-- Moves over the body of a type, which opens with constants if it is that of an enum. -/
  body : Bool → State → State

/-- An expression in parentheses. -/
def parenthesized (inner : Inner) (construct : Construct) (s : State) : State :=
  (inner.expression [] s.bump).expectCloseParen construct

/-- The parentheses at the cursor, if it is at one. -/
def parenthesizedIfSeen (inner : Inner) (construct : Construct) (s : State) : State :=
  if s.sees .lparen then parenthesized inner construct s else s

/-- An identifier and `after` behind it, with the dot that leads to another one. -/
def dottedTurn (after : State → State) (_ : Unit) (s : State) : Turn Unit :=
  let s := after s.reference
  if s.sees .dot && s.seesAt 1 .ident then .again () s.bump else .stop () s

/-- An identifier, each further one behind a dot, and `after` behind each of them. -/
def dotted (after : State → State) (s : State) : State := (repeatWhile (dottedTurn after) () s).2

/-- An annotation. -/
def annotationUse (inner : Inner) (s : State) : State :=
  let s := s.bump
  let s := if s.sees .ident then dotted id s else s
  parenthesizedIfSeen inner .annotationUse s

/-- Whether an annotation, and not the declaration of an annotation type, starts at the cursor. -/
def seesAnnotationUse (s : State) : Bool := s.sees .atSign && !s.seesAt 1 (.keyword .interface)

/-- The number of tokens of the modifier at the cursor, annotations apart. -/
def modifierSize (s : State) : Nat :=
  match s.peek with
  | some (.keyword k) => if k.isModifier then 1 else 0
  | some .ident =>
    if s.seesWord 0 "sealed" && (s.peekAt 1).any (· matches .keyword _) then 1
    else if s.seesWord 0 "non" && s.seesOperator 1 "-" && s.seesWord 2 "sealed" then 3
    else 0
  | _ => 0

/-- Whether a modifier of a declaration starts at the cursor. -/
def seesModifier (s : State) : Bool := seesAnnotationUse s || modifierSize s ≠ 0

/-- One modifier of a declaration. -/
def modifier (inner : Inner) (s : State) : State :=
  if seesAnnotationUse s then annotationUse inner s else s.advance (modifierSize s)

/-- Moves over the modifiers of a declaration. -/
def skipModifiers (inner : Inner) (s : State) : State := whileSeen seesModifier (modifier inner) s

/-- Whether a modifier of a variable starts at the cursor. -/
def seesVariableModifier (s : State) : Bool := seesAnnotationUse s || s.sees (.keyword .final)

/-- One modifier of a variable. -/
def variableModifier (inner : Inner) (s : State) : State :=
  if seesAnnotationUse s then annotationUse inner s else s.bump

/-- Moves over the modifiers of a variable. -/
def skipVariableModifiers (inner : Inner) (s : State) : State :=
  whileSeen seesVariableModifier (variableModifier inner) s

/-- Whether an empty pair of brackets is at the cursor. -/
def seesDims (s : State) : Bool := s.sees .lbracket && s.seesAt 1 .rbracket

/-- Moves over pairs of brackets. -/
def skipDims (s : State) : State := whileSeen seesDims (·.advance 2) s

/-- Whether a token may stand between the brackets of type arguments without being a name, an
annotation or a bracket. -/
def joinsTypes (s : State) : Bool :=
  match s.peek with
  | some (.keyword k) => k = .extends ∨ k = .super ∨ k.isPrimitive
  | some .operator => s.seesOperator 0 "&"
  | some .question | some .comma | some .dot | some .lbracket | some .rbracket => true
  | _ => false

/-- One token or annotation among type arguments, `count` brackets inside the outermost ones. -/
def typeArgumentTurn (inner : Inner) (count : Nat) (s : State) : Turn Nat :=
  match s.peek with
  | some .lt => .again (count + 1) s.bump
  | some .gt => if count = 0 then .stop count s.bump else .again (count - 1) s.bump
  | some .ident => .again count s.reference
  | some .atSign => .again count (annotationUse inner s)
  | _ => if joinsTypes s then .again count s.bump else .stop count s

/-- Type arguments or type parameters, up to the bracket that closes them or to the first token that
cannot stand between. -/
def typeArguments (inner : Inner) (s : State) : State :=
  (repeatWhile (typeArgumentTurn inner) 0 s.bump).2

/-- The type arguments at the cursor, if it is at some. -/
def typeArgumentsIfSeen (inner : Inner) (s : State) : State :=
  if s.sees .lt then typeArguments inner s else s

/-- The name of a class type with its type arguments. -/
def classType (inner : Inner) (s : State) : State := dotted (typeArgumentsIfSeen inner) s

/-- A type, and whether there is one: a primitive type, `void` or a class type, with its array
dimensions. -/
def typeName (inner : Inner) (s : State) : Bool × State :=
  let s := whileSeen seesAnnotationUse (annotationUse inner) s
  match s.peek with
  | some (.keyword k) => if k.isPrimitive || k = .void then (true, skipDims s.bump) else (false, s)
  | some .ident =>
    if s.seesWord 0 "var" && s.seesAt 1 .ident then (true, skipDims s.bump)
    else (true, skipDims (classType inner s))
  | _ => (false, s)

/-- A type, with the comma that leads to another one. -/
def typeListTurn (inner : Inner) (_ : Unit) (s : State) : Turn Unit :=
  let (found, s) := typeName inner s
  if found && s.sees .comma then .again () s.bump else .stop () s

/-- Types with commas between them. -/
def typeList (inner : Inner) (s : State) : State := (repeatWhile (typeListTurn inner) () s).2

end JavaLens.Grammar
