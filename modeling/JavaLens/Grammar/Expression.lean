import JavaLens.Grammar.Type

/-!
# Expressions

Expressions are skimmed: names become references, blocks are read, and creations of instances are
followed to their bodies. All else is passed over. An expression ends before a semicolon, a closing
brace, or a bracket that it has not opened.

## Main definitions

* `skim` — an expression with the regions in it read one level deeper.
* `skimFlat` — an expression at the deepest level, where the regions in it are skipped.
* `instanceCreation` — `new` with its type, arguments, dimensions and body.
-/

namespace JavaLens.Grammar

/-- The block at the cursor, if it is at one. -/
def blockIfSeen (inner : Inner) (s : State) : State := if s.sees .lbrace then inner.block s else s

/-- The body at the cursor, if it is at one. -/
def bodyIfSeen (inner : Inner) (s : State) : State :=
  if s.sees .lbrace then inner.body false s else s

/-- One dimension in the creation of an array. -/
def dimension (inner : Inner) (s : State) : State := (inner.expression [] s.bump).eat .rbracket

/-- What follows the type in the creation of an array: dimensions, and perhaps initial values. -/
def arrayCreation (inner : Inner) (s : State) : State :=
  blockIfSeen inner (whileSeen (·.sees .lbracket) (dimension inner) s)

/-- What follows the type in the creation of an instance. -/
def creationRest (inner : Inner) (s : State) : State :=
  if s.sees .lbracket then arrayCreation inner s
  else if s.sees .lparen then bodyIfSeen inner (parenthesized inner .instanceCreation s)
  else s

/-- The creation of an instance or of an array. -/
def instanceCreation (inner : Inner) (s : State) : State :=
  let s := typeArgumentsIfSeen inner s.bump
  let s := whileSeen (·.sees .atSign) (annotationUse inner) s
  match s.peek with
  | some (.keyword k) => if k.isPrimitive then creationRest inner s.bump else s
  | some .ident => creationRest inner (classType inner s)
  | _ => s

/-- A switch inside an expression. -/
def switchExpression (inner : Inner) (s : State) : State :=
  blockIfSeen inner (parenthesizedIfSeen inner .switchExpression s.bump)

/-- One step through an expression, inside `count` brackets that it has opened. -/
def skimTurn (block creation choice : State → State) (stops : List Token.Kind) (count : Nat)
    (s : State) : Turn Nat :=
  match s.peek with
  | none => .stop count s
  | some kind =>
    if count = 0 ∧ kind ∈ stops then .stop count s
    else
      match kind with
      | .semi | .rbrace => .stop count s
      | .rparen | .rbracket => if count = 0 then .stop count s else .again (count - 1) s.bump
      | .lparen | .lbracket => .again (count + 1) s.bump
      | .lbrace => .again count (block s)
      | .ident => .again count s.reference
      | .keyword .new => .again count (creation s)
      | .keyword .switch => .again count (choice s)
      | _ => .again count s.bump

/-- Passes over an expression, up to one of `stops` outside brackets at the latest. The three steps
say what is done at an opening brace, at `new` and at `switch`. -/
def skimWith (block creation choice : State → State) (stops : List Token.Kind) (s : State) :
    State := (repeatWhile (skimTurn block creation choice stops) 0 s).2

/-- An expression whose regions are read. -/
def skim (inner : Inner) : List Token.Kind → State → State :=
  skimWith inner.block (instanceCreation inner) (switchExpression inner)

/-- An expression whose blocks are too deep to be read; `new` and `switch` are nothing special. -/
def skimFlat : List Token.Kind → State → State :=
  skimWith State.skipTooDeep State.bump State.bump

end JavaLens.Grammar
