import JavaLens.Grammar.Expression

/-!
# Members

Types, fields, methods, constructors and initializers, in a type or at the top of a source.

## Main definitions

* `member` — one member with its modifiers.
* `typeDeclaration`, `methodRest`, `declarators`, `formalParameters` — the parts of a member.
* `body` — the braces of a type and the members between them.
-/

namespace JavaLens.Grammar

/-- A name being declared with dimensions and initial value, and the comma that leads to another. -/
def declaratorTurn (inner : Inner) (flavor : Flavor) (_ : Unit) (s : State) : Turn Unit :=
  match s.identifier? with
  | none => .stop () s
  | some (name, s) =>
    let (index, s) := s.openDeclaration flavor name name.span.start
    let s := skipDims s
    let s := if s.sees .assign then inner.expression [.comma] s.bump else s
    let s := s.closeDeclaration index
    if s.sees .comma then .again () s.bump else .stop () s

/-- Names being declared, with commas between them, each with dimensions and initial value. -/
def declarators (inner : Inner) (flavor : Flavor) (s : State) : State :=
  (repeatWhile (declaratorTurn inner flavor) () s).2

/-- One parameter, from its first modifier to its name. The receiver `this` is no parameter. -/
def formalParameter (inner : Inner) (flavor : Flavor) (s : State) : State :=
  let start := s.currentStart
  let (found, s) := typeName inner (skipVariableModifiers inner s)
  if !found then s.junk
  else
    let s := s.eat .ellipsis
    if s.sees (.keyword .this) then s.bump
    else
      match s.identifier? with
      | none => s.missingDeclaratorId
      | some (name, s) =>
        let (index, s) := s.openDeclaration flavor name start
        (skipDims s).closeDeclaration index

/-- A parameter or a comma, or the end of the parameters. -/
def parameterTurn (inner : Inner) (flavor : Flavor) (construct : Construct) (_ : Unit) (s : State) :
    Turn Unit :=
  match s.peek with
  | some .rparen => .stop () s.bump
  | none | some .lbrace | some .rbrace | some .semi => .stop () (s.expectCloseParen construct)
  | some .comma => .again () s.bump
  | some _ => .again () (formalParameter inner flavor s)

/-- Parameters in parentheses. -/
def formalParameters (inner : Inner) (flavor : Flavor) (construct : Construct) (s : State) :
    State := (repeatWhile (parameterTurn inner flavor construct) () s.bump).2

/-- One of the parts that may stand between the name of a type and its body. -/
def headerTurn (inner : Inner) (flavor : Flavor) (_ : Unit) (s : State) : Turn Unit :=
  match s.peek with
  | some .lt => .again () (typeArguments inner s)
  | some .lparen =>
    if flavor = .record then .again () (formalParameters inner .field .recordHeader s)
    else .stop () s
  | some (.keyword .extends) | some (.keyword .implements) => .again () (typeList inner s.bump)
  | some .ident =>
    if s.seesWord 0 "permits" then .again () (typeList inner s.bump) else .stop () s
  | _ => .stop () s

/-- What stands between the name of a type and its body. -/
def typeHeader (inner : Inner) (flavor : Flavor) (s : State) : State :=
  (repeatWhile (headerTurn inner flavor) () s).2

/-- A type from the word that introduces it; its modifiers start at `start`. -/
def typeDeclaration (inner : Inner) (start : Nat) (flavor : Flavor) (s : State) : State :=
  let word := s.currentText
  let wordSpan := s.currentSpan
  let s := s.bump
  match s.identifier? with
  | none =>
    let s := s.report (.expected .identifier word) wordSpan
    if s.sees .lbrace then inner.body (flavor = .enum) s else s
  | some (name, s) =>
    let (index, s) := s.openDeclaration flavor name start
    let s := typeHeader inner flavor s
    let s :=
      if s.sees .lbrace then inner.body (flavor = .enum) s
      else s.report (.missing .classBody .typeDeclaration) s.previousSpan
    s.closeDeclaration index

/-- What follows the name of a method or constructor. -/
def methodRest (inner : Inner) (start : Nat) (flavor : Flavor) (name : Identifier) (s : State) :
    State :=
  let (index, s) := s.openDeclaration flavor name start
  let s := if s.sees .lparen then formalParameters inner .parameter .methodDeclaration s else s
  let s := skipDims s
  let s := if s.sees (.keyword .throws) then typeList inner s.bump else s
  let s := if s.sees (.keyword .default) then inner.expression [] s.bump else s
  let s := if s.sees .lbrace then inner.block s else s.expectSemicolon .methodDeclaration
  s.closeDeclaration index

/-- What follows the type of a field or method. -/
def typedMember (inner : Inner) (start : Nat) (s : State) : State :=
  match s.identifier? with
  | none => s.missingDeclaratorId.eat .semi
  | some (name, behind) =>
    if s.seesAt 1 .lparen then methodRest inner start .method name behind
    else (declarators inner .field s).expectSemicolon .fieldDeclaration

/-- A field, method or constructor behind its modifiers, which start at `start`. The compact
constructor of a record has no parameters. -/
def fieldOrMethod (inner : Inner) (start : Nat) (s : State) : State :=
  match s.identifier?, s.peekAt 1 with
  | some (name, behind), some .lparen | some (name, behind), some .lbrace =>
    methodRest inner start .constructor name behind
  | _, _ =>
    let (found, s) := typeName inner s
    if found then typedMember inner start s else s.junk

/-- Whether a record, and not a use of the identifier `record`, starts at the cursor. -/
def seesRecord (s : State) : Bool :=
  s.seesWord 0 "record" && s.seesAt 1 .ident && (s.seesAt 2 .lparen || s.seesAt 2 .lt)

/-- The flavor of the type whose introducing word is at the cursor, annotation types apart. -/
def typeFlavor? (s : State) : Option Flavor :=
  match s.peek with
  | some (.keyword .class) => some .class
  | some (.keyword .interface) => some .interface
  | some (.keyword .enum) => some .enum
  | _ => if seesRecord s then some .record else none

/-- One member. -/
def member (inner : Inner) (s : State) : State :=
  let start := s.currentStart
  let before := s.cursor
  let s := skipModifiers inner s
  match typeFlavor? s, s.peek with
  | some flavor, _ => typeDeclaration inner start flavor s
  | none, none =>
    if before < s.cursor then s.report (.strayToken s.previousText) s.previousSpan else s
  | none, some .lbrace => inner.block s
  | none, some .atSign =>
    if s.seesAt 1 (.keyword .interface) then typeDeclaration inner start .annotationType s.bump
    else fieldOrMethod inner start s
  | none, some .lt => fieldOrMethod inner start (typeArguments inner s)
  | none, some _ => fieldOrMethod inner start s

/-- A constant of an enum, and the comma that leads to another one. -/
def constantTurn (inner : Inner) (_ : Unit) (s : State) : Turn Unit :=
  let s := whileSeen (·.sees .atSign) (annotationUse inner) s
  match s.identifier? with
  | none => .stop () s
  | some (name, s) =>
    let (index, s) := s.openDeclaration .enumConstant name name.span.start
    let s := bodyIfSeen inner (parenthesizedIfSeen inner .enumConstant s)
    let s := s.closeDeclaration index
    if s.sees .comma then .again () s.bump else .stop () s

/-- The constants at the start of the body of an enum, with the semicolon behind them. -/
def enumConstants (inner : Inner) (s : State) : State :=
  State.eat (repeatWhile (constantTurn inner) () s).2 .semi

/-- A member of a type, or the end of its body. -/
def bodyTurn (inner : Inner) (_ : Unit) (s : State) : Turn Unit :=
  match s.peek with
  | none => .stop () (s.report (.missing .closingBrace .classBody) s.previousSpan)
  | some .rbrace => .stop () s.bump
  | some .semi => .again () s.bump
  | some _ => .again () (guarded (member inner) s)

/-- The body of a type, from its opening to its closing brace. -/
def body (inner : Inner) (isEnum : Bool) (s : State) : State :=
  let s := s.bump
  let s := if isEnum then enumConstants inner s else s
  (repeatWhile (bodyTurn inner) () s).2

end JavaLens.Grammar
