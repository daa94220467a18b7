import JavaLens.Grammar.Member

/-!
# Statements

Statements are read word by word: `else` or `finally` is a statement of its own, and so is the head
of an `if` without what it governs. A declaration of local variables looks like an expression at
first, so it is tried before the expression.

## Main definitions

* `statement` — one step through a block.
* `localVariables` — a declaration of local variables, tried.
* `block` — the braces of a block and the statements between them.
-/

namespace JavaLens.Grammar

/-- Whether the identifier `yield` at the cursor opens a statement. -/
def seesYield (s : State) : Bool :=
  s.seesWord 0 "yield" &&
    match s.peekAt 1 with
    | none | some .assign | some .dot | some .lparen | some .lbracket | some .semi
    | some .operator => false
    | some _ => true

/-- Whether a local type starts at the cursor, and the state as it was. Modifiers are passed over to
see it, and come back to. -/
def seesLocalType (inner : Inner) (s : State) : Bool × State :=
  let mark := s.mark
  let s := skipModifiers inner s
  let found := (typeFlavor? s).isSome || (s.sees .atSign && s.seesAt 1 (.keyword .interface))
  (found, s.rewind mark)

/-- Whether the identifier at the cursor is being declared, as the token behind it shows. -/
def seesDeclarator (s : State) : Bool :=
  s.sees .ident &&
    match s.peekAt 1 with
    | none | some .assign | some .semi | some .comma | some .lbracket | some .colon
    | some .rparen => true
    | some _ => false

/-- A declaration of local variables, and whether there is one. If there is none, the state is as it
was. -/
def localVariables (inner : Inner) (s : State) : Bool × State :=
  let mark := s.mark
  let (found, s) := typeName inner (skipVariableModifiers inner s)
  if found && seesDeclarator s then (true, declarators inner .localVariable s)
  else (false, s.rewind mark)

/-- A declaration of local variables, or else an expression. -/
def variablesOrExpression (inner : Inner) (s : State) : State :=
  let (found, s) := localVariables inner s
  if found then s else inner.expression [] s

/-- The head of a `for` statement. -/
def forHeader (inner : Inner) (s : State) : State :=
  let s := s.bump
  let s := if s.sees .semi then s else variablesOrExpression inner s
  let s :=
    if s.sees .colon then inner.expression [] s.bump
    else if s.sees .semi then inner.expression [] ((inner.expression [] s.bump).eat .semi)
    else s
  s.expectCloseParen .forStatement

/-- A resource or a semicolon, or the end of the resources. -/
def resourceTurn (inner : Inner) (_ : Unit) (s : State) : Turn Unit :=
  match s.peek with
  | some .rparen => .stop () s.bump
  | none | some .lbrace | some .rbrace => .stop () (s.expectCloseParen .resourceSpecification)
  | some .semi => .again () s.bump
  | some _ => .again () (guarded (variablesOrExpression inner) s)

/-- The resources of a `try` statement. -/
def resources (inner : Inner) (s : State) : State :=
  (repeatWhile (resourceTurn inner) () s.bump).2

/-- A further type of a parameter that catches several, behind its bar. -/
def alternativeType (inner : Inner) (s : State) : State := (typeName inner s.bump).2

/-- The further types of a parameter that catches several. -/
def alternativeTypes (inner : Inner) (s : State) : State :=
  whileSeen (·.seesOperator 0 "|") (alternativeType inner) s

/-- The parameter of a `catch` clause. -/
def catchParameter (inner : Inner) (s : State) : State :=
  let s := s.bump
  let start := s.currentStart
  let (found, s) := typeName inner (skipVariableModifiers inner s)
  let s :=
    if found then
      let s := alternativeTypes inner s
      match s.identifier? with
      | none => s.missingDeclaratorId
      | some (name, s) =>
        let (index, s) := s.openDeclaration .parameter name start
        s.closeDeclaration index
    else s
  s.expectCloseParen .catchClause

/-- A word and the expression behind it, up to the semicolon. -/
def wordAndExpression (inner : Inner) (s : State) : State := (inner.expression [] s.bump).eat .semi

/-- The label of a case. -/
def caseLabel (inner : Inner) (s : State) : State :=
  let s := inner.expression [.colon, .arrow] s.bump
  if s.sees .colon then s.bump else s.eat .arrow

/-- A local type, or else local variables or an expression. -/
def otherStatement (inner : Inner) (s : State) : State :=
  let (found, s) := seesLocalType inner s
  if found then member inner s else (variablesOrExpression inner s).eat .semi

/-- One step through a block. -/
def statement (inner : Inner) (s : State) : State :=
  match s.peek with
  | none => s
  | some .lbrace => inner.block s
  | some .semi => s.bump
  | some .rparen | some .rbracket => s.junk
  | some (.keyword .if) | some (.keyword .while) | some (.keyword .switch)
  | some (.keyword .synchronized) => parenthesizedIfSeen inner .statement s.bump
  | some (.keyword .else) | some (.keyword .do) | some (.keyword .finally) => s.bump
  | some (.keyword .try) =>
    let s := s.bump
    if s.sees .lparen then resources inner s else s
  | some (.keyword .catch) =>
    let s := s.bump
    if s.sees .lparen then catchParameter inner s else s
  | some (.keyword .for) =>
    let s := s.bump
    if s.sees .lparen then forHeader inner s else s
  | some (.keyword .case) => caseLabel inner s
  | some (.keyword .default) =>
    if s.seesAt 1 .colon || s.seesAt 1 .arrow then s.advance 2 else otherStatement inner s
  | some (.keyword .return) | some (.keyword .throw) | some (.keyword .assert)
  | some (.keyword .break) | some (.keyword .continue) => wordAndExpression inner s
  | some .ident =>
    if s.seesAt 1 .colon then s.advance 2
    else if seesYield s then wordAndExpression inner s
    else otherStatement inner s
  | some _ => otherStatement inner s

/-- A step through a block, or its end. -/
def blockTurn (inner : Inner) (_ : Unit) (s : State) : Turn Unit :=
  match s.peek with
  | none => .stop () (s.report (.missing .closingBrace .block) s.previousSpan)
  | some .rbrace => .stop () s.bump
  | some _ => .again () (guarded (statement inner) s)

/-- A block, from its opening to its closing brace. -/
def block (inner : Inner) (s : State) : State := (repeatWhile (blockTurn inner) () s.bump).2

end JavaLens.Grammar
