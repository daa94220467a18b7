import JavaLens.Span

/-!
# Problems

What is wrong with a source is data, not failure. The scanner and the grammar record *findings*,
faults with the place they were found at. A syntax tree carries *problems*: findings, and warnings
about imports, in the wording shown to a user.

## Main definitions

* `Fault` — the causes of errors, with their wording in `Fault.message`.
* `Finding` — a fault at a place.
* `Problem` — a severity, a message and a place.
-/

namespace JavaLens

/-- The symbols that the grammar may find missing. -/
inductive Missing where
  | semicolon
  | closingParen
  | closingBrace
  | classBody
deriving DecidableEq, Repr

/-- The constructs that a missing symbol would complete. -/
inductive Construct where
  | packageDeclaration
  | importDeclaration
  | typeDeclaration
  | classBody
  | block
  | fieldDeclaration
  | methodDeclaration
  | recordHeader
  | enumConstant
  | annotationUse
  | statement
  | forStatement
  | resourceSpecification
  | catchClause
  | switchExpression
  | instanceCreation
deriving DecidableEq, Repr

/-- The names that the grammar may look for in vain behind a token. -/
inductive Expected where
  | name
  | identifier
  | declaratorId
deriving DecidableEq, Repr

/-- The causes of errors in a source. -/
inductive Fault where
  /-- Characters that start no token. -/
  | unknownCharacters (text : String)
  /-- A block comment that is not closed. -/
  | openComment
  /-- A text block that is not closed. -/
  | openTextBlock
  /-- A string that is not closed on its line. -/
  | openString
  /-- A character literal that is not closed on its line. -/
  | openCharacter
  /-- A symbol is missing at the end of a construct. -/
  | missing (symbol : Missing) (construct : Construct)
  /-- A name is missing behind a token. -/
  | expected (what : Expected) (token : String)
  /-- A token that fits nowhere. -/
  | strayToken (text : String)
  /-- A run of tokens that fit nowhere. -/
  | strayTokens
  /-- A region that is nested too deep to be read. -/
  | tooDeep
deriving DecidableEq, Repr

/-- The spelling of a missing symbol. -/
def Missing.text : Missing → String
  | semicolon => ";"
  | closingParen => ")"
  | closingBrace => "\x7d"
  | classBody => "ClassBody"

/-- The name of a construct as the grammar of Java has it. -/
def Construct.text : Construct → String
  | packageDeclaration => "PackageDeclaration"
  | importDeclaration => "ImportDeclaration"
  | typeDeclaration => "TypeDeclaration"
  | classBody => "ClassBody"
  | block => "Block"
  | fieldDeclaration => "FieldDeclaration"
  | methodDeclaration => "MethodDeclaration"
  | recordHeader => "RecordHeader"
  | enumConstant => "EnumConstant"
  | annotationUse => "Annotation"
  | statement => "Statement"
  | forStatement => "ForStatement"
  | resourceSpecification => "ResourceSpecification"
  | catchClause => "CatchClause"
  | switchExpression => "SwitchExpression"
  | instanceCreation => "ClassInstanceCreationExpression"

/-- The name of an expected name as the grammar of Java has it. -/
def Expected.text : Expected → String
  | name => "Name"
  | identifier => "Identifier"
  | declaratorId => "VariableDeclaratorId"

/-- The wording of a fault. -/
def Fault.message : Fault → String
  | unknownCharacters text => "Syntax error on token \"" ++ text ++ "\", delete this token"
  | openComment => "Unexpected end of comment"
  | openTextBlock => "Text block is not properly closed with the delimiter"
  | openString => "String literal is not properly closed by a double-quote"
  | openCharacter => "Invalid character constant"
  | missing symbol construct =>
    "Syntax error, insert \"" ++ symbol.text ++ "\" to complete " ++ construct.text
  | expected what token =>
    "Syntax error on token \"" ++ token ++ "\", " ++ what.text ++ " expected after this token"
  | strayToken text => "Syntax error on token \"" ++ text ++ "\", delete this token"
  | strayTokens => "Syntax error on tokens, delete these tokens"
  | tooDeep => "Nesting is too deep, contents are not analyzed"

/-- A fault and where it was found. -/
structure Finding where
  fault : Fault
  span : Span
deriving DecidableEq, Repr

/-- How serious a problem is. -/
inductive Severity where
  | error
  | warning
deriving DecidableEq, Repr, Inhabited

/-- The name of a severity. -/
def Severity.text : Severity → String
  | error => "error"
  | warning => "warning"

/-- A problem in the wording shown to a user. -/
structure Problem where
  severity : Severity
  message : String
  span : Span
deriving DecidableEq, Repr, Inhabited

namespace Problem

/-- Whether the problem is an error. -/
def isError (p : Problem) : Bool := p.severity == .error

/-- Document order: by start. -/
def precedes (a b : Problem) : Bool := a.span.start ≤ b.span.start

/-- The problem on one line: severity, message and byte range. -/
def describe (p : Problem) : String :=
  p.severity.text ++ ": " ++ p.message ++ " at " ++ p.span.start.repr ++ ".." ++ p.span.stop.repr

end Problem

/-- A finding is an error. -/
def Finding.problem (f : Finding) : Problem := ⟨.error, f.fault.message, f.span⟩

end JavaLens
