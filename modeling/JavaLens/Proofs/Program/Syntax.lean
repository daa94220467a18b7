import JavaLens.Proofs.Grammar.Moves
import JavaLens.Proofs.Tokenization.Words

/-!
# Programs of a core language

Types with modifiers and members, down to statements, as trees. A program says which words it is
written with, what it declares, and how deep its braces nest.

## Main definitions

* `Program.Name`, `Program.Literal` — the words that a program is free to choose.
* `Program.TypeExpr`, `Program.Parameter` — types and parameters.
* `Program.TypeDecl`, `Program.Member`, `Program.Statement` — declarations and statements.
* `Program.TypeDecl.words`, `Program.TypeDecl.declared`, `Program.TypeDecl.nesting` — what a
  declaration is written with, what it declares, and how deep its braces nest.
-/

namespace JavaLens.Program

/-! ## Words -/

/-- An identifier that is reserved nowhere. -/
structure Name where
  text : String
  isToken : (Word.mk .ident text).isToken
  unreserved : text ∉ Grammar.contextualWords

/-- A literal with nothing wrong. -/
structure Literal where
  text : String
  isToken : (Word.mk .literal text).isToken

/-- The word of a name. -/
def Name.word (x : Name) : Word := ⟨.ident, x.text⟩

/-- The word of a literal. -/
def Literal.word (v : Literal) : Word := ⟨.literal, v.text⟩

/-- A reserved word. -/
def keyword (k : Keyword) : Word := ⟨.keyword k, k.word⟩

/-- The word that introduces a record. -/
def recordWord : Word := ⟨.ident, "record"⟩

abbrev lbrace : Word := ⟨.lbrace, "\x7b"⟩
abbrev rbrace : Word := ⟨.rbrace, "\x7d"⟩
abbrev lparen : Word := ⟨.lparen, "("⟩
abbrev rparen : Word := ⟨.rparen, ")"⟩
abbrev lbracket : Word := ⟨.lbracket, "["⟩
abbrev rbracket : Word := ⟨.rbracket, "]"⟩
abbrev semi : Word := ⟨.semi, ";"⟩
abbrev comma : Word := ⟨.comma, ","⟩
abbrev atSign : Word := ⟨.atSign, "@"⟩
abbrev assign : Word := ⟨.assign, "="⟩
abbrev lt : Word := ⟨.lt, "<"⟩
abbrev gt : Word := ⟨.gt, ">"⟩

/-- Phrases with commas between them. -/
def commaSeparated : List (List Word) → List Word
  | [] => []
  | ws :: wss => ws ++ wss.flatMap (comma :: ·)

/-! ## Trees -/

/-- A modifier of a declaration. -/
inductive Modifier where
  | «public»
  | static
  | final

/-- A type. -/
inductive TypeExpr where
  | primitive (word : Keyword) (isPrimitive : word.isPrimitive)
  | named (name : Name)
  | generic (name : Name) (first : TypeExpr) (further : List TypeExpr)
  | array (element : TypeExpr)

/-- A parameter of a method or constructor, or a component of a record. -/
structure Parameter where
  type : TypeExpr
  name : Name

/-- What stands before the members of a type. -/
inductive Head where
  | «class» (name : Name)
  | interface (name : Name)
  | annotationType (name : Name)
  | enum (name : Name) (constants : List Name)
  | record (name : Name) (components : List Parameter)

mutual

/-- The declaration of a type. -/
inductive TypeDecl where
  | mk (modifiers : List Modifier) (head : Head) (members : List Member)

/-- A member of a type. A method without a result is `void`. -/
inductive Member where
  | type (declaration : TypeDecl)
  | field (modifiers : List Modifier) (type : TypeExpr) (name : Name) (value : Option Literal)
  | method (modifiers : List Modifier) (result : Option TypeExpr) (name : Name)
      (parameters : List Parameter) (body : List Statement)
  | abstractMethod (modifiers : List Modifier) (result : Option TypeExpr) (name : Name)
      (parameters : List Parameter)
  | constructor (modifiers : List Modifier) (name : Name) (parameters : List Parameter)
      (body : List Statement)

/-- A statement in the body of a method or constructor. -/
inductive Statement where
  | localVariable (type : TypeExpr) (name : Name) (value : Option Literal)
  | assignment (target source : Name)
  | «return» (value : Literal)
  | block (body : List Statement)
  | «if» (condition : Name) (body : List Statement)
  | type (declaration : TypeDecl)

end

/-! ## What programs are written with -/

/-- The reserved word of a modifier. -/
def Modifier.keyword : Modifier → Keyword
  | .public => .public
  | .static => .static
  | .final => .final

/-- The words of modifiers. -/
def modifierWords (modifiers : List Modifier) : List Word :=
  modifiers.map fun q => keyword q.keyword

mutual

/-- The words of a type. -/
def TypeExpr.words : TypeExpr → List Word
  | .primitive word _ => [keyword word]
  | .named name => [name.word]
  | .generic name first further =>
    name.word :: lt :: (first.words ++ TypeExpr.furtherWords further ++ [gt])
  | .array element => element.words ++ [lbracket, rbracket]

/-- The words of further type arguments, each behind a comma. -/
def TypeExpr.furtherWords : List TypeExpr → List Word
  | [] => []
  | type :: types => comma :: type.words ++ TypeExpr.furtherWords types

end

/-- The words of the type of what a method gives back. -/
def resultWords : Option TypeExpr → List Word
  | none => [keyword .void]
  | some type => type.words

/-- The words of a parameter. -/
def Parameter.words (p : Parameter) : List Word := p.type.words ++ [p.name.word]

/-- The words of parameters in parentheses. -/
def parameterWords (parameters : List Parameter) : List Word :=
  lparen :: commaSeparated (parameters.map Parameter.words) ++ [rparen]

/-- The words of an initial value, if there is one. -/
def valueWords : Option Literal → List Word
  | none => []
  | some value => [assign, value.word]

namespace Head

/-- The name of the type. -/
def name : Head → Name
  | .class name | .interface name | .annotationType name | .enum name _ | .record name _ => name

/-- What the head introduces. -/
def flavor : Head → Flavor
  | .class _ => .class
  | .interface _ => .interface
  | .annotationType _ => .annotationType
  | .enum _ _ => .enum
  | .record _ _ => .record

/-- The words up to the name. -/
def introduction : Head → List Word
  | .class _ => [keyword .class]
  | .interface _ => [keyword .interface]
  | .annotationType _ => [atSign, keyword .interface]
  | .enum _ _ => [keyword .enum]
  | .record _ _ => [recordWord]

/-- The words between the name and the brace. -/
def componentWords : Head → List Word
  | .record _ components => parameterWords components
  | _ => []

/-- The words between the brace and the first member. -/
def constantWords : Head → List Word
  | .enum _ constants => commaSeparated (constants.map fun x => [x.word]) ++ [semi]
  | _ => []

end Head

mutual

/-- The words of the declaration of a type. -/
def TypeDecl.words : TypeDecl → List Word
  | .mk modifiers head members =>
    modifierWords modifiers ++ head.introduction ++ [head.name.word] ++ head.componentWords ++
      [lbrace] ++ head.constantWords ++ memberWords members ++ [rbrace]

/-- The words of a member. -/
def Member.words : Member → List Word
  | .type declaration => declaration.words
  | .field modifiers type name value =>
    modifierWords modifiers ++ type.words ++ [name.word] ++ valueWords value ++ [semi]
  | .method modifiers result name parameters body =>
    modifierWords modifiers ++ resultWords result ++ [name.word] ++ parameterWords parameters ++
      [lbrace] ++ statementWords body ++ [rbrace]
  | .abstractMethod modifiers result name parameters =>
    modifierWords modifiers ++ resultWords result ++ [name.word] ++ parameterWords parameters ++
      [semi]
  | .constructor modifiers name parameters body =>
    modifierWords modifiers ++ [name.word] ++ parameterWords parameters ++
      [lbrace] ++ statementWords body ++ [rbrace]

/-- The words of members. -/
def memberWords : List Member → List Word
  | [] => []
  | m :: ms => m.words ++ memberWords ms

/-- The words of a statement. -/
def Statement.words : Statement → List Word
  | .localVariable type name value => type.words ++ [name.word] ++ valueWords value ++ [semi]
  | .assignment target source => [target.word, assign, source.word, semi]
  | .return value => [keyword .return, value.word, semi]
  | .block body => [lbrace] ++ statementWords body ++ [rbrace]
  | .if condition body =>
    [keyword .if, lparen, condition.word, rparen, lbrace] ++ statementWords body ++ [rbrace]
  | .type declaration => declaration.words

/-- The words of statements. -/
def statementWords : List Statement → List Word
  | [] => []
  | s :: ss => s.words ++ statementWords ss

end

/-! ## What programs declare -/

/-- What parameters declare. -/
def declaredParameters (flavor : Flavor) (parameters : List Parameter) : List (Flavor × String) :=
  parameters.map fun p => (flavor, p.name.text)

/-- What the components of a record declare. -/
def Head.declaredComponents : Head → List (Flavor × String)
  | .record _ components => declaredParameters .field components
  | _ => []

/-- What the constants of an enum declare. -/
def Head.declaredConstants : Head → List (Flavor × String)
  | .enum _ constants => constants.map fun x => (.enumConstant, x.text)
  | _ => []

mutual

/-- What the declaration of a type declares, in preorder: the type, its components or constants, and
what its members declare. -/
def TypeDecl.declared : TypeDecl → List (Flavor × String)
  | .mk _ head members =>
    (head.flavor, head.name.text) ::
      (head.declaredComponents ++ head.declaredConstants ++ declaredByMembers members)

/-- What a member declares. -/
def Member.declared : Member → List (Flavor × String)
  | .type declaration => declaration.declared
  | .field _ _ name _ => [(.field, name.text)]
  | .method _ _ name parameters body =>
    (.method, name.text) ::
      (declaredParameters .parameter parameters ++ declaredByStatements body)
  | .abstractMethod _ _ name parameters =>
    (.method, name.text) :: declaredParameters .parameter parameters
  | .constructor _ name parameters body =>
    (.constructor, name.text) ::
      (declaredParameters .parameter parameters ++ declaredByStatements body)

/-- What members declare. -/
def declaredByMembers : List Member → List (Flavor × String)
  | [] => []
  | m :: ms => m.declared ++ declaredByMembers ms

/-- What a statement declares. -/
def Statement.declared : Statement → List (Flavor × String)
  | .localVariable _ name _ => [(.localVariable, name.text)]
  | .assignment _ _ | .return _ => []
  | .block body | .if _ body => declaredByStatements body
  | .type declaration => declaration.declared

/-- What statements declare. -/
def declaredByStatements : List Statement → List (Flavor × String)
  | [] => []
  | s :: ss => s.declared ++ declaredByStatements ss

end

/-! ## How deep programs nest -/

mutual

/-- How deep the braces of a type nest. -/
def TypeDecl.nesting : TypeDecl → Nat
  | .mk _ _ members => nestingOfMembers members + 1

/-- How deep the braces of a member nest. -/
def Member.nesting : Member → Nat
  | .type declaration => declaration.nesting
  | .field .. | .abstractMethod .. => 0
  | .method _ _ _ _ body | .constructor _ _ _ body => nestingOfStatements body + 1

/-- How deep the braces of members nest. -/
def nestingOfMembers : List Member → Nat
  | [] => 0
  | m :: ms => max m.nesting (nestingOfMembers ms)

/-- How deep the braces of a statement nest. -/
def Statement.nesting : Statement → Nat
  | .localVariable .. | .assignment .. | .return _ => 0
  | .block body | .if _ body => nestingOfStatements body + 1
  | .type declaration => declaration.nesting

/-- How deep the braces of statements nest. -/
def nestingOfStatements : List Statement → Nat
  | [] => 0
  | s :: ss => max s.nesting (nestingOfStatements ss)

end

end JavaLens.Program
