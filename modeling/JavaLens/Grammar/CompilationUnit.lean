import JavaLens.Grammar.Statement

/-!
# Compilation units

A source as a whole: package, imports and types. Expressions, blocks and bodies may nest up to
`maxNesting` levels deep; what lies deeper is reported and skipped.

## Main definitions

* `descend` — going one level deeper, or not at the limit.
* `nested` — how regions are read with a number of levels left.
* `compilationUnit` — the declarations of a source.
* `read` — what the grammar finds in the tokens of a source.
-/

namespace JavaLens.Grammar

/-- Reads a region one level deeper, or does `flat` where that is too deep. -/
def descend (region flat : State → State) (s : State) : State :=
  match s.enter? with
  | some s => (region s).leave
  | none => flat s

/-- How regions are read with `levels` levels left. -/
def nested (levels : Nat) : Inner :=
  match levels with
  | 0 =>
    { expression := skimFlat
      block := State.skipTooDeep
      body := fun _ => State.skipTooDeep }
  | levels + 1 =>
    let inner := nested levels
    { expression := fun stops => descend (skim inner stops) (skimFlat stops)
      block := descend (block inner) State.skipTooDeep
      body := fun isEnum => descend (body inner isEnum) State.skipTooDeep }

/-- One segment of a dotted name, with the dot that leads to another one. -/
def segmentTurn (segments : Array String) (s : State) : Turn (Array String) :=
  let segments := segments.push s.currentText
  let s := s.bump
  if s.sees .dot && s.seesAt 1 .ident then .again segments s.bump else .stop segments s

/-- The segments of a dotted name, which are not recorded as references. -/
def qualifiedName (s : State) : List String × State :=
  if s.sees .ident then
    let (segments, s) := repeatWhile segmentTurn #[] s
    (segments.toList, s)
  else ([], s)

/-- A package declaration. -/
def packageDeclaration (s : State) : State :=
  let word := s.currentSpan
  let (segments, s) := qualifiedName s.bump
  if segments.isEmpty then s.report (.expected .name Keyword.package.word) word
  else s.expectSemicolon .packageDeclaration

/-- An import declaration. -/
def importDeclaration (s : State) : State :=
  let word := s.currentSpan
  let s := s.bump.eat (.keyword .static)
  let start := s.currentStart
  let (segments, s) := qualifiedName s
  if segments.isEmpty then s.report (.expected .name Keyword.import.word) word
  else
    let span := ⟨start, s.lastEnd⟩
    let onDemand := s.sees .dot && s.seesOperator 1 "*"
    let s := if onDemand then s.advance 2 else s
    State.expectSemicolon { s with imports := s.imports.push ⟨segments, span, onDemand⟩ }
      .importDeclaration

/-- A declaration at the top of a source, or its end. -/
def unitTurn (inner : Inner) (_ : Unit) (s : State) : Turn Unit :=
  match s.peek with
  | none => .stop () s
  | some (.keyword .package) => .again () (packageDeclaration s)
  | some (.keyword .import) => .again () (importDeclaration s)
  | some .semi => .again () s.bump
  | some .rbrace => .again () s.junk
  | some _ => .again () (guarded (member inner) s)

/-- The declarations of a source. -/
def compilationUnit (inner : Inner) (s : State) : State := (repeatWhile (unitTurn inner) () s).2

/-- What the grammar finds in the tokens of a source of the given length. -/
def read (tokens : List Token) (sourceEnd : Nat) : State :=
  compilationUnit (nested maxNesting) (State.start tokens.toArray sourceEnd)

end JavaLens.Grammar
