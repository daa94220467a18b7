import JavaLens.Grammar.CompilationUnit
import JavaLens.Tokenization

/-!
# The syntax tree of a source

## Main definitions

* `SyntaxTree.ofSource` — the nodes of a source, with the problems found by the scanner, by the
  grammar and among its imports.
-/

namespace JavaLens

/-- The syntax tree of a source. Every text has one: whatever is wrong with it is among the tree's
problems. -/
def SyntaxTree.ofSource (source : String) : SyntaxTree :=
  let scanned := tokenize source
  let parsed := Grammar.read scanned.tokens source.utf8ByteSize
  let nodes := parsed.nodes.toList
  ofParts nodes <|
    scanned.findings.map Finding.problem ++ parsed.findings.toList.map Finding.problem ++
      Import.unused parsed.imports.toList nodes

end JavaLens
