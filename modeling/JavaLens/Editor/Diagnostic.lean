import JavaLens.Editor.Range
import JavaLens.Settings
import JavaLens.SyntaxTree

/-!
# Diagnostics

The problems of a source as an editor shows them.

## Main definitions

* `Editor.Diagnostic` — a problem with its range and the source that names it.
* `SyntaxTree.diagnostics` — what is published about a text.
-/

namespace JavaLens.Editor

/-- A problem as it is sent. -/
structure Diagnostic where
  range : Range
  severity : Severity
  source : String
  message : String
deriving DecidableEq, Repr

namespace Diagnostic

/-- The number of a severity in the editor protocol. -/
def severityCode : Severity → Nat
  | .error => 1
  | .warning => 2

/-- The JSON form of a diagnostic. -/
def toJson (d : Diagnostic) : Json :=
  .object [("range", d.range.toJson), ("severity", .nat (severityCode d.severity)),
    ("source", .string d.source), ("message", .string d.message)]

end Diagnostic

end JavaLens.Editor

namespace JavaLens

/-- The diagnostics of a text with the given tree, one for each problem, without the warnings if the
settings say so. -/
def SyntaxTree.diagnostics (t : SyntaxTree) (text : String) (settings : Settings.Diagnostics) :
    List Editor.Diagnostic :=
  let index := LineIndex.ofText text
  (t.problems.filter fun p => settings.publishWarnings || p.isError).map fun p =>
    ⟨.ofSpan index p.span, p.severity, settings.source, p.message⟩

end JavaLens
