import JavaLens.Completion
import JavaLens.Editor.Range
import JavaLens.Outline

/-!
# Outlines and completions on the wire

## Main definitions

* `Editor.DocumentSymbol` — an entry of an outline with ranges in place of spans.
* `Completion.toJson` — the JSON form of a candidate for completion.
-/

namespace JavaLens.Editor

/-- An entry of an outline as it is sent. -/
structure DocumentSymbol where
  name : String
  detail : Option String
  kind : Symbol.Kind
  range : Range
  selectionRange : Range
  children : List DocumentSymbol
deriving Repr, Inhabited

namespace DocumentSymbol

mutual

/-- An entry of the outline of an indexed text, with the entries inside it. -/
def ofSymbol (index : LineIndex) : Symbol → DocumentSymbol
  | ⟨name, detail, kind, span, selection, children⟩ =>
    ⟨name, detail, kind, .ofSpan index span, .ofSpan index selection, ofSymbols index children⟩

/-- Entries of the outline of an indexed text. -/
def ofSymbols (index : LineIndex) : List Symbol → List DocumentSymbol
  | [] => []
  | s :: rest => ofSymbol index s :: ofSymbols index rest

end

mutual

/-- The JSON form of an entry. What it lacks is left out. -/
def toJson : DocumentSymbol → Json
  | ⟨name, detail, kind, range, selectionRange, children⟩ =>
    .objectOf [("name", some (.string name)), ("detail", detail.map .string),
      ("kind", some (.int kind.code)), ("range", some range.toJson),
      ("selectionRange", some selectionRange.toJson),
      ("children", if children.isEmpty then none else some (.array (toJsons children)))]

/-- The JSON forms of entries. -/
def toJsons : List DocumentSymbol → List Json
  | [] => []
  | s :: rest => toJson s :: toJsons rest

end

end DocumentSymbol

end JavaLens.Editor

namespace JavaLens

/-- The JSON form of a candidate for completion. -/
def Completion.toJson (c : Completion) : Json :=
  .objectOf [("label", some (.string c.label)), ("kind", some (.int c.kind.code)),
    ("detail", c.detail.map .string)]

end JavaLens
