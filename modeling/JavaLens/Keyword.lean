/-!
# Reserved words

The reserved words of Java. Words that are reserved only in some places (`record`, `var`, `yield`,
`sealed`, `permits`) are not among them: they are identifiers whose role the grammar decides.

## Main definitions

* `Keyword` — the reserved words, with `Keyword.all` listing them and `Keyword.word` spelling them.
* `Keyword.ofWord?` — the reserved word with a given spelling.
* `Keyword.isPrimitive`, `Keyword.isModifier` — the two classes the grammar asks about.
-/

namespace JavaLens

/-- A reserved word of Java. -/
inductive Keyword where
  | «abstract» | «assert» | boolean | «break» | byte | case | «catch» | char | «class» | const
  | «continue» | default | «do» | double | «else» | «enum» | «extends» | final | «finally» | float
  | «for» | goto | «if» | «implements» | «import» | «instanceof» | int | interface | long | native
  | new | package | «private» | «protected» | «public» | «return» | short | static | strictfp
  | super | switch | synchronized | this | throw | throws | transient | «try» | void | volatile
  | «while»
deriving DecidableEq, Repr, Inhabited

namespace Keyword

/-- The spelling of a reserved word. -/
def word : Keyword → String
  | «abstract» => "abstract"
  | «assert» => "assert"
  | boolean => "boolean"
  | «break» => "break"
  | byte => "byte"
  | case => "case"
  | «catch» => "catch"
  | char => "char"
  | «class» => "class"
  | const => "const"
  | «continue» => "continue"
  | default => "default"
  | «do» => "do"
  | double => "double"
  | «else» => "else"
  | «enum» => "enum"
  | «extends» => "extends"
  | final => "final"
  | «finally» => "finally"
  | float => "float"
  | «for» => "for"
  | goto => "goto"
  | «if» => "if"
  | «implements» => "implements"
  | «import» => "import"
  | «instanceof» => "instanceof"
  | int => "int"
  | interface => "interface"
  | long => "long"
  | native => "native"
  | new => "new"
  | package => "package"
  | «private» => "private"
  | «protected» => "protected"
  | «public» => "public"
  | «return» => "return"
  | short => "short"
  | static => "static"
  | strictfp => "strictfp"
  | super => "super"
  | switch => "switch"
  | synchronized => "synchronized"
  | this => "this"
  | throw => "throw"
  | throws => "throws"
  | transient => "transient"
  | «try» => "try"
  | void => "void"
  | volatile => "volatile"
  | «while» => "while"

/-- Every reserved word, in alphabetical order. -/
def all : List Keyword :=
  [«abstract», «assert», boolean, «break», byte, case, «catch», char, «class», const, «continue»,
   default, «do», double, «else», «enum», «extends», final, «finally», float, «for», goto, «if»,
   «implements», «import», «instanceof», int, interface, long, native, new, package, «private»,
   «protected», «public», «return», short, static, strictfp, super, switch, synchronized, this,
   throw, throws, transient, «try», void, volatile, «while»]

/-- The reserved word spelled `w`, if there is one. -/
def ofWord? (w : String) : Option Keyword := all.find? (·.word == w)

/-- Whether the word names a primitive type. -/
def isPrimitive : Keyword → Bool
  | boolean | byte | char | short | int | long | float | double => true
  | _ => false

/-- Whether the word may stand before a declaration. The word `default` also opens a switch label,
which the grammar tells apart first. -/
def isModifier : Keyword → Bool
  | «public» | «protected» | «private» | static | final | «abstract» | native | synchronized
  | transient | volatile | strictfp | default => true
  | _ => false

theorem mem_all (k : Keyword) : k ∈ all := by cases k <;> decide

end Keyword

end JavaLens
