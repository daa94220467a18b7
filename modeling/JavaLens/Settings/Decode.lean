import JavaLens.Settings
import JavaLens.Settings.Setting
import JavaLens.Text.Quoted

/-!
# Reading settings

Untyped values become the settings they stand for. Truth values and numbers may stand for text, and
texts and numbers for truth values.

## Main definitions

* `Settings.Misfit` — why a value cannot be what it stands for.
* `Settings.decode` — the settings in a table of values.
-/

namespace JavaLens.Settings

/-- A value that is not of the kind needed, by what is told of it. -/
inductive Unfit where
  | nothing
  | bool (b : Bool)
  | int (n : Int)
  | float (x : Binary)
  | text (s : String)
  | list
  | table

/-- The words for a value. -/
def Unfit.describe : Unfit → String
  | nothing => "unit value"
  | bool b => "boolean `" ++ (if b then "true" else "false") ++ "`"
  | int n => "integer `" ++ toString n ++ "`"
  | float x => "floating point `" ++ x.textWithPoint ++ "`"
  | text s => "string " ++ Text.quoted s
  | list => "sequence"
  | table => "map"

/-- A value by what is told of it. -/
def Unfit.of : Setting.Value → Unfit
  | .nothing => nothing
  | .bool b => bool b
  | .int n => int n
  | .float x => float x
  | .text s => text s
  | .list _ => list
  | .table _ => table

/-- What a single setting has to be. -/
inductive Need where
  | text
  | truth

/-- The words for what a setting has to be. -/
def Need.describe : Need → String
  | text => "a string"
  | truth => "a boolean"

/-- A group of settings. -/
inductive Section where
  | server
  | diagnostics
  | logging
deriving DecidableEq, Repr

namespace Section

/-- The key of a group. -/
def key : Section → String
  | server => "server"
  | diagnostics => "diagnostics"
  | logging => "logging"

/-- The words for a group in messages. -/
def describe : Section → String
  | server => "struct ServerConfig"
  | diagnostics => "struct DiagnosticsConfig"
  | logging => "struct LoggingConfig"

/-- How many settings a group has. -/
def size : Section → Nat
  | diagnostics => 2
  | server | logging => 1

end Section

/-- Why a value cannot be what it stands for. -/
inductive Misfit where
  /-- A setting has a value of another kind. -/
  | setting (found : Unfit) (need : Need) (key : String) (origin : Option String)
  /-- A group of settings is neither a table nor a list. -/
  | group (found : Unfit) (group : Section)
  /-- A list has too few items for a group of settings. -/
  | tooShort (size : Nat) (group : Section)
  /-- A table has no entry for one of its parts. -/
  | missing (name : String)

/-- The message about a misfit. -/
def Misfit.message : Misfit → String
  | setting found need key origin =>
    "invalid type: " ++ found.describe ++ ", expected " ++ need.describe ++
      " for key `" ++ key ++ "`" ++
      (match origin with
      | some origin => " in " ++ origin
      | none => "")
  | group found expected =>
    "invalid type: " ++ found.describe ++ ", expected " ++ expected.describe
  | tooShort size expected =>
    "invalid length " ++ toString size ++ ", expected " ++ expected.describe ++ " with " ++
      toString expected.size ++ (if expected.size = 1 then " element" else " elements")
  | missing name => "missing field `" ++ name ++ "`"

/-! ## Single settings -/

/-- The text that a value stands for. -/
def decodeText (key : String) (s : Setting) : Except Misfit String :=
  match s.value with
  | .text text => .ok text
  | .bool b => .ok (if b then "true" else "false")
  | .int n => .ok (toString n)
  | .float x => .ok x.text
  | v => .error (.setting (.of v) .text key s.origin)

/-- The truth value that a word stands for. -/
def truthOfWord? (word : String) : Option Bool :=
  if word ∈ ["1", "true", "on", "yes"] then some true
  else if word ∈ ["0", "false", "off", "no"] then some false
  else none

/-- The truth value that a value stands for. -/
def decodeTruth (key : String) (s : Setting) : Except Misfit Bool :=
  match s.value with
  | .bool b => .ok b
  | .int n => .ok (n ≠ 0)
  | .float x => .ok (!x.isZero)
  | .text text =>
    let word := Text.lowerCase text
    match truthOfWord? word with
    | some b => .ok b
    | none => .error (.setting (.text word) .truth key s.origin)
  | v => .error (.setting (.of v) .truth key s.origin)

/-! ## Groups -/

/-- A part of a table that must be there. -/
def present (name : String) : Option α → Except Misfit α
  | some a => .ok a
  | none => .error (.missing name)

/-- One setting of a group: by its name in a table, where it may be missing, and by its place in a
list. -/
def field (sec : Section) (name : String) (place : Nat)
    (decode : String → Setting → Except Misfit α) (s : Setting) : Except Misfit (Option α) :=
  match s.value with
  | .table _ => (s.get? name).mapM (decode (sec.key ++ "." ++ name))
  | .list items =>
    match items[place]? with
    | some v => some <$> decode (sec.key ++ "[" ++ toString place ++ "]") v
    | none => .error (.tooShort items.length sec)
  | v => .error (.group (.of v) sec)

/-- The value of a group. -/
def sectionOf (sec : Section) (s : Setting) : Except Misfit Setting :=
  present sec.key (s.get? sec.key)

/-- The name in the group of the server. -/
def decodeServer (s : Setting) : Except Misfit Server := do
  let name ← field .server "name" 0 decodeText s
  return ⟨← present "name" name⟩

/-- The settings for diagnostics. A missing one is told only if the other one fits. -/
def decodeDiagnostics (s : Setting) : Except Misfit Diagnostics := do
  let source ← field .diagnostics "source" 0 decodeText s
  let publishWarnings ← field .diagnostics "publish_warnings" 1 decodeTruth s
  return ⟨← present "source" source, ← present "publish_warnings" publishWarnings⟩

/-- The settings for log lines. -/
def decodeLogging (s : Setting) : Except Misfit Logging := do
  let filter ← field .logging "filter" 0 decodeText s
  return ⟨← present "filter" filter⟩

/-- The settings in a table of values. -/
def decode (s : Setting) : Except Misfit Settings := do
  let server ← decodeServer (← sectionOf .server s)
  let diagnostics ← decodeDiagnostics (← sectionOf .diagnostics s)
  let logging ← decodeLogging (← sectionOf .logging s)
  return ⟨server, diagnostics, logging⟩

end JavaLens.Settings
