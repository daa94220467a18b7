import JavaLens.Settings.Decode
import JavaLens.Settings.KeyPath
import JavaLens.Text.Blank
import JavaLens.Toml.Document

/-!
# Layers of settings

Settings come from layers: built-in defaults first, then files in their order, then single values
given by the caller, which win over all files wherever they stand among the layers.

## Main definitions

* `Settings.Layer` — a source of settings.
* `Settings.LoadError` — why settings cannot be assembled.
* `Settings.assemble` — the untyped values of a list of layers.
* `Settings.load` — the settings of a list of layers.
* `Settings.defaults` — the settings that nobody has changed.
-/

namespace JavaLens.Settings

/-- The settings that nobody has changed. -/
def defaults : Settings := ⟨⟨"java-lsp"⟩, ⟨"java", true⟩, ⟨"info"⟩⟩

/-- The defaults as a table of values. -/
def defaultValues : Setting :=
  let text (s : String) : Setting := .given (.text s)
  .given (.table [
    ("server", .given (.table [("name", text defaults.server.name)])),
    ("diagnostics", .given (.table [
      ("source", text defaults.diagnostics.source),
      ("publish_warnings", .given (.bool defaults.diagnostics.publishWarnings))])),
    ("logging", .given (.table [("filter", text defaults.logging.filter)]))])

/-- A source of settings. -/
inductive Layer where
  /-- A file, which must exist if it is `required`. -/
  | file (path : String) (required : Bool)
  /-- A value for one key. -/
  | value (key : String) (v : Setting)

/-- Why settings cannot be assembled. -/
inductive LoadError where
  | badKey (key : String)
  | fileNotFound (path : String)
  | badFile (path : String)
  | misfit (cause : Misfit)
  | emptyDiagnosticsSource
  | emptyLogFilter

/-- The message about an error. -/
def LoadError.message : LoadError → String
  | badKey key => "invalid configuration key " ++ Text.quoted key
  | fileNotFound path => "configuration file \"" ++ path ++ "\" not found"
  | badFile path => "invalid configuration file " ++ Text.quoted path
  | misfit cause => cause.message
  | emptyDiagnosticsSource => "diagnostics.source must not be empty"
  | emptyLogFilter => "logging.filter must not be empty"

/-! ## Files -/

/-- A path from the working directory, without a first step that stays there. -/
def displayPath (path : String) : String :=
  match path.toList with
  | '.' :: '/' :: rest => String.ofList rest
  | _ => path

/-- The names under which the file for a path is looked for: its usual ending may be missing. -/
def fileNames (path : String) : List String := [displayPath path, displayPath path ++ ".toml"]

/-- The name and the contents of the file for a path. -/
def locate? (files : String → Option String) (path : String) : Option (String × String) :=
  (fileNames path).findSome? fun name => (files name).map (name, ·)

/-- The contents of a file without the byte order mark of its encoding. -/
def withoutMark (contents : String) : String := String.ofList (Toml.skipMark contents.toList)

/-- The entries of a configuration file, if it is well formed. -/
def entries? (contents : String) : Option (List (String × Toml)) :=
  match Toml.parse? (withoutMark contents) with
  | some (.table entries) => some entries
  | _ => none

/-- The settings with the entries of a file put over them. -/
def overlay (origin : String) (entries : List (String × Toml)) (s : Setting) : Setting :=
  entries.foldl (fun s (key, v) => (KeyPath.ofKey key).set (.ofToml (some origin) v) s) s

/-- The settings with a file put over them. -/
def overlayFile (files : String → Option String) (path : String) (required : Bool) (s : Setting) :
    Except LoadError Setting :=
  match locate? files path with
  | none => if required then .error (.fileNotFound path) else .ok s
  | some (name, contents) =>
    match entries? contents with
    | some entries => .ok (overlay name entries s)
    | none => .error (.badFile path)

/-- The settings with the files among the layers put over them in order. -/
def overlayFiles (files : String → Option String) : List Layer → Setting → Except LoadError Setting
  | [], s => .ok s
  | .file path required :: rest, s => do
    let s ← overlayFile files path required s
    overlayFiles files rest s
  | .value _ _ :: rest, s => overlayFiles files rest s

/-! ## Single values -/

/-- The values among the layers with their paths. A value makes earlier ones for the same path
void. -/
def givenValues (done : List (KeyPath × Setting)) :
    List Layer → Except LoadError (List (KeyPath × Setting))
  | [] => .ok done
  | .file _ _ :: rest => givenValues done rest
  | .value key v :: rest =>
    match KeyPath.parse? key with
    | some path => givenValues (done.filter (·.1 ≠ path) ++ [(path, v)]) rest
    | none => .error (.badKey key)

/-- The settings with single values put over them. -/
def overlayValues (values : List (KeyPath × Setting)) (s : Setting) : Setting :=
  values.foldl (fun s (path, v) => path.set v s) s

/-! ## Loading -/

/-- Settings that the server can work with: neither the source nor the filter is blank. -/
def validate (s : Settings) : Except LoadError Settings :=
  if Text.isBlank s.diagnostics.source then .error .emptyDiagnosticsSource
  else if Text.isBlank s.logging.filter then .error .emptyLogFilter
  else .ok s

/-- The untyped values of a list of layers: the files are put over the defaults, and single values
over both. -/
def assemble (files : String → Option String) (layers : List Layer) : Except LoadError Setting := do
  let values ← givenValues [] layers
  let s ← overlayFiles files layers defaultValues
  return overlayValues values s

/-- The settings that untyped values stand for, if the server can work with them. -/
def ofValues (s : Setting) : Except LoadError Settings :=
  match decode s with
  | .ok settings => validate settings
  | .error cause => .error (.misfit cause)

/-- The settings of a list of layers, over the defaults. -/
def load (files : String → Option String) (layers : List Layer) : Except LoadError Settings := do
  let s ← assemble files layers
  ofValues s

end JavaLens.Settings
