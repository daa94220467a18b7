import JavaLens.Text.Terminal

/-!
# The command line

## Main definitions

* `CommandLine.Options` — what a user can set on the command line.
* `CommandLine.Stop` — why the arguments do not start a server.
* `CommandLine.parse` — the options in a list of arguments.
-/

namespace JavaLens.CommandLine

/-- The options that take a value. -/
inductive Name where
  | config
  | logLevel
deriving DecidableEq, Repr

/-- An option as it is shown in messages. -/
def Name.describe : Name → String
  | config => "--config <PATH>"
  | logLevel => "--log-level <FILTER>"

/-- What a user can set on the command line. -/
structure Options where
  /-- The configuration file. -/
  config : Option String
  /-- The filter for log lines. -/
  logLevel : Option String
deriving DecidableEq, Repr

namespace Options

/-- Nothing is set. -/
def none : Options := ⟨.none, .none⟩

/-- The value of an option. -/
def get? (o : Options) : Name → Option String
  | .config => o.config
  | .logLevel => o.logLevel

/-- The options with one more value. -/
def set (o : Options) (name : Name) (value : String) : Options :=
  match name with
  | .config => { o with config := some value }
  | .logLevel => { o with logLevel := some value }

end Options

/-- A wrong use of the command line. -/
inductive Misuse where
  | unexpected (argument : String)
  | missingValue (name : Name)
  | repeated (name : Name)
  | unexpectedValue (value flag : String)

/-- The message about a wrong use. Arguments are quoted without terminal controls. -/
def Misuse.message : Misuse → String
  | unexpected argument => "error: unexpected argument '" ++ Text.shown argument ++ "' found"
  | missingValue name =>
    "error: a value is required for '" ++ name.describe ++ "' but none was supplied"
  | repeated name => "error: the argument '" ++ name.describe ++ "' cannot be used multiple times"
  | unexpectedValue value flag =>
    "error: unexpected value '" ++ Text.shown value ++ "' for '" ++ flag
      ++ "' found; no more were expected"

/-- Why the arguments do not start a server. -/
inductive Stop where
  | help
  | version
  | misuse (cause : Misuse)

/-! ## Reading arguments -/

/-- The arguments read so far. The last option stays open until the next one or the end, because
its value may still come. -/
structure Progress where
  options : Options
  pending : Option (Name × Option String)

/-- The progress before the first argument. -/
def Progress.start : Progress := ⟨.none, none⟩

namespace Progress

/-- An option gets its value, once. -/
def store (p : Progress) (name : Name) (value : String) : Except Stop Progress :=
  if (p.options.get? name).isSome then .error (.misuse (.repeated name))
  else .ok { p with options := p.options.set name value }

/-- The open option is closed. -/
def close (p : Progress) : Except Stop Progress :=
  match p.pending with
  | none => .ok p
  | some (name, none) => .error (.misuse (.missingValue name))
  | some (name, some value) => { p with pending := none }.store name value

/-- An option comes, with its value or without. -/
def take (p : Progress) (name : Name) (value : Option String) : Except Stop Progress := do
  let p ← p.close
  match value with
  | some value => p.store name value
  | none => return { p with pending := some (name, none) }

end Progress

/-- Names the option that stands behind two dashes. -/
def longOption? : String → Option Name
  | "config" => some .config
  | "log-level" => some .logLevel
  | _ => none

/-- An argument with two dashes, which has a name and may have a value behind an equals sign. -/
def takeLong (p : Progress) (name : String) (value : Option String) : Except Stop Progress :=
  match longOption? name with
  | some option => p.take option value
  | none =>
    let stop : Except Stop Progress → Except Stop Progress := fun outcome =>
      match value with
      | some value => .error (.misuse (.unexpectedValue value ("--" ++ name)))
      | none => outcome
    match name with
    | "help" => stop (do let _ ← p.close; throw .help)
    | "version" => stop (do let _ ← p.close; throw .version)
    | _ => .error (.misuse (.unexpected ("--" ++ name)))

/-- An argument with one dash, which has a letter and may have a value behind it. -/
def takeShort (p : Progress) (letter : Char) (rest : List Char) : Except Stop Progress :=
  match letter, rest with
  | 'c', [] => p.take .config none
  | 'c', '=' :: value => p.take .config (some (String.ofList value))
  | 'c', value => p.take .config (some (String.ofList value))
  | 'h', _ => do let _ ← p.close; throw .help
  | 'V', _ => do let _ ← p.close; throw .version
  | letter, _ => .error (.misuse (.unexpected (String.ofList ['-', letter])))

/-- An argument without a dash, or a dash alone, is the value of the open option. -/
def takeValue (p : Progress) (value : String) : Except Stop Progress :=
  match p.pending with
  | some (name, none) => .ok { p with pending := some (name, some value) }
  | _ => .error (.misuse (.unexpected value))

/-- One argument other than two dashes alone. -/
def takeArgument (p : Progress) (argument : String) : Except Stop Progress :=
  match argument.toList with
  | '-' :: '-' :: rest =>
    match rest.span (· ≠ '=') with
    | (name, []) => takeLong p (String.ofList name) none
    | (name, _ :: value) => takeLong p (String.ofList name) (some (String.ofList value))
  | '-' :: letter :: rest => takeShort p letter rest
  | _ => takeValue p argument

/-- The options behind the arguments read so far. Nothing may follow two dashes alone. -/
def parseFrom (p : Progress) : List String → Except Stop Options
  | [] => return (← p.close).options
  | ["--"] => return (← p.close).options
  | "--" :: argument :: _ => .error (.misuse (.unexpected argument))
  | argument :: rest => do parseFrom (← takeArgument p argument) rest

/-- The options in a list of arguments. -/
def parse (arguments : List String) : Except Stop Options := parseFrom .start arguments

/-! ## Texts -/

/-- The name and the version of the program. -/
def versionText : String := "java-lsp 0.1.0\n"

/-- How to use the program. -/
def helpText : String :=
  "Language server for Java source files\n\n"
  ++ "Usage: java-lsp [OPTIONS]\n\n"
  ++ "Options:\n"
  ++ "  -c, --config <PATH>       TOML file layered over the defaults and ./java-lsp.toml\n"
  ++ "      --log-level <FILTER>  Log filter, e.g. 'debug' or 'java_lsp=trace' "
  ++ "(RUST_LOG wins when set)\n"
  ++ "  -h, --help                Print help\n"
  ++ "  -V, --version             Print version\n"

end JavaLens.CommandLine
