import JavaLens.CommandLine
import JavaLens.LogFilter
import JavaLens.Settings.Layer

/-!
# Starting the server

## Main definitions

* `Startup.layers` — where the settings of a server come from.
* `Startup.fileNames` — the files that have to be looked up for them.
* `Startup.Failure` — why a server does not start.
* `Startup.prepare` — the settings with which a server starts.
-/

namespace JavaLens.Startup

/-- The configuration file that is looked for in the working directory. -/
def workspaceFile : String := "java-lsp.toml"

/-- Where the settings come from: the file in the working directory, then the one on the command
line, then the log filter on the command line. -/
def layers (options : CommandLine.Options) : List Settings.Layer :=
  [.file workspaceFile false]
  ++ (options.config.map fun path => .file path true).toList
  ++ (options.logLevel.map fun filter => .value "logging.filter" (.given (.text filter))).toList

/-- The names of the files that the settings may come from. -/
def fileNames (options : CommandLine.Options) : List String :=
  (workspaceFile :: options.config.toList).flatMap Settings.fileNames

/-- Why a server does not start. -/
inductive Failure where
  /-- There are no settings. -/
  | settings (config : Option String) (cause : Settings.LoadError)
  | logFilter (filter : String)

/-- The message about a failure. -/
def Failure.message : Failure → String
  | settings (some path) _ => "Error: loading configuration from " ++ path
  | settings none _ => "Error: loading defaults and optional " ++ workspaceFile
  | logFilter filter => "Error: invalid log filter " ++ Text.quoted filter

/-- The log filter: that of the environment, unless it is missing or invalid. -/
def logFilter (environment : Option String) (settings : Settings) : Except Failure String :=
  match environment.filter LogFilter.isValid with
  | some filter => .ok filter
  | none =>
    if LogFilter.isValid settings.logging.filter then .ok settings.logging.filter
    else .error (.logFilter settings.logging.filter)

/-- The settings with which a server starts. -/
def prepare (files : String → Option String) (environment : Option String)
    (options : CommandLine.Options) : Except Failure Settings :=
  match Settings.load files (layers options) with
  | .error cause => .error (.settings options.config cause)
  | .ok settings => (logFilter environment settings).map fun _ => settings

end JavaLens.Startup
