import JavaLens.Json.Reader
import JavaLens.Json.Writer
import JavaLens.Rpc.Endpoint
import JavaLens.Rpc.Frame
import JavaLens.Startup

/-!
# The program

A language server that talks to an editor over its standard streams.
-/

namespace JavaLens

/-- The contents of those files that can be read. -/
def readFiles (paths : List String) : IO (List (String × String)) :=
  paths.filterMapM fun (path : String) => do
    try return some (path, ← IO.FS.readFile path)
    catch _ => return none

/-- The size that the header at the front of the input tells, unless the input ends before. -/
partial def readHeader (input : IO.FS.Stream) (size : Nat) : IO (Option Nat) := do
  let line ← input.getLine
  if line.isEmpty then return none
  if Rpc.endsHeader line then return some size
  readHeader input ((Rpc.contentLength? line).getD size)

/-- A number of bytes of the input, or fewer at its end. -/
partial def readBytes (input : IO.FS.Stream) (size : Nat) (done : ByteArray) : IO ByteArray := do
  if size ≤ done.size then return done
  let bytes ← input.read (size - done.size).toUSize
  if bytes.isEmpty then return done
  readBytes input size (done ++ bytes)

/-- What follows from a text that arrives. Nothing follows from an empty one. -/
def respond (endpoint : Rpc.Endpoint) (text : Option String) : Rpc.Outcome :=
  if text = some "" then endpoint.quiet .none else
  match text.bind Json.parse? with
  | some j => endpoint.receive j
  | none => endpoint.quiet (.refused .null .unreadable)

/-- Takes calls from the input until it ends or the connection does. -/
partial def serve (input output : IO.FS.Stream) (endpoint : Rpc.Endpoint) : IO Unit := do
  let some size ← readHeader input 0 | return
  let outcome := respond endpoint (String.fromUTF8? (← readBytes input size .empty))
  for j in outcome.sent do
    output.putStr (Rpc.frame j.render)
  output.flush
  if outcome.response.isLast then return
  serve input output outcome.endpoint

/-- Starts a server with the given options. -/
def start (options : CommandLine.Options) : IO UInt32 := do
  let files ← readFiles (Startup.fileNames options)
  match Startup.prepare (fun path => files.lookup path) (← IO.getEnv "RUST_LOG") options with
  | .error failure =>
    IO.eprintln failure.message
    return 1
  | .ok settings =>
    serve (← IO.getStdin) (← IO.getStdout) (.start settings)
    return 0

end JavaLens

/-- Reads the command line and runs the server. -/
def main (arguments : List String) : IO UInt32 := do
  match JavaLens.CommandLine.parse arguments with
  | .error .help =>
    IO.print JavaLens.CommandLine.helpText
    return 0
  | .error .version =>
    IO.print JavaLens.CommandLine.versionText
    return 0
  | .error (.misuse cause) =>
    IO.eprintln cause.message
    return 2
  | .ok options => JavaLens.start options
