import JavaLens.Documents
import JavaLens.Editor.Diagnostic
import JavaLens.Editor.Symbol
import JavaLens.Navigation
import JavaLens.Source

/-!
# Sessions

A session with an editor: the open documents, and what the server answers and publishes when the
editor tells it something or asks it something. A document is read afresh for every publication and
for every query, so what is said about it is always about its current text.

## Main definitions

* `Session` — the settings and the open documents.
* `Session.Message` — what an editor tells or asks.
* `Session.Outcome` — what follows from a message: the session after it, the reply, and what is
  published.
* `Session.step` — the outcome of a message.
-/

namespace JavaLens

/-- The state of a server between two messages. -/
structure Session where
  settings : Settings
  documents : Documents
deriving Repr, Inhabited

namespace Session

/-- A session in which no document is open. -/
def start (settings : Settings) : Session := ⟨settings, .empty⟩

/-- What an editor tells or asks. -/
inductive Message where
  | connect
  | connected
  | shutdown
  | didOpen (uri text : String) (version : Int)
  | didChange (uri : String) (version : Int) (texts : List String)
  | didSave (uri : String) (text : Option String)
  | didClose (uri : String)
  | didChangeConfiguration
  | didChangeWatchedFiles
  | completion (uri : String)
  | hover (uri : String) (position : Editor.Position)
  | definition (uri : String) (position : Editor.Position)
  | symbols (uri : String)
  | resolve (item : Json)
  | execute
deriving Repr

/-- What the server replies. Notifications and questions without an answer have no reply. -/
inductive Reply where
  | none
  | welcome (serverName : String)
  | completions (items : List Completion)
  | hover (contents : String) (range : Editor.Range)
  | location (uri : String) (range : Editor.Range)
  | symbols (entries : List Editor.DocumentSymbol)
  | item (item : Json)
deriving Repr

/-- The diagnostics of a document as they are published. They replace those published before. -/
structure Publication where
  uri : String
  diagnostics : List Editor.Diagnostic
  version : Option Int
deriving DecidableEq, Repr

/-- What follows from a message. -/
structure Outcome where
  session : Session
  reply : Reply
  published : List Publication
  /-- How often a document was read. -/
  readings : Nat
deriving Repr

/-- Nothing changes and nothing is published. -/
def quiet (s : Session) (reply : Reply) : Outcome := ⟨s, reply, [], 0⟩

/-- The diagnostics of a text. -/
def diagnose (s : Session) (text : String) : List Editor.Diagnostic :=
  (SyntaxTree.ofSource text).diagnostics text s.settings.diagnostics

/-- The text becomes that of the document and its diagnostics are published. -/
def store (s : Session) (uri text : String) (version : Option Int) : Outcome :=
  { session := { s with documents := s.documents.put uri text }
    reply := .none
    published := [⟨uri, s.diagnose text, version⟩]
    readings := 1 }

/-- The answer to a query about an open document, or else `absent`. -/
def query (s : Session) (uri : String) (absent : Reply) (answer : String → SyntaxTree → Reply) :
    Outcome :=
  match s.documents.get? uri with
  | some text => ⟨s, answer text (SyntaxTree.ofSource text), [], 1⟩
  | none => s.quiet absent

/-- The description of the name at a position. -/
def hoverReply (position : Editor.Position) (text : String) (tree : SyntaxTree) : Reply :=
  match tree.hover? (Editor.offsetAt text position) with
  | some hover => .hover hover.contents (.ofSpan (LineIndex.ofText text) hover.span)
  | none => .none

/-- The place where the name at a position is declared. -/
def definitionReply (uri : String) (position : Editor.Position) (text : String)
    (tree : SyntaxTree) : Reply :=
  match tree.definition? (Editor.offsetAt text position) with
  | some target => .location uri (.ofSpan (LineIndex.ofText text) target.name.span)
  | none => .none

/-- The outline of a document. -/
def symbolsReply (text : String) (tree : SyntaxTree) : Reply :=
  .symbols (Editor.DocumentSymbol.ofSymbols (LineIndex.ofText text) tree.outline)

/-- The outcome of a message. Of several changes the last one holds the whole text, and no change
leaves the document alone. A saved document must be open, and its text may come with the message. A
closed document loses its diagnostics, and the end of a session closes all documents. -/
def step (s : Session) : Message → Outcome
  | .connect => s.quiet (.welcome s.settings.server.name)
  | .connected | .didChangeConfiguration | .didChangeWatchedFiles | .execute => s.quiet .none
  | .shutdown => { s with documents := .empty }.quiet .none
  | .didOpen uri text version => s.store uri text (some version)
  | .didChange uri version texts =>
    match texts.getLast? with
    | some text => s.store uri text (some version)
    | none => s.quiet .none
  | .didSave uri text =>
    match s.documents.get? uri with
    | some stored => s.store uri (text.getD stored) none
    | none => s.quiet .none
  | .didClose uri =>
    { session := { s with documents := s.documents.remove uri }
      reply := .none
      published := [⟨uri, [], none⟩]
      readings := 0 }
  | .completion uri => s.query uri (.completions []) fun _ tree => .completions tree.completions
  | .hover uri position => s.query uri .none (hoverReply position)
  | .definition uri position => s.query uri .none (definitionReply uri position)
  | .symbols uri => s.query uri .none symbolsReply
  | .resolve item => s.quiet (.item item)

/-! ## JSON forms -/

/-- The version that the server tells editors. -/
def version : String := "0.1.0"

/-- What the server can do: it takes whole texts, with the saved text, and answers the queries. -/
def capabilities : Json :=
  .object
    [("textDocumentSync", .object
        [("openClose", .bool true), ("change", .nat 1),
         ("save", .object [("includeText", .bool true)])]),
     ("completionProvider", .object [("resolveProvider", .bool true)]),
     ("hoverProvider", .bool true),
     ("definitionProvider", .bool true),
     ("documentSymbolProvider", .bool true)]

/-- The JSON form of a reply. -/
def Reply.toJson : Reply → Json
  | .none => .null
  | .welcome serverName =>
    .object [("capabilities", capabilities),
      ("serverInfo", .object [("name", .string serverName), ("version", .string Session.version)])]
  | .completions items => .array (items.map Completion.toJson)
  | .hover contents range =>
    .object [("contents", .object [("kind", .string "plaintext"), ("value", .string contents)]),
      ("range", range.toJson)]
  | .location uri range => .object [("uri", .string uri), ("range", range.toJson)]
  | .symbols entries => .array (Editor.DocumentSymbol.toJsons entries)
  | .item value => value

/-- The JSON form of a publication. A missing version is left out. -/
def Publication.toJson (p : Publication) : Json :=
  .objectOf [("uri", some (.string p.uri)),
    ("diagnostics", some (.array (p.diagnostics.map Editor.Diagnostic.toJson))),
    ("version", p.version.map .int)]

end Session

end JavaLens
