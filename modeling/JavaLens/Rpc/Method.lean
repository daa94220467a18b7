import JavaLens.Rpc.Capabilities
import JavaLens.Session

/-!
# Methods of the editor protocol

## Main definitions

* `Rpc.Method` — what the server does when a method is called.
* `Rpc.Method.ofName?` — the method with a name.
-/

namespace JavaLens.Rpc

open Shape (required optional omissible)

/-- What the server does when a method is called. -/
inductive Method where
  /-- The editor connects. -/
  | connect
  /-- The editor ends the session. -/
  | shutdown
  /-- The editor ends the connection. -/
  | exit
  /-- The editor takes a request back, which was answered before. -/
  | cancel
  /-- A request with parameters of a shape. The session answers it, or nothing does. -/
  | request (params : Shape) (message : Option (Json → Session.Message))
  /-- A notification with parameters of a shape. The session takes note of it, or nothing does. -/
  | notification (params : Shape) (message : Option (Json → Session.Message))

namespace Method

/-! ## Messages from parameters -/

/-- The text in a field. -/
def textOf (name : String) (params : Json) : String :=
  ((params.field? name).bind Json.string?).getD ""

/-- The document that the parameters tell of. -/
def documentOf (params : Json) : Json := (params.field? "textDocument").getD .null

/-- The address of the document that the parameters tell of. -/
def uriOf (params : Json) : String := textOf "uri" (documentOf params)

/-- The version of the document that the parameters tell of. -/
def versionOf (params : Json) : Int :=
  (((documentOf params).field? "version").bind Json.int?).getD 0

/-- The number in a field of a position. -/
def coordinate (name : String) (position : Json) : Nat :=
  ((position.field? name).bind Json.nat?).getD 0

/-- The position that the parameters tell of. -/
def positionOf (params : Json) : Editor.Position :=
  let position := (params.field? "position").getD .null
  .ofPosition ⟨coordinate "line" position, coordinate "character" position⟩

/-- The texts of the changes that the parameters tell of. -/
def changedTexts (params : Json) : List String :=
  (((params.field? "contentChanges").bind Json.array?).getD []).map (textOf "text")

/-! ## The table -/

open Fields (inDocument atPosition inRange progress streaming)

/-- The methods that the session takes part in. -/
def answered : List (String × Method) :=
  let notification (fields : Fields) (message : Json → Session.Message) : Method :=
    notification (.record fields) (some message)
  let request (fields : Fields) (message : Json → Session.Message) : Method :=
    request (.params fields) (some message)
  [("initialized", notification [] fun _ => .connected),
   ("textDocument/didOpen",
     notification [required "textDocument" .openedDocument] fun p =>
       .didOpen (uriOf p) (textOf "text" (documentOf p)) (versionOf p)),
   ("textDocument/didChange",
     notification [required "textDocument" .versionedDocument,
       required "contentChanges" (.list .change)] fun p =>
       .didChange (uriOf p) (versionOf p) (changedTexts p)),
   ("textDocument/didSave",
     notification [required "textDocument" .document, optional "text" .string] fun p =>
       .didSave (uriOf p) ((p.field? "text").bind Json.string?)),
   ("textDocument/didClose",
     notification [required "textDocument" .document] fun p => .didClose (uriOf p)),
   ("workspace/didChangeConfiguration",
     notification [required "settings" .any] fun _ => .didChangeConfiguration),
   ("workspace/didChangeWatchedFiles",
     notification [required "changes" (.list .fileEvent)] fun _ => .didChangeWatchedFiles),
   ("textDocument/completion",
     request (atPosition ++ streaming ++ [optional "context" .completionContext]) fun p =>
       .completion (uriOf p)),
   ("textDocument/hover",
     request (atPosition ++ progress) fun p => .hover (uriOf p) (positionOf p)),
   ("textDocument/definition",
     request (atPosition ++ streaming) fun p => .definition (uriOf p) (positionOf p)),
   ("textDocument/documentSymbol",
     request (inDocument ++ streaming) fun p => .symbols (uriOf p)),
   ("completionItem/resolve", .request .completionItem (some .resolve)),
   ("workspace/executeCommand",
     request ([required "command" .string, omissible "arguments" (.list .any)] ++ progress)
       fun _ => .execute)]

/-- The notifications that the server leaves alone. -/
def ignored : List String :=
  ["textDocument/willSave", "workspace/didChangeWorkspaceFolders", "workspace/didCreateFiles",
   "workspace/didRenameFiles", "workspace/didDeleteFiles"]

/-- The requests that the protocol knows and the server does not answer. -/
def unanswered : List (String × Shape) :=
  [("textDocument/willSaveWaitUntil",
     .record [required "textDocument" .document, required "reason" .int32]),
   ("textDocument/declaration", .params (atPosition ++ streaming)),
   ("textDocument/typeDefinition", .params (atPosition ++ streaming)),
   ("textDocument/implementation", .params (atPosition ++ streaming)),
   ("textDocument/references",
     .params (atPosition ++ streaming ++
       [required "context" (.record [required "includeDeclaration" .bool])])),
   ("textDocument/prepareCallHierarchy", .params (atPosition ++ progress)),
   ("callHierarchy/incomingCalls", .params (required "item" .callItem :: streaming)),
   ("callHierarchy/outgoingCalls", .params (required "item" .callItem :: streaming)),
   ("textDocument/prepareTypeHierarchy", .params (atPosition ++ progress)),
   ("typeHierarchy/supertypes", .params (required "item" .typeItem :: streaming)),
   ("typeHierarchy/subtypes", .params (required "item" .typeItem :: streaming)),
   ("textDocument/documentHighlight", .params (atPosition ++ streaming)),
   ("textDocument/documentLink", .params (inDocument ++ streaming)),
   ("documentLink/resolve", .documentLink),
   ("textDocument/codeLens", .params (inDocument ++ streaming)),
   ("codeLens/resolve", .codeLens),
   ("textDocument/foldingRange", .params (inDocument ++ streaming)),
   ("textDocument/selectionRange",
     .params (inDocument ++ streaming ++ [required "positions" (.list .position)])),
   ("textDocument/semanticTokens/full", .params (inDocument ++ streaming)),
   ("textDocument/semanticTokens/full/delta",
     .params (inDocument ++ streaming ++ [required "previousResultId" .string])),
   ("textDocument/semanticTokens/range", .params (inRange ++ streaming)),
   ("textDocument/inlineValue",
     .params (inRange ++ progress ++ [required "context" .stoppedContext])),
   ("textDocument/inlayHint", .params (inRange ++ progress)),
   ("inlayHint/resolve", .inlayHint),
   ("textDocument/moniker", .params (atPosition ++ streaming)),
   ("textDocument/diagnostic",
     .params (inDocument ++ streaming ++
       [optional "identifier" .string, optional "previousResultId" .string])),
   ("workspace/diagnostic",
     .params (streaming ++
       [optional "identifier" .string,
        required "previousResultIds" (.list (.record
          [required "uri" .uri, required "value" .string]))])),
   ("textDocument/signatureHelp",
     .params (atPosition ++ progress ++ [optional "context" .signatureContext])),
   ("textDocument/codeAction",
     .params (inRange ++ streaming ++ [required "context" .codeActionContext])),
   ("codeAction/resolve", .codeAction),
   ("textDocument/documentColor", .params (inDocument ++ streaming)),
   ("textDocument/colorPresentation",
     .params (inRange ++ streaming ++ [required "color" .color])),
   ("textDocument/formatting",
     .params (inDocument ++ progress ++ [required "options" .formatting])),
   ("textDocument/rangeFormatting",
     .params (inRange ++ progress ++ [required "options" .formatting])),
   ("textDocument/onTypeFormatting",
     .params (atPosition ++ [required "ch" .string, required "options" .formatting])),
   ("textDocument/rename",
     .params (atPosition ++ progress ++ [required "newName" .string])),
   ("textDocument/prepareRename", .record atPosition),
   ("textDocument/linkedEditingRange", .params (atPosition ++ progress)),
   ("workspace/symbol", .params (required "query" .string :: streaming)),
   ("workspaceSymbol/resolve", .workspaceSymbol),
   ("workspace/willCreateFiles", .fileList),
   ("workspace/willRenameFiles", .renamedFileList),
   ("workspace/willDeleteFiles", .fileList)]

/-- The method with a name. -/
def ofName? (name : String) : Option Method :=
  match name with
  | "initialize" => some connect
  | "shutdown" => some shutdown
  | "exit" => some exit
  | "$/cancelRequest" => some cancel
  | name =>
    match answered.lookup name with
    | some method => some method
    | none =>
      if name ∈ ignored then some (notification .any none)
      else (unanswered.lookup name).map (request · none)

end Method

end JavaLens.Rpc
