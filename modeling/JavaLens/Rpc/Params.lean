import JavaLens.Rpc.Shape

/-!
# Shapes of the editor protocol

The shapes of what editors send along with a method. Most values can be given by the names of
their fields or in the order of their fields. Parameters that tell of progress must be given by
name.

## Main definitions

* `Shape.position`, `Shape.range`, `Shape.document` and their kin — shapes that many methods share.
* `Shape.completionItem` — the shape of a completion that an editor gives back.
* `Fields.progress`, `Fields.streaming` — the tokens for reports on a request.
-/

namespace JavaLens.Rpc

namespace Shape

/-! ## Places -/

/-- A position in a document. -/
def position : Shape := record [required "line" nat32, required "character" nat32]

/-- A range of a document. -/
def range : Shape := record [required "start" position, required "end" position]

/-- A document by its address. -/
def document : Shape := record [required "uri" uri]

/-- A range of some document. -/
def location : Shape := record [required "uri" uri, required "range" range]

/-- A document that an editor opens. -/
def openedDocument : Shape :=
  record [required "uri" uri, required "languageId" string, required "version" int32,
    required "text" string]

/-- A document with its version. -/
def versionedDocument : Shape := record [required "uri" uri, required "version" int32]

/-- A change of a document. -/
def change : Shape :=
  record [optional "range" range, optional "rangeLength" nat32, required "text" string]

/-- A file that has changed on disk, and how. -/
def fileEvent : Shape := record [required "uri" uri, required "type" int32]

/-- Files by their addresses. -/
def fileList : Shape := record [required "files" (list (record [required "uri" string]))]

/-- Files by their addresses before and after. -/
def renamedFileList : Shape :=
  record [required "files" (list (record [required "oldUri" string, required "newUri" string]))]

/-! ## Texts -/

/-- A number or a text. -/
def label : Shape := oneOf [int32, string]

/-- How a text is formatted. -/
def markupKind : Shape := word ["plaintext", "markdown"]

/-- A text, which may tell how it is formatted. -/
def documentation : Shape :=
  oneOf [string, record [required "kind" markupKind, required "value" string]]

/-- A command of an editor. -/
def command : Shape :=
  record [required "title" string, required "command" string, optional "arguments" (list any)]

/-! ## Edits -/

/-- A replacement of a range by a text. -/
def textEdit : Shape := record [required "range" range, required "newText" string]

/-- A replacement of either of two ranges by a text. -/
def insertReplaceEdit : Shape :=
  record [required "newText" string, required "insert" range, required "replace" range]

/-- Edits of a document. -/
def documentEdit : Shape :=
  record [required "textDocument" (record [required "uri" uri, optional "version" int32]),
    required "edits" (list textEdit)]

/-- The kind of an operation on files, by its name or by its number. -/
def fileOperation (name : String) (index : Int) : String × Presence × Shape :=
  required "kind" (oneOf [literal name, integer index index])

/-- A file is created. -/
def fileCreation : Shape :=
  record [fileOperation "create" 0, required "uri" uri,
    optional "options" (record (options bool ["overwrite", "ignoreIfExists"])),
    optional "annotationId" string]

/-- A file gets another address. -/
def fileRenaming : Shape :=
  record [fileOperation "rename" 1, required "oldUri" uri, required "newUri" uri,
    optional "options" (record (options bool ["overwrite", "ignoreIfExists"])),
    optional "annotationId" string]

/-- A file is deleted. -/
def fileDeletion : Shape :=
  record [fileOperation "delete" 2, required "uri" uri,
    optional "options" (record
      (options bool ["recursive", "ignoreIfNotExists"] ++ [optional "annotationId" string]))]

/-- Edits of any number of documents and files. -/
def workspaceEdit : Shape :=
  record
    [optional "changes" (dictionary uri (list textEdit)),
     optional "documentChanges" (list (oneOf
       [fileCreation, fileRenaming, fileDeletion, documentEdit])),
     optional "changeAnnotations" (dictionary string (record
       [required "label" string, optional "needsConfirmation" bool,
        optional "description" string]))]

/-! ## Values that an editor gives back -/

/-- A completion that an editor gives back. -/
def completionItem : Shape :=
  record
    [required "label" string,
     optional "labelDetails" (record (options string ["detail", "description"])),
     optional "kind" int32,
     optional "detail" string,
     optional "documentation" documentation,
     optional "deprecated" bool,
     optional "preselect" bool,
     optional "sortText" string,
     optional "filterText" string,
     optional "insertText" string,
     optional "insertTextFormat" int32,
     optional "insertTextMode" int32,
     optional "textEdit" (oneOf [textEdit, insertReplaceEdit]),
     optional "additionalTextEdits" (list textEdit),
     optional "command" command,
     optional "commitCharacters" (list string),
     optional "data" any,
     optional "tags" (list int32)]

/-- A diagnostic that an editor gives back. -/
def diagnostic : Shape :=
  record
    [required "range" range,
     optional "severity" int32,
     optional "code" label,
     optional "codeDescription" (record [required "href" uri]),
     optional "source" string,
     required "message" string,
     optional "relatedInformation" (list (record
       [required "location" location, required "message" string])),
     optional "tags" (list int32),
     optional "data" any]

/-- An action on code that an editor gives back. -/
def codeAction : Shape :=
  record
    [required "title" string,
     optional "kind" string,
     optional "diagnostics" (list diagnostic),
     optional "edit" workspaceEdit,
     optional "command" command,
     optional "isPreferred" bool,
     optional "disabled" (record [required "reason" string]),
     optional "data" any]

/-- A command above a range that an editor gives back. -/
def codeLens : Shape :=
  record [required "range" range, optional "command" command, optional "data" any]

/-- A link in a document that an editor gives back. -/
def documentLink : Shape :=
  record [required "range" range, optional "target" uri, optional "tooltip" string,
    optional "data" any]

/-- A hint between the characters of a document that an editor gives back. -/
def inlayHint : Shape :=
  let part := record [required "value" string, optional "tooltip" documentation,
    optional "location" location, optional "command" command]
  record
    [required "position" position,
     required "label" (oneOf [string, list part]),
     optional "kind" int32,
     optional "textEdits" (list textEdit),
     optional "tooltip" documentation,
     optional "paddingLeft" bool,
     optional "paddingRight" bool,
     optional "data" any]

/-- A symbol in a hierarchy that an editor gives back, with tags of a shape. -/
def hierarchyItem (tags : Shape) : Shape :=
  record
    [required "name" string,
     required "kind" int32,
     optional "tags" tags,
     optional "detail" string,
     required "uri" uri,
     required "range" range,
     required "selectionRange" range,
     optional "data" any]

/-- A symbol in a hierarchy of calls. -/
def callItem : Shape := hierarchyItem (list int32)

/-- A symbol in a hierarchy of types, which has one tag at most. -/
def typeItem : Shape := hierarchyItem int32

/-- A symbol of some document that an editor gives back. -/
def workspaceSymbol : Shape :=
  record
    [required "name" string,
     required "kind" int32,
     optional "tags" (list int32),
     optional "containerName" string,
     required "location" (oneOf [location, document]),
     optional "data" any]

/-- The signatures that an editor shows. -/
def signatureHelp : Shape :=
  let parameter := record [required "label" (oneOf [string, tuple [nat32, nat32]]),
    optional "documentation" documentation]
  let signature := record [required "label" string, optional "documentation" documentation,
    optional "parameters" (list parameter), optional "activeParameter" nat32]
  record [required "signatures" (list signature), optional "activeSignature" nat32,
    optional "activeParameter" nat32]

/-! ## Circumstances of a request -/

/-- What made an editor ask for completions. -/
def completionContext : Shape :=
  record [required "triggerKind" int32, optional "triggerCharacter" string]

/-- What made an editor ask for signatures. -/
def signatureContext : Shape :=
  record [required "triggerKind" int32, optional "triggerCharacter" string,
    required "isRetrigger" bool, optional "activeSignatureHelp" signatureHelp]

/-- What made an editor ask for actions on code. -/
def codeActionContext : Shape :=
  record [required "diagnostics" (list diagnostic), optional "only" (list string),
    optional "triggerKind" int32]

/-- Where a program has stopped. -/
def stoppedContext : Shape :=
  record [required "frameId" int32, required "stoppedLocation" range]

/-- How text is to be formatted. An editor may tell more about it. -/
def formatting : Shape :=
  object
    ([required "tabSize" nat32, required "insertSpaces" bool] ++
      options bool ["trimTrailingWhitespace", "insertFinalNewline", "trimFinalNewlines"])
    (oneOf [bool, int32, string])

/-- A color. -/
def color : Shape :=
  record [required "red" number, required "green" number, required "blue" number,
    required "alpha" number]

end Shape

/-! ## Parameters -/

namespace Fields

open Shape (required optional)

/-- The document that a request is about. -/
def inDocument : Fields := [required "textDocument" .document]

/-- The position that a request is about. -/
def atPosition : Fields := inDocument ++ [required "position" .position]

/-- The range that a request is about. -/
def inRange : Fields := inDocument ++ [required "range" .range]

/-- The token that an editor may choose for reports of progress. -/
def progress : Fields := [optional "workDoneToken" .label]

/-- The tokens that an editor may choose for reports of progress and for parts of the result. -/
def streaming : Fields := progress ++ [optional "partialResultToken" .label]

end Fields

end JavaLens.Rpc
