import JavaLens.Rpc.Params

/-!
# Capabilities of editors

What an editor tells about itself when it connects. The server does not make use of it, and still
refuses an editor whose capabilities do not have their shape.

## Main definitions

* `Shape.capabilities` — what an editor can do.
* `Shape.connection` — what an editor tells when it connects.
-/

namespace JavaLens.Rpc.Shape

/-! ## Parts -/

/-- Abilities that an editor may have or not. -/
def abilities (names : List String) : Fields := options bool names

/-- Whether an editor can register a feature later. -/
def registration : Fields := abilities ["dynamicRegistration"]

/-- A feature of which an editor only tells whether it can be registered later. -/
def plain : Shape := record registration

/-- Whether an editor can be told to ask again. -/
def refresh : Shape := record (abilities ["refreshSupport"])

/-- A feature that leads to another place. -/
def goto : Shape := record (registration ++ abilities ["linkSupport"])

/-- The properties that an editor can ask for later. -/
def properties : Shape := record [required "properties" (list string)]

/-- The values that an editor may know. -/
def knownValues (item : Shape) : Shape := record [optional "valueSet" (list item)]

/-- The tags that an editor knows, or just whether it knows any. -/
def knownTags : Shape := oneOf [null, bool, record [required "valueSet" (list int32)]]

/-! ## Workspaces -/

/-- How an editor edits documents and files. -/
def workspaceEditCapability : Shape :=
  record
    [optional "documentChanges" bool,
     optional "resourceOperations" (list (word ["create", "rename", "delete"])),
     optional "failureHandling"
       (word ["abort", "transactional", "textOnlyTransactional", "undo"]),
     optional "normalizesLineEndings" bool,
     optional "changeAnnotationSupport" (record (abilities ["groupsOnLabel"]))]

/-- How an editor looks for symbols in all documents. -/
def workspaceSymbolCapability : Shape :=
  record (registration ++
    [optional "symbolKind" (knownValues int32), omissible "tagSupport" knownTags,
     optional "resolveSupport" properties])

/-- What an editor can do with a workspace. -/
def workspaceCapabilities : Shape :=
  record
    [optional "applyEdit" bool,
     optional "workspaceEdit" workspaceEditCapability,
     optional "didChangeConfiguration" plain,
     optional "didChangeWatchedFiles" (record
       (registration ++ abilities ["relativePatternSupport"])),
     optional "symbol" workspaceSymbolCapability,
     optional "executeCommand" plain,
     optional "workspaceFolders" bool,
     optional "configuration" bool,
     optional "semanticTokens" refresh,
     optional "codeLens" refresh,
     optional "fileOperations" (record (registration ++ abilities
       ["didCreate", "willCreate", "didRename", "willRename", "didDelete", "willDelete"])),
     optional "inlineValue" refresh,
     optional "inlayHint" refresh,
     optional "diagnostic" refresh]

/-! ## Documents -/

/-- How an editor shows completions. -/
def completionCapability : Shape :=
  let item := record
    [optional "snippetSupport" bool,
     optional "commitCharactersSupport" bool,
     optional "documentationFormat" (list markupKind),
     optional "deprecatedSupport" bool,
     optional "preselectSupport" bool,
     omissible "tagSupport" knownTags,
     optional "insertReplaceSupport" bool,
     optional "resolveSupport" properties,
     optional "insertTextModeSupport" (record [required "valueSet" (list int32)]),
     optional "labelDetailsSupport" bool]
  record (registration ++
    [optional "completionItem" item,
     optional "completionItemKind" (knownValues int32),
     optional "contextSupport" bool,
     optional "insertTextMode" int32,
     optional "completionList" (record [optional "itemDefaults" (list string)])])

/-- How an editor shows signatures. -/
def signatureHelpCapability : Shape :=
  record (registration ++
    [optional "signatureInformation" (record
      [optional "documentationFormat" (list markupKind),
       optional "parameterInformation" (record (abilities ["labelOffsetSupport"])),
       optional "activeParameterSupport" bool]),
     optional "contextSupport" bool])

/-- How an editor shows the symbols of a document. -/
def documentSymbolCapability : Shape :=
  record (registration ++
    [optional "symbolKind" (knownValues int32),
     optional "hierarchicalDocumentSymbolSupport" bool,
     omissible "tagSupport" knownTags])

/-- How an editor offers actions on code. -/
def codeActionCapability : Shape :=
  let kinds := record [required "valueSet" (list string)]
  record (registration ++
    [optional "codeActionLiteralSupport" (record [required "codeActionKind" kinds]),
     optional "isPreferredSupport" bool,
     optional "disabledSupport" bool,
     optional "dataSupport" bool,
     optional "resolveSupport" properties,
     optional "honorsChangeAnnotations" bool])

/-- How an editor renames symbols. -/
def renameCapability : Shape :=
  record (registration ++
    [optional "prepareSupport" bool,
     optional "prepareSupportDefaultBehavior" int32,
     optional "honorsChangeAnnotations" bool])

/-- How an editor shows diagnostics. -/
def diagnosticsCapability : Shape :=
  record
    [optional "relatedInformation" bool,
     omissible "tagSupport" knownTags,
     optional "versionSupport" bool,
     optional "codeDescriptionSupport" bool,
     optional "dataSupport" bool]

/-- How an editor folds ranges. -/
def foldingRangeCapability : Shape :=
  record (registration ++
    [optional "rangeLimit" nat32,
     optional "lineFoldingOnly" bool,
     optional "foldingRangeKind" (knownValues (word ["comment", "imports", "region"])),
     optional "foldingRange" (record (abilities ["collapsedText"]))])

/-- How an editor colors tokens. -/
def semanticTokensCapability : Shape :=
  let requests := record
    [optional "range" bool,
     optional "full" (oneOf [bool, object (abilities ["delta"]) any])]
  record (registration ++
    [required "requests" requests,
     required "tokenTypes" (list string),
     required "tokenModifiers" (list string),
     required "formats" (list string)] ++
    abilities ["overlappingTokenSupport", "multilineTokenSupport", "serverCancelSupport",
      "augmentsSyntaxTokens"])

/-- What an editor can do with a document. -/
def documentCapabilities : Shape :=
  record
    [optional "synchronization" (record
       (registration ++ abilities ["willSave", "willSaveWaitUntil", "didSave"])),
     optional "completion" completionCapability,
     optional "hover" (record (registration ++ [optional "contentFormat" (list markupKind)])),
     optional "signatureHelp" signatureHelpCapability,
     optional "references" plain,
     optional "documentHighlight" plain,
     optional "documentSymbol" documentSymbolCapability,
     optional "formatting" plain,
     optional "rangeFormatting" plain,
     optional "onTypeFormatting" plain,
     optional "declaration" goto,
     optional "definition" goto,
     optional "typeDefinition" goto,
     optional "implementation" goto,
     optional "codeAction" codeActionCapability,
     optional "codeLens" plain,
     optional "documentLink" (record (registration ++ abilities ["tooltipSupport"])),
     optional "colorProvider" plain,
     optional "rename" renameCapability,
     optional "publishDiagnostics" diagnosticsCapability,
     optional "foldingRange" foldingRangeCapability,
     optional "selectionRange" plain,
     optional "linkedEditingRange" plain,
     optional "callHierarchy" plain,
     optional "semanticTokens" semanticTokensCapability,
     optional "moniker" plain,
     optional "typeHierarchy" plain,
     optional "inlineValue" plain,
     optional "inlayHint" (record (registration ++ [optional "resolveSupport" properties])),
     optional "diagnostic" (record (registration ++ abilities ["relatedDocumentSupport"]))]

/-! ## Windows and the rest -/

/-- What an editor can do with its window. -/
def windowCapabilities : Shape :=
  record
    [optional "workDoneProgress" bool,
     optional "showMessage" (record [optional "messageActionItem" (record
       (abilities ["additionalPropertiesSupport"]))]),
     optional "showDocument" (record [required "support" bool])]

/-- What an editor can do in general. -/
def generalCapabilities : Shape :=
  record
    [optional "regularExpressions" (record
       [required "engine" string, optional "version" string]),
     optional "markdown" (record
       [required "parser" string, optional "version" string,
        optional "allowedTags" (list string)]),
     optional "staleRequestSupport" (record
       [required "cancel" bool, required "retryOnContentModified" (list string)]),
     optional "positionEncodings" (list string)]

/-- What an editor can do. -/
def capabilities : Shape :=
  record
    [optional "workspace" workspaceCapabilities,
     optional "textDocument" documentCapabilities,
     optional "window" windowCapabilities,
     optional "general" generalCapabilities,
     optional "experimental" any]

/-- What an editor tells when it connects. -/
def connection : Shape :=
  record
    [optional "processId" nat32,
     optional "rootPath" string,
     optional "rootUri" uri,
     optional "initializationOptions" any,
     required "capabilities" capabilities,
     optional "trace" (word ["off", "messages", "verbose"]),
     optional "workspaceFolders" (list (record [required "uri" uri, required "name" string])),
     optional "clientInfo" (record [required "name" string, optional "version" string]),
     optional "locale" string]

end JavaLens.Rpc.Shape
