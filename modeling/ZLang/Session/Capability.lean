import ZLang.Session.Structure

/-!
What an editor says about itself when it opens a session. The server makes no use of it, but refuses
what does not have the right shape.
-/
set_option autoImplicit false

namespace ZLang.Session.Shape

open Session.Field

/-! ## Parts of several capabilities -/

def dynamicFields : List Field := [may "dynamicRegistration" bool]

def dynamic : Shape := record dynamicFields

def refresh : Shape := record [may "refreshSupport" bool]

def properties : Shape := record [need "properties" (list text)]

/-- The tags an editor knows; a truth value says only whether it knows any. -/
def tagSupport : Shape :=
  orNull (either bool (record [need "valueSet" (list signed)]))

def symbolKinds : Shape := record [may "valueSet" (list signed)]

def gotoCapability : Shape := record (dynamicFields ++ [may "linkSupport" bool])

/-! ## The workspace -/

def editCapability : Shape :=
  record [may "documentChanges" bool,
    may "resourceOperations" (list (oneOf ["create", "rename", "delete"])),
    may "failureHandling" (oneOf ["abort", "transactional", "textOnlyTransactional", "undo"]),
    may "normalizesLineEndings" bool,
    may "changeAnnotationSupport" (record [may "groupsOnLabel" bool])]

def symbolSearchCapability : Shape :=
  record (dynamicFields ++ [may "symbolKind" symbolKinds, preset "tagSupport" tagSupport,
    may "resolveSupport" properties])

def fileOperationCapability : Shape :=
  record (dynamicFields ++ [may "didCreate" bool, may "willCreate" bool, may "didRename" bool,
    may "willRename" bool, may "didDelete" bool, may "willDelete" bool])

def workspaceCapability : Shape :=
  record [may "applyEdit" bool, may "workspaceEdit" editCapability,
    may "didChangeConfiguration" dynamic,
    may "didChangeWatchedFiles" (record (dynamicFields ++ [may "relativePatternSupport" bool])),
    may "symbol" symbolSearchCapability, may "executeCommand" dynamic,
    may "workspaceFolders" bool, may "configuration" bool, may "semanticTokens" refresh,
    may "codeLens" refresh, may "fileOperations" fileOperationCapability,
    may "inlineValue" refresh, may "inlayHint" refresh, may "diagnostic" refresh]

/-! ## Documents -/

def synchronizationCapability : Shape :=
  record (dynamicFields ++ [may "willSave" bool, may "willSaveWaitUntil" bool,
    may "didSave" bool])

def completionItemCapability : Shape :=
  record [may "snippetSupport" bool, may "commitCharactersSupport" bool,
    may "documentationFormat" (list markupKind), may "deprecatedSupport" bool,
    may "preselectSupport" bool, preset "tagSupport" tagSupport, may "insertReplaceSupport" bool,
    may "resolveSupport" properties,
    may "insertTextModeSupport" (record [need "valueSet" (list signed)]),
    may "labelDetailsSupport" bool]

def completionCapability : Shape :=
  record (dynamicFields ++ [may "completionItem" completionItemCapability,
    may "completionItemKind" (record [may "valueSet" (list signed)]), may "contextSupport" bool,
    may "insertTextMode" signed, may "completionList" (record [may "itemDefaults" (list text)])])

def signatureCapability : Shape :=
  record (dynamicFields ++
    [may "signatureInformation"
      (record [may "documentationFormat" (list markupKind),
        may "parameterInformation" (record [may "labelOffsetSupport" bool]),
        may "activeParameterSupport" bool]),
      may "contextSupport" bool])

def documentSymbolCapability : Shape :=
  record (dynamicFields ++ [may "symbolKind" symbolKinds,
    may "hierarchicalDocumentSymbolSupport" bool, preset "tagSupport" tagSupport])

def codeActionCapability : Shape :=
  record (dynamicFields ++
    [may "codeActionLiteralSupport"
      (record [need "codeActionKind" (record [need "valueSet" (list text)])]),
      may "isPreferredSupport" bool, may "disabledSupport" bool, may "dataSupport" bool,
      may "resolveSupport" properties, may "honorsChangeAnnotations" bool])

def renameCapability : Shape :=
  record (dynamicFields ++ [may "prepareSupport" bool,
    may "prepareSupportDefaultBehavior" signed, may "honorsChangeAnnotations" bool])

def publicationCapability : Shape :=
  record [may "relatedInformation" bool, preset "tagSupport" tagSupport,
    may "versionSupport" bool, may "codeDescriptionSupport" bool, may "dataSupport" bool]

def foldingCapability : Shape :=
  record (dynamicFields ++ [may "rangeLimit" natural, may "lineFoldingOnly" bool,
    may "foldingRangeKind"
      (record [may "valueSet" (list (oneOf ["comment", "imports", "region"]))]),
    may "foldingRange" (record [may "collapsedText" bool])])

/-- Whether whole documents can be asked for, and whether changes of them can. -/
def fullTokens : Shape := either bool (openRecord [may "delta" bool])

def tokenCapability : Shape :=
  record (dynamicFields ++
    [need "requests" (record [may "range" bool, may "full" fullTokens]),
      need "tokenTypes" (list text), need "tokenModifiers" (list text), need "formats" (list text),
      may "overlappingTokenSupport" bool, may "multilineTokenSupport" bool,
      may "serverCancelSupport" bool, may "augmentsSyntaxTokens" bool])

def documentCapability : Shape :=
  record [may "synchronization" synchronizationCapability,
    may "completion" completionCapability,
    may "hover" (record (dynamicFields ++ [may "contentFormat" (list markupKind)])),
    may "signatureHelp" signatureCapability, may "references" dynamic,
    may "documentHighlight" dynamic, may "documentSymbol" documentSymbolCapability,
    may "formatting" dynamic, may "rangeFormatting" dynamic, may "onTypeFormatting" dynamic,
    may "declaration" gotoCapability, may "definition" gotoCapability,
    may "typeDefinition" gotoCapability, may "implementation" gotoCapability,
    may "codeAction" codeActionCapability, may "codeLens" dynamic,
    may "documentLink" (record (dynamicFields ++ [may "tooltipSupport" bool])),
    may "colorProvider" dynamic, may "rename" renameCapability,
    may "publishDiagnostics" publicationCapability, may "foldingRange" foldingCapability,
    may "selectionRange" dynamic, may "linkedEditingRange" dynamic, may "callHierarchy" dynamic,
    may "semanticTokens" tokenCapability, may "moniker" dynamic, may "typeHierarchy" dynamic,
    may "inlineValue" dynamic,
    may "inlayHint" (record (dynamicFields ++ [may "resolveSupport" properties])),
    may "diagnostic" (record (dynamicFields ++ [may "relatedDocumentSupport" bool]))]

/-! ## Everything -/

def windowCapability : Shape :=
  record [may "workDoneProgress" bool,
    may "showMessage"
      (record [may "messageActionItem" (record [may "additionalPropertiesSupport" bool])]),
    may "showDocument" (record [need "support" bool])]

def generalCapability : Shape :=
  record [may "regularExpressions" (record [need "engine" text, may "version" text]),
    may "markdown"
      (record [need "parser" text, may "version" text, may "allowedTags" (list text)]),
    may "staleRequestSupport"
      (record [need "cancel" bool, need "retryOnContentModified" (list text)]),
    may "positionEncodings" (list text)]

def capabilities : Shape :=
  record [may "workspace" workspaceCapability, may "textDocument" documentCapability,
    may "window" windowCapability, may "general" generalCapability,
    may "experimental" anything]

/-- What a session is opened with. -/
def opening : Shape :=
  record [may "processId" natural, may "rootPath" text, preset "rootUri" (orNull uri),
    may "initializationOptions" anything, need "capabilities" capabilities,
    preset "trace" (orNull (oneOf ["off", "messages", "verbose"])),
    may "workspaceFolders" (list (record [need "uri" uri, need "name" text])),
    may "clientInfo" (record [need "name" text, may "version" text]), may "locale" text]

end ZLang.Session.Shape
