import ZLang.Session.Structure

/-!
The methods of the protocol between editor and server, by name. Some of them this server offers. Of
the others it knows the names, and the shapes that the parameters of requests must have.
-/
set_option autoImplicit false

namespace ZLang.Session

inductive Method where
  | setUp
  | initialized
  | shutdown
  | exit
  | didOpen
  | didChange
  | didClose
  | hover
  | completion
  /-- Take a request back. -/
  | cancel
  | unservedRequest (name : String)
  | unservedNotification
  deriving DecidableEq, Repr

namespace Method

def isRequest : Method → Bool
  | setUp | shutdown | hover | completion | unservedRequest _ => true
  | initialized | exit | didOpen | didChange | didClose | cancel | unservedNotification => false

def served : List (String × Method) :=
  [("initialize", setUp), ("initialized", initialized), ("shutdown", shutdown), ("exit", exit),
    ("textDocument/didOpen", didOpen), ("textDocument/didChange", didChange),
    ("textDocument/didClose", didClose), ("textDocument/hover", hover),
    ("textDocument/completion", completion), ("$/cancelRequest", cancel)]

/-! ## Requests that are not served -/

section Shapes

open Shape Session.Field

/-- A place in a document. -/
def placeShape : Shape := openRecord (placeFields ++ workFields)

/-- A place in a document, where the answer may come in parts. -/
def placePartsShape : Shape := openRecord (placeFields ++ progressFields)

/-- A whole document. -/
def documentShape (fields : List Field) : Shape :=
  openRecord (need "textDocument" document :: fields ++ progressFields)

def rangeFields : List Field := [need "textDocument" document, need "range" range]

def filesShape (fields : List Field) : Shape := record [need "files" (list (record fields))]

def gotoRequests : List (String × Shape) :=
  [("textDocument/declaration", placePartsShape), ("textDocument/definition", placePartsShape),
    ("textDocument/typeDefinition", placePartsShape),
    ("textDocument/implementation", placePartsShape),
    ("textDocument/references", openRecord (placeFields ++ progressFields ++
      [need "context" (record [need "includeDeclaration" bool])]))]

def hierarchyRequests : List (String × Shape) :=
  [("textDocument/prepareCallHierarchy", placeShape),
    ("callHierarchy/incomingCalls", openRecord (need "item" callItem :: progressFields)),
    ("callHierarchy/outgoingCalls", openRecord (need "item" callItem :: progressFields)),
    ("textDocument/prepareTypeHierarchy", placeShape),
    ("typeHierarchy/supertypes", openRecord (need "item" typeItem :: progressFields)),
    ("typeHierarchy/subtypes", openRecord (need "item" typeItem :: progressFields))]

def readingRequests : List (String × Shape) :=
  [("textDocument/documentHighlight", placePartsShape),
    ("textDocument/documentLink", documentShape []), ("documentLink/resolve", documentLink),
    ("textDocument/codeLens", documentShape []), ("codeLens/resolve", codeLens),
    ("textDocument/foldingRange", documentShape []),
    ("textDocument/selectionRange", documentShape [need "positions" (list position)]),
    ("textDocument/documentSymbol", documentShape []),
    ("textDocument/semanticTokens/full", documentShape []),
    ("textDocument/semanticTokens/full/delta", documentShape [need "previousResultId" text]),
    ("textDocument/semanticTokens/range", documentShape [need "range" range]),
    ("textDocument/inlineValue", openRecord (rangeFields ++ workFields ++
      [need "context" (record [need "frameId" signed, need "stoppedLocation" range])])),
    ("textDocument/inlayHint", openRecord (rangeFields ++ workFields)),
    ("inlayHint/resolve", inlayHint), ("textDocument/moniker", placePartsShape),
    ("textDocument/documentColor", documentShape []),
    ("textDocument/colorPresentation", documentShape [need "range" range,
      need "color" (record [need "red" number, need "green" number, need "blue" number,
        need "alpha" number])]),
    ("textDocument/diagnostic",
      documentShape [may "identifier" text, may "previousResultId" text]),
    ("workspace/diagnostic", openRecord (may "identifier" text ::
      need "previousResultIds" (list (record [need "uri" uri, need "value" text])) ::
      progressFields)),
    ("textDocument/linkedEditingRange", placeShape),
    ("workspace/symbol", openRecord (need "query" text :: progressFields)),
    ("workspaceSymbol/resolve", workspaceSymbol)]

def writingRequests : List (String × Shape) :=
  [("textDocument/willSaveWaitUntil",
      record [need "textDocument" document, need "reason" signed]),
    ("completionItem/resolve", completionItem),
    ("textDocument/signatureHelp",
      openRecord (may "context" signatureContext :: placeFields ++ workFields)),
    ("textDocument/codeAction", documentShape [need "range" range,
      need "context" (record [need "diagnostics" (list diagnostic), may "only" (list text),
        may "triggerKind" signed])]),
    ("codeAction/resolve", codeAction),
    ("textDocument/formatting", openRecord (need "textDocument" document ::
      need "options" formatting :: workFields)),
    ("textDocument/rangeFormatting",
      openRecord (rangeFields ++ need "options" formatting :: workFields)),
    ("textDocument/onTypeFormatting",
      openRecord (placeFields ++ [need "ch" text, need "options" formatting])),
    ("textDocument/rename", openRecord (placeFields ++ need "newName" text :: workFields)),
    ("textDocument/prepareRename", record placeFields),
    ("workspace/willCreateFiles", filesShape [need "uri" text]),
    ("workspace/willRenameFiles", filesShape [need "oldUri" text, need "newUri" text]),
    ("workspace/willDeleteFiles", filesShape [need "uri" text]),
    ("workspace/executeCommand", openRecord (need "command" text ::
      preset "arguments" (list anything) :: workFields))]

end Shapes

def unservedRequests : List (String × Shape) :=
  gotoRequests ++ hierarchyRequests ++ readingRequests ++ writingRequests

/-- The shape that the parameters of a request must have. -/
def requestShape (name : String) : Shape := fun readUri v =>
  (unservedRequests.find? fun e => e.1 == name).any fun e => e.2 readUri v

def unservedNotifications : List String :=
  ["textDocument/willSave", "textDocument/didSave", "workspace/didChangeConfiguration",
    "workspace/didChangeWorkspaceFolders", "workspace/didCreateFiles", "workspace/didRenameFiles",
    "workspace/didDeleteFiles", "workspace/didChangeWatchedFiles"]

/-- The method of a name; `none` when the protocol has no such method. -/
def ofName? (name : Text) : Option Method :=
  match served.find? fun e => e.1.toList == name with
  | some e => some e.2
  | none =>
    match unservedRequests.find? fun e => e.1.toList == name with
    | some e => some (unservedRequest e.1)
    | none =>
      if unservedNotifications.any fun n => n.toList == name then some unservedNotification
      else none

end Method

end ZLang.Session
