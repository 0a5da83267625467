import ZLang.Session.Shape

/-!
The structures that parameters are made of: places in documents, edits, symbols, and what an editor
can send back to a server.
-/
set_option autoImplicit false

namespace ZLang.Session.Shape

open Session.Field

/-! ## Places -/

def positionFields : List Field := [need "line" natural, need "character" natural]

def position : Shape := record positionFields

def range : Shape := record [need "start" position, need "end" position]

def location : Shape := record [need "uri" uri, need "range" range]

def documentFields : List Field := [need "uri" uri]

def document : Shape := record documentFields

def itemFields : List Field :=
  [need "uri" uri, need "languageId" text, need "version" signed, need "text" text]

def versionedFields : List Field := [need "uri" uri, need "version" signed]

def changeFields : List Field :=
  [may "range" range, may "rangeLength" natural, need "text" text]

/-- The fields of a place in a document. -/
def placeFields : List Field :=
  [need "textDocument" document, need "position" position]

/-! ## Progress -/

/-- A number or a name. -/
def token : Shape := either signed text

def workFields : List Field := [may "workDoneToken" token]

def resultFields : List Field := [may "partialResultToken" token]

def progressFields : List Field := workFields ++ resultFields

/-! ## Texts and commands -/

def markupKind : Shape := oneOf ["plaintext", "markdown"]

def markup : Shape := record [need "kind" markupKind, need "value" text]

def documentation : Shape := either text markup

def command : Shape :=
  record [need "title" text, need "command" text, may "arguments" (list anything)]

/-! ## Diagnostics -/

def related : Shape := record [need "location" location, need "message" text]

def diagnostic : Shape :=
  record [need "range" range, may "severity" signed, may "code" token,
    may "codeDescription" (record [need "href" uri]), may "source" text, need "message" text,
    may "relatedInformation" (list related), may "tags" (list signed), may "data" anything]

/-! ## Edits -/

def edit : Shape := record [need "range" range, need "newText" text]

def editWithin : Shape :=
  record [need "newText" text, need "insert" range, need "replace" range]

def documentEdit : Shape :=
  record [need "textDocument" (record [need "uri" uri, may "version" signed]),
    need "edits" (list edit)]

def creationFields : List Field :=
  [need "uri" uri,
    may "options" (record [may "overwrite" bool, may "ignoreIfExists" bool]),
    may "annotationId" text]

def renamingFields : List Field :=
  [need "oldUri" uri, need "newUri" uri,
    may "options" (record [may "overwrite" bool, may "ignoreIfExists" bool]),
    may "annotationId" text]

def deletionFields : List Field :=
  [need "uri" uri,
    may "options" (record [may "recursive" bool, may "ignoreIfNotExists" bool,
      may "annotationId" text])]

/-- The fields of an operation on files, by its kind. -/
def operationFields (kind : Text) : Option (List Field) :=
  if kind == "create".toList then some creationFields
  else if kind == "rename".toList then some renamingFields
  else if kind == "delete".toList then some deletionFields
  else none

/-- An operation on files. Its kind is a member, or the first item. -/
def operation : Shape
  | readUri, .array (.string kind :: items) =>
    (operationFields kind).any fun fields => record fields readUri (.array items)
  | readUri, v =>
    match v.get? "kind".toList with
    | some (.string kind) => (operationFields kind).any fun fields => record fields readUri v
    | _ => false

def annotation : Shape :=
  record [need "label" text, may "needsConfirmation" bool, may "description" text]

def workspaceEdit : Shape :=
  record [preset "changes" (orNull (dictionary isUri (list edit))),
    may "documentChanges" (list (either documentEdit operation)),
    may "changeAnnotations" (dictionary (fun _ _ => true) annotation)]

/-! ## Symbols -/

def callItem : Shape :=
  record [need "name" text, need "kind" signed, may "tags" (list signed), may "detail" text,
    need "uri" uri, need "range" range, need "selectionRange" range, may "data" anything]

def typeItem : Shape :=
  record [need "name" text, need "kind" signed, may "tags" signed, may "detail" text,
    need "uri" uri, need "range" range, need "selectionRange" range, may "data" anything]

def workspaceSymbol : Shape :=
  record [need "name" text, need "kind" signed, may "tags" (list signed),
    may "containerName" text, need "location" (either location document), may "data" anything]

/-! ## What is sent back to be completed -/

def completionItem : Shape :=
  record [need "label" text,
    may "labelDetails" (record [may "detail" text, may "description" text]), may "kind" signed,
    may "detail" text, may "documentation" documentation, may "deprecated" bool,
    may "preselect" bool, may "sortText" text, may "filterText" text, may "insertText" text,
    may "insertTextFormat" signed, may "insertTextMode" signed,
    may "textEdit" (either edit editWithin), may "additionalTextEdits" (list edit),
    may "command" command, may "commitCharacters" (list text), may "data" anything,
    may "tags" (list signed)]

def codeLens : Shape :=
  record [need "range" range, may "command" command, may "data" anything]

def documentLink : Shape :=
  record [need "range" range, may "target" uri, may "tooltip" text, may "data" anything]

def codeAction : Shape :=
  record [need "title" text, may "kind" text, may "diagnostics" (list diagnostic),
    may "edit" workspaceEdit, may "command" command, may "isPreferred" bool,
    may "disabled" (record [need "reason" text]), may "data" anything]

def hintPart : Shape :=
  record [need "value" text, may "tooltip" documentation, may "location" location,
    may "command" command]

def inlayHint : Shape :=
  record [need "position" position, need "label" (either text (list hintPart)),
    may "kind" signed, may "textEdits" (list edit), may "tooltip" documentation,
    may "paddingLeft" bool, may "paddingRight" bool, may "data" anything]

/-! ## Signatures -/

/-- The label of a parameter: its text, or its two ends in the label of the signature. -/
def parameterLabel : Shape
  | readUri, .array [first, last] => natural readUri first && natural readUri last
  | readUri, v => text readUri v

def signature : Shape :=
  record [need "label" text, may "documentation" documentation,
    may "parameters"
      (list (record [need "label" parameterLabel, may "documentation" documentation])),
    may "activeParameter" natural]

def signatureContext : Shape :=
  record [need "triggerKind" signed, may "triggerCharacter" text, need "isRetrigger" bool,
    may "activeSignatureHelp"
      (record [need "signatures" (list signature), may "activeSignature" natural,
        may "activeParameter" natural])]

/-! ## Formatting -/

def formattingFields : List Field :=
  [need "tabSize" natural, need "insertSpaces" bool, may "trimTrailingWhitespace" bool,
    may "insertFinalNewline" bool, may "trimFinalNewlines" bool]

/-- Options of formatting. An option with another name is a truth value, a number or a text. -/
def formatting : Shape := fun readUri v =>
  let isKnown := fun key => formattingFields.any fun f => f.name.toList == key
  openRecord formattingFields readUri v &&
    match v with
    | .object members =>
      members.all fun m => isKnown m.1 || either bool (either signed text) readUri m.2
    | _ => false

end ZLang.Session.Shape
