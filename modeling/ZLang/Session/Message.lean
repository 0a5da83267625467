import ZLang.Document
import ZLang.Session.Capability
import ZLang.Session.Method

/-!
Messages from an editor. A message names a method and may carry parameters; with an identity it is a
request, which is answered, and without one a notification. What it asks for is a command:
`Method.command?` reads the parameters of a method, with the URIs in them, and when they are wrong
there is no command.
-/
set_option autoImplicit false

namespace ZLang.Session

open ZLang.Json (Value)

/-- The identity of a request. -/
inductive Id where
  | number (n : Int)
  | string (s : Text)
  | null
  deriving DecidableEq, Repr

structure Message where
  id : Option Id
  method : Text
  params : Option Value

/-- What an editor can ask for. -/
inductive Command where
  | setUp
  | initialized
  | shutdown
  | exit
  | didOpen (uri : Uri) (document : Document)
  | didChange (uri : Uri) (version : Int) (texts : List Text)
  | didClose (uri : Uri)
  | hover (uri : Uri) (position : Position)
  | completion (uri : Uri) (position : Position)
  /-- A method of the protocol that this server does not offer. -/
  | unserved
  deriving DecidableEq, Repr

/-! ## Parameters -/

namespace Params

open Shape Session.Field

/-- Parameters that hold nothing. -/
def isVoid : Shape := record []

/-- How a completion was triggered. -/
def trigger : Shape := record [need "triggerKind" signed, may "triggerCharacter" text]

def list? : Value → Option (List Value)
  | .array items => some items
  | _ => none

section

variable (readUri : UriReader)

def position? (v : Value) : Option Position := do
  match ← values? readUri positionFields v with
  | [line, character] => return ⟨← natural? line, ← natural? character⟩
  | _ => none

def document? (v : Value) : Option Uri := do
  match ← values? readUri documentFields v with
  | [u] => uri? readUri u
  | _ => none

/-- A document that is opened. -/
def opened? (v : Value) : Option (Uri × Document) := do
  match ← values? readUri itemFields v with
  | [u, _, version, content] => return (← uri? readUri u, ⟨← text? content, ← signed? version⟩)
  | _ => none

/-- A document and its version. -/
def versioned? (v : Value) : Option (Uri × Int) := do
  match ← values? readUri versionedFields v with
  | [u, version] => return (← uri? readUri u, ← signed? version)
  | _ => none

/-- The text of a change. A change carries the whole new text; a range beside it has no effect. -/
def change? (v : Value) : Option Text := do
  match ← values? readUri changeFields v with
  | [_, _, content] => text? content
  | _ => none

/-- A document and a place in it, with other fields beside them. -/
def place? (others : List Field) (v : Value) : Option (Uri × Position) := do
  match ← openValues? readUri (placeFields ++ others) v with
  | d :: p :: _ => return (← document? readUri d, ← position? readUri p)
  | _ => none

end

end Params

namespace Method

open Shape Session.Field Params

variable (readUri : UriReader)

/-- The command of a method whose parameters are `v`. -/
def commandOf? (m : Method) (v : Value) : Option Command :=
  match m with
  | setUp => if opening readUri v then some .setUp else none
  | initialized => if isVoid readUri v then some .initialized else none
  | shutdown => none
  | exit => some .exit
  | didOpen => do
    match ← values? readUri [need "textDocument" anything] v with
    | [item] =>
      let (u, d) ← opened? readUri item
      return .didOpen u d
    | _ => none
  | didChange => do
    match ← values? readUri [need "textDocument" anything, need "contentChanges" anything] v with
    | [item, changes] =>
      let (u, version) ← versioned? readUri item
      return .didChange u version (← (← list? changes).mapM (change? readUri))
    | _ => none
  | didClose => do
    match ← values? readUri [need "textDocument" anything] v with
    | [item] => return .didClose (← document? readUri item)
    | _ => none
  | hover => do
    let (u, p) ← place? readUri workFields v
    return .hover u p
  | completion => do
    let (u, p) ← place? readUri (progressFields ++ [may "context" trigger]) v
    return .completion u p
  | unservedRequest name => if requestShape name readUri v then some .unserved else none
  | cancel | unservedNotification => some .unserved

/-- The command of a method; only `shutdown` and `exit` go without parameters. -/
def command? (m : Method) (params : Option Value) : Option Command :=
  match m, params with
  | exit, _ => some .exit
  | shutdown, none => some .shutdown
  | m, some v => m.commandOf? readUri v
  | _, none => none

end Method

end ZLang.Session
