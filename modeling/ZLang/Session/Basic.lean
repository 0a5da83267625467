import ZLang.Session.Message

/-!
Sessions. A session starts uninitialized, serves between `initialize` and `shutdown`, and is over
after `exit`. `step` handles one message: it gives the session after it, the answer to a request,
and the notices sent to the editor. Each time a document is opened, changed or closed its markers
are published. Documents are told apart by what the reader of URIs makes of the texts in messages.
-/
set_option autoImplicit false

namespace ZLang.Session

/-! ## What the server says -/

/-- Why a request is not answered with a result. -/
inductive Fault where
  | invalidRequest
  | methodNotFound (name : Option Text)
  | invalidParams
  | notInitialized
  /-- What came is no JSON. -/
  | unreadable
  deriving DecidableEq, Repr

namespace Fault

def code : Fault → Int
  | invalidRequest => -32600
  | methodNotFound _ => -32601
  | invalidParams => -32602
  | notInitialized => -32002
  | unreadable => -32700

def message : Fault → Text
  | invalidRequest => "Invalid request".toList
  | methodNotFound _ => "Method not found".toList
  | invalidParams => "Invalid params".toList
  | notInitialized => "Server not initialized".toList
  | unreadable => "Parse error".toList

end Fault

inductive Answer where
  | nothing
  | capabilities
  | hover (content : Text)
  | completion (items : List Vocabulary.Item)
  deriving DecidableEq, Repr

structure Response where
  id : Id
  outcome : Except Fault Answer

/-- What the server tells the editor on its own. -/
inductive Notice where
  | log (message : Text)
  | publish (uri : Uri) (markers : List Marker) (version : Option Int)
  deriving DecidableEq, Repr

/-- What comes of a message. -/
structure Effect where
  response : Option Response
  sent : List Notice

namespace Effect

/-- Nothing comes of it. -/
def quiet : Effect := ⟨none, []⟩

/-- An answer, if one is expected. -/
def reply (id : Option Id) (outcome : Except Fault Answer) : Effect :=
  ⟨id.map fun i => ⟨i, outcome⟩, []⟩

def notify (sent : List Notice) : Effect := ⟨none, sent⟩

end Effect

/-! ## The documents that are open -/

structure Store where
  documents : List (Uri × Document)
  deriving DecidableEq, Repr

namespace Store

def empty : Store := ⟨[]⟩

def get? (s : Store) (uri : Uri) : Option Document :=
  (s.documents.find? fun e => e.1 == uri).map Prod.snd

def erase (s : Store) (uri : Uri) : Store := ⟨s.documents.filter fun e => e.1 != uri⟩

/-- Keep a document, in place of the one there was. -/
def insert (s : Store) (uri : Uri) (d : Document) : Store :=
  ⟨(s.erase uri).documents ++ [(uri, d)]⟩

@[simp] theorem get?_erase (s : Store) (uri v : Uri) :
    (s.erase uri).get? v = if v = uri then none else s.get? v := by
  unfold get? erase
  induction s.documents with
  | nil => simp
  | cons e rest ih => grind

@[simp] theorem get?_insert (s : Store) (uri v : Uri) (d : Document) :
    (s.insert uri d).get? v = if v = uri then some d else s.get? v := by
  have h := get?_erase s uri v
  unfold get? at h ⊢
  unfold insert
  rw [List.find?_append, Option.map_or, h]
  by_cases hv : v = uri
  · subst hv
    simp
  · have hn : ¬ uri = v := fun e => hv e.symm
    simp [hv, hn]

end Store

end ZLang.Session

/-! ## Sessions -/

namespace ZLang

inductive Session.Phase where
  | uninitialized
  | initialized
  | shutDown
  | exited
  deriving DecidableEq, Repr

structure Session where
  phase : Session.Phase
  store : Session.Store
  deriving DecidableEq, Repr

namespace Session

def start : Session := ⟨.uninitialized, .empty⟩

def greeting : Text := "zlang-ls initialized".toList

/-- Publish the markers of a document, if it is open. -/
def publish (s : Store) (uri : Uri) : List Notice :=
  match s.get? uri with
  | none => []
  | some d => [.publish uri (Marker.ofDocument d.content) (some d.version)]

def hoverAnswer (s : Store) (uri : Uri) (p : Position) : Answer :=
  match (s.get? uri).bind fun d => (d.content.wordAt? p).bind Vocabulary.hover? with
  | some content => .hover content
  | none => .nothing

def completionAnswer (s : Store) (uri : Uri) (p : Position) : Answer :=
  match s.get? uri with
  | none => .nothing
  | some d =>
    let items := Vocabulary.completions (d.content.typedAt p)
    if items.isEmpty then .nothing else .completion items

/-- Keep a new text of a document and publish its markers. -/
def keep (s : Store) (uri : Uri) (d : Document) : Store × Effect :=
  let kept := s.insert uri d
  (kept, .notify (publish kept uri))

theorem publish_of_get? {s : Store} {uri : Uri} {d : Document} (h : s.get? uri = some d) :
    publish s uri = [.publish uri (Marker.ofDocument d.content) (some d.version)] := by
  simp [publish, h]

theorem publish_of_get?_eq_none {s : Store} {uri : Uri} (h : s.get? uri = none) :
    publish s uri = [] := by
  simp [publish, h]

/-- What is published is the document that has just been kept. -/
@[simp] theorem keep_sent (s : Store) (uri : Uri) (d : Document) :
    (keep s uri d).2.sent = [.publish uri (Marker.ofDocument d.content) (some d.version)] :=
  publish_of_get? (by simp)

/-- Carry out a command while the session serves. Of several changes the last one counts. -/
def perform (s : Store) (id : Option Id) : Command → Store × Effect
  | .didOpen uri d => keep s uri d
  | .didChange uri version texts =>
    match texts.getLast? with
    | some t => keep s uri ⟨t, version⟩
    | none => (s, .quiet)
  | .didClose uri => (s.erase uri, .notify [.publish uri [] none])
  | .hover uri p => (s, .reply id (.ok (hoverAnswer s uri p)))
  | .completion uri p => (s, .reply id (.ok (completionAnswer s uri p)))
  | .initialized => (s, .notify [.log greeting])
  | .unserved => (s, .reply id (.error (.methodNotFound none)))
  | .setUp | .shutdown | .exit => (s, .quiet)

/-- The fault of a request that comes when the session does not serve. -/
def Phase.fault : Phase → Fault
  | .uninitialized => .notInitialized
  | _ => .invalidRequest

section

variable (readUri : UriReader)

/-- Open the session. It stays uninitialized when the parameters are wrong or no answer is
expected. -/
def setUp (s : Session) (m : Message) : Session × Effect :=
  if s.phase != .uninitialized then (s, .reply m.id (.error .invalidRequest))
  else
    match m.id, Method.setUp.command? readUri m.params with
    | none, _ => (s, .quiet)
    | _, none => (s, .reply m.id (.error .invalidParams))
    | _, some _ => ({ s with phase := .initialized }, .reply m.id (.ok .capabilities))

/-- End the service. -/
def shutdown (s : Session) (m : Message) : Session × Effect :=
  if s.phase != .initialized then (s, .reply m.id (.error s.phase.fault))
  else
    match Method.shutdown.command? readUri m.params with
    | some _ => ({ s with phase := .shutDown }, .reply m.id (.ok .nothing))
    | none => ({ s with phase := .shutDown }, .reply m.id (.error .invalidParams))

/-- The answer to a message whose method and identity do not go together: a notification with an
identity is no valid request, and a request without one is passed over. -/
def mismatch (m : Message) : Effect := .reply m.id (.error .invalidRequest)

/-- Any other method. -/
def serve (s : Session) (method : Method) (m : Message) : Session × Effect :=
  if s.phase != .initialized then (s, .reply m.id (.error s.phase.fault))
  else if method.isRequest != m.id.isSome then (s, mismatch m)
  else
    match method.command? readUri m.params with
    | none => (s, .reply m.id (.error .invalidParams))
    | some c =>
      let (store, effect) := perform s.store m.id c
      ({ s with store := store }, effect)

/-- A method the protocol does not have. Its name is told, unless it is one that may be ignored. -/
def unknown (m : Message) : Effect :=
  if "$/".toList.isPrefixOf m.method then .quiet
  else .reply m.id (.error (.methodNotFound (some m.method)))

/-- Handle one message. A session that is over stays as it is. No request is ever under way when
another message is handled, so there is none to take back. -/
def step (s : Session) (m : Message) : Session × Effect :=
  if s.phase == .exited then (s, .quiet)
  else
    match Method.ofName? m.method with
    | none => (s, unknown m)
    | some .exit => ({ s with phase := .exited }, .quiet)
    | some .setUp => s.setUp readUri m
    | some .shutdown => s.shutdown readUri m
    | some .cancel => (s, mismatch m)
    | some method => s.serve readUri method m

/-- The command of a message that is carried out; `none` when the message is refused or passed
over. -/
def accepted? (s : Session) (m : Message) : Option Command := do
  guard (s.phase == .initialized)
  let method ← Method.ofName? m.method
  guard (method.isRequest == m.id.isSome)
  method.command? readUri m.params

/-- Handle messages one after the other. -/
def run (s : Session) : List Message → Session × List Effect
  | [] => (s, [])
  | m :: rest =>
    let (s', effect) := s.step readUri m
    let (s'', effects) := run s' rest
    (s'', effect :: effects)

end

end Session

end ZLang
