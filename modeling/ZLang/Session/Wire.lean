import ZLang.Json.Printer
import ZLang.Json.Reader
import ZLang.Session.Basic

/-!
Sessions on the wire: messages, answers and notices as JSON, and the frames in which they travel.
The members of an object stand in the order of their names.
-/
set_option autoImplicit false

namespace ZLang.Session

open ZLang.Json (Value)

namespace Wire

def object (members : List (String × Value)) : Value :=
  .object (members.map fun m => (m.1.toList, m.2))

theorem get?_object {members : List (String × Value)} {name : String} {v : Value}
    (hnames : (members.map Prod.fst).Nodup) (i : Nat) (h : members[i]? = some (name, v)) :
    (object members).get? name.toList = some v := by
  have hmember : (members.map fun m => (m.1.toList, m.2))[i]? = some (name.toList, v) := by
    rw [List.getElem?_map, h]
    rfl
  refine Value.get?_object ?_ i hmember
  have hmap : (members.map fun m => (m.1.toList, m.2)).map Prod.fst =
      (members.map Prod.fst).map String.toList := by
    rw [List.map_map, List.map_map]
    rfl
  rw [hmap]
  exact List.Pairwise.map _ (fun a b hne heq => hne (String.toList_inj.mp heq)) hnames

def string (s : String) : Value := .string s.toList

/-! ## Values -/

def ofPosition (line character : Nat) : Value :=
  object [("character", .ofNat character), ("line", .ofNat line)]

def errorSeverity : Nat := 1

def source : String := "zlang"

def ofMarker (m : Marker) : Value :=
  object [("code", .string m.rule.code), ("message", .string m.message),
    ("range", object [("end", ofPosition m.line m.stop), ("start", ofPosition m.line 0)]),
    ("severity", .ofNat errorSeverity), ("source", string source)]

def ofHover (content : Text) : Value :=
  object [("contents", object [("kind", string "markdown"), ("value", .string content)])]

def itemKind : Vocabulary.WordClass → Nat
  | .keyword => 14
  | .function => 3

def snippetFormat : Nat := 2

def ofItem (i : Vocabulary.Item) : Value :=
  let insertion := match i.snippet? with
    | some t => [("insertText", .string t), ("insertTextFormat", .ofNat snippetFormat)]
    | none => []
  object ([("detail", .string i.wordClass.detail)] ++ insertion ++
    [("kind", .ofNat (itemKind i.wordClass)), ("label", .string i.label)])

/-- The whole text of a document is sent with each change. -/
def fullSync : Nat := 1

def capabilities : Value :=
  object [
    ("capabilities", object [("completionProvider", object [("resolveProvider", .bool false)]),
      ("hoverProvider", .bool true), ("textDocumentSync", .ofNat fullSync)]),
    ("serverInfo", object [("name", string "zlang-ls"), ("version", string "0.1.0")])]

def ofAnswer : Answer → Value
  | .nothing => .null
  | .capabilities => capabilities
  | .hover content => ofHover content
  | .completion items => .array (items.map ofItem)

def ofFault (f : Fault) : Value :=
  let data := match f with
    | .methodNotFound (some name) => [("data", Value.string name)]
    | _ => []
  object ([("code", .ofInt f.code), ("message", .string f.message)] ++ data)

def infoType : Nat := 3

def noticeMethod : Notice → String
  | .log _ => "window/logMessage"
  | .publish _ _ _ => "textDocument/publishDiagnostics"

def noticeParams : Notice → Value
  | .log message => object [("message", .string message), ("type", .ofNat infoType)]
  | .publish uri markers version =>
    let versionMember := match version with
      | some v => [("version", .ofInt v)]
      | none => []
    object ([("diagnostics", .array (markers.map ofMarker)), ("uri", .string uri.text)] ++
      versionMember)

def ofId : Id → Value
  | .number n => .ofInt n
  | .string s => .string s
  | .null => .null

def id? : Value → Option Id
  | .number n => n.toInt?.map .number
  | .string s => some (.string s)
  | .null => some .null
  | _ => none

/-- A message of the editor; an identity must be a number, a string or null. -/
def message? (v : Value) : Option Message := do
  let method ← match v.get? "method".toList with
    | some (.string s) => some s
    | _ => none
  match v.get? "id".toList with
  | none => return ⟨none, method, v.get? "params".toList⟩
  | some i => return ⟨some (← id? i), method, v.get? "params".toList⟩

/-- What came, as a message of this protocol. A text that is no JSON, and a value that is no
message, are answered with a fault, though there is nobody to name. -/
def read (t : Text) : Except Response Message :=
  match Value.parse t with
  | none => .error ⟨.null, .error .unreadable⟩
  | some v =>
    match v.get? "jsonrpc".toList, message? v with
    | some (.string version), some m =>
      if version == "2.0".toList then .ok m else .error ⟨.null, .error .invalidRequest⟩
    | _, _ => .error ⟨.null, .error .invalidRequest⟩

/-! ## Bodies -/

def protocolVersion : String × Value := ("jsonrpc", string "2.0")

def responseBody (r : Response) : Value :=
  match r.outcome with
  | .ok a => object [protocolVersion, ("result", ofAnswer a), ("id", ofId r.id)]
  | .error f => object [protocolVersion, ("error", ofFault f), ("id", ofId r.id)]

def noticeBody (n : Notice) : Value :=
  object [protocolVersion, ("method", string (noticeMethod n)), ("params", noticeParams n)]

end Wire

/-! ## Frames

A header with the length of the body in bytes, an empty line, and the body.
-/

namespace Frame

def lengthField : Text := "Content-Length:".toList

/-- The frame of a JSON value. -/
def write (v : Json.Value) : Text :=
  let body := v.print Json.Layout.compact
  lengthField ++ ' ' :: Nat.toDigits 10 (Text.bytes body) ++ "\r\n\r\n".toList ++ body

/-- What is written for an effect: the notices, then the answer. -/
def writeEffect (e : Effect) : Text :=
  e.sent.flatMap (fun n => write (Wire.noticeBody n)) ++
    e.response.toList.flatMap fun r => write (Wire.responseBody r)

/-! ### Reading -/

/-- The header before the first empty line, and what comes after it. -/
def splitHeader : List UInt8 → Option (List UInt8 × List UInt8)
  | [] => none
  | 13 :: 10 :: 13 :: 10 :: r => some ([], r)
  | b :: r => (splitHeader r).map fun p => (b :: p.1, p.2)

def decode (bytes : List UInt8) : Option Text := Text.ofBytes? (ByteArray.mk bytes.toArray)

/-- The length a header gives. -/
def bodyLength? (header : Text) : Option Nat := do
  let line ← (header.splitOn '\n').find? fun l => lengthField.isPrefixOf l
  let digits := Text.trim (line.drop lengthField.length)
  guard (!digits.isEmpty && digits.all Char.isDigit)
  return Nat.ofDigitChars 10 digits 0

/-- The body of the first frame, and the bytes after it. -/
def read (bytes : List UInt8) : Option (List UInt8 × List UInt8) := do
  let (header, rest) ← splitHeader bytes
  let n ← bodyLength? (← decode header)
  guard (n ≤ rest.length)
  return (rest.take n, rest.drop n)

/-- The message in a body; a body that is no text cannot be read either. -/
def message (body : List UInt8) : Except Response Message :=
  match decode body with
  | some t => Wire.read t
  | none => .error ⟨.null, .error .unreadable⟩

/-- The messages of an input, and the faults in place of those that cannot be read. -/
def messages : Nat → List UInt8 → List (Except Response Message)
  | 0, _ => []
  | fuel + 1, bytes =>
    match read bytes with
    | none => []
    | some (body, rest) => message body :: messages fuel rest

/-- All messages of an input; each frame takes some of its bytes. -/
def allMessages (bytes : List UInt8) : List (Except Response Message) := messages bytes.length bytes

end Frame

/-- Handle what came in a frame. -/
def receive (readUri : UriReader) (s : Session) : Except Response Message → Session × Effect
  | .ok m => s.step readUri m
  | .error r => (s, if s.phase == .exited then .quiet else ⟨some r, []⟩)

end ZLang.Session
