import ZLang.Text.Basic

/-!
URIs. Editors spell the URI of one document in several ways, and documents are told apart by the
normal spelling. A session takes the reader of URIs as a parameter; `Uri.parse` is the one that the
server runs with, which follows the URL Standard. A URI is a scheme and a body, of which an
authority may be the first part, then perhaps a query and a fragment.

A few things differ from the standard. Of hosts only the case is changed: numeric addresses and
names outside ASCII stay as they are written. A circumflex in a path stays, too. The path of a file
starts with one slash, however many are written, and a drive at its front takes the place of the
host.
-/
set_option autoImplicit false

namespace ZLang.Session

/-- A URI in its normal spelling. -/
structure Uri where
  text : Text
  deriving DecidableEq, Repr

/-- A way to read URIs; `none` when a text is no URI. -/
abbrev UriReader := Text → Option Uri

namespace Uri

/-! ## Characters -/

/-- Control characters and those outside ASCII. -/
def isControl (c : Char) : Bool := c.toNat < 0x20 || 0x7F ≤ c.toNat

/-- One of some characters, or a control character. -/
def isAmong (others : String) (c : Char) : Bool := isControl c || others.toList.contains c

def percent (b : UInt8) : Text :=
  ['%', (Nat.digitChar (b.toNat / 16)).toUpper, (Nat.digitChar (b.toNat % 16)).toUpper]

/-- Write the bytes of some characters as numbers. -/
def encode (isEncoded : Char → Bool) (t : Text) : Text :=
  t.flatMap fun c => if isEncoded c then (String.utf8EncodeChar c).flatMap percent else [c]

def encodeFragment (t : Text) : Text := encode (isAmong " \"<>`") t

def encodePath (t : Text) : Text := encode (isAmong " \"#<>?`\x7b\x7d") t

def encodeUser (t : Text) : Text := encode (isAmong " \"#<>?^`\x7b\x7d/:;=@[\\]|") t

/-- What stands before a character, and what comes after it. -/
def cut (mark : Char) : Text → Text × Option Text
  | [] => ([], none)
  | c :: r =>
    if c == mark then ([], some r)
    else
      let (before, after) := cut mark r
      (c :: before, after)

/-- A text without blanks and control characters around it, and without tabs and line ends. -/
def tidy (t : Text) : Text :=
  let isOuter := fun c : Char => c.toNat ≤ 0x20
  let inner := ((t.dropWhile isOuter).reverse.dropWhile isOuter).reverse
  inner.filter fun c => c != '\t' && c != '\n' && c != '\r'

/-! ## Schemes -/

inductive Kind where
  | file
  /-- A scheme of the web, with the port that goes without saying. -/
  | web (port : Nat)
  | other
  deriving DecidableEq, Repr

namespace Kind

def ofScheme (scheme : Text) : Kind :=
  match String.ofList scheme with
  | "file" => file
  | "http" | "ws" => web 80
  | "https" | "wss" => web 443
  | "ftp" => web 21
  | _ => other

/-- Backslashes count as slashes except under other schemes. -/
def isSlash (k : Kind) (c : Char) : Bool := c == '/' || (k != other && c == '\\')

end Kind

def isSchemeChar (c : Char) : Bool := c.isAlphanum || ['+', '-', '.'].contains c

/-- The scheme, in lower case, and what comes after its colon. -/
def scheme? (t : Text) : Option (Text × Text) :=
  match cut ':' t with
  | (name, some rest) =>
    if name.head?.any Char.isAlpha && name.all isSchemeChar then some (name.map Char.toLower, rest)
    else none
  | (_, none) => none

/-! ## Authorities -/

/-- The name and the password before a host. -/
def user (t : Text) : Text :=
  let (name, password) := cut ':' t
  let secret := password.getD []
  if name.isEmpty && secret.isEmpty then []
  else encodeUser name ++ (if secret.isEmpty then [] else ':' :: encodeUser secret) ++ ['@']

/-- Split off a port, which comes after a colon outside brackets. -/
def cutPort (isInside : Bool) : Text → Text × Option Text
  | [] => ([], none)
  | c :: r =>
    if c == ':' && !isInside then ([], some r)
    else
      let (host, port) := cutPort (c == '[' || (isInside && c != ']')) r
      (c :: host, port)

/-- Characters that no host has. -/
def isForbidden (c : Char) : Bool := c.toNat == 0 || " #/:<>?@[\\]^|".toList.contains c

def host? (k : Kind) (t : Text) : Option Text :=
  if t.head? == some '[' then
    if t.getLast? == some ']' then some (t.map Char.toLower) else none
  else if t.any isForbidden then none
  else if k == .other then some (encode isControl t)
  else if t.any fun c => c.toNat < 0x20 || c.toNat == 0x7F then none
  else some (t.map Char.toLower)

/-- A port as it is written; the one that goes without saying is left out. -/
def port? (k : Kind) (digits : Text) : Option Text :=
  let n := Nat.ofDigitChars 10 digits 0
  if !digits.all Char.isDigit || 0xFFFF < n then none
  else if digits.isEmpty || k == .web n then some []
  else some (':' :: Nat.toDigits 10 n)

/-- A user, a host and a port. The user ends at the last at sign, and needs a host. -/
def authority? (k : Kind) (t : Text) : Option Text := do
  let (back, front) := cut '@' t.reverse
  let (host, port) := cutPort false back.reverse
  guard (!host.isEmpty || (k == .other && front.isNone && port.isNone))
  return user (front.getD []).reverse ++ (← host? k host) ++ (← port? k (port.getD []))

/-! ## Paths -/

def isDot (s : Text) : Bool := [".", "%2e"].any fun d => d.toList == s.map Char.toLower

def isDoubleDot (s : Text) : Bool :=
  ["..", ".%2e", "%2e.", "%2e%2e"].any fun d => d.toList == s.map Char.toLower

/-- A letter for a drive, with a colon or a bar behind it. -/
def isDrive : Text → Bool
  | [letter, mark] => letter.isAlpha && [':', '|'].contains mark
  | _ => false

/-- Go one segment up. The drive of a file stays; segments are listed from the last on. -/
def shorten (k : Kind) : List Text → List Text
  | [] => []
  | [s] => if k == .file && isDrive s then [s] else []
  | _ :: above => above

/-- Carry out the dots of a path after the segments `above`, which are listed from the last on. -/
def segments (k : Kind) (above : List Text) : List Text → List Text
  | [] => above.reverse
  | s :: rest =>
    let close := fun l : List Text => if rest.isEmpty then [] :: l else l
    if isDoubleDot s then segments k (close (shorten k above)) rest
    else if isDot s then segments k (close above) rest
    else if k == .file && above.isEmpty && isDrive s then segments k [s.take 1 ++ [':']] rest
    else segments k (encodePath s :: above) rest

/-- A path in its normal form; a slash at its start may be left out. -/
def path (k : Kind) (t : Text) : Text :=
  let inner := if t.head?.any k.isSlash then t.drop 1 else t
  (segments k [] (inner.splitOnP k.isSlash)).flatMap ('/' :: ·)

/-! ## Bodies -/

/-- What comes after two slashes. -/
def withAuthority? (k : Kind) (t : Text) : Option Text := do
  let front := t.takeWhile fun c => !k.isSlash c
  let back := t.drop front.length
  return "//".toList ++ (← authority? k front) ++
    if k == .other && back.isEmpty then [] else path k back

/-- The path of a file, which starts with one slash. -/
def filePath (t : Text) : Text := '/' :: (path .file t).dropWhile (· == '/')

/-- The host of a file, before its path. This computer is not named, nor the host of a drive. -/
def fileHost? (front back : Text) : Option Text := do
  let host ← if front.isEmpty then some [] else host? .file front
  let first := ((filePath back).drop 1).takeWhile (· != '/')
  let isDropped := host == "localhost".toList || isDrive first
  return if isDropped then [] else host

def fileBody? (t : Text) : Option Text :=
  match t.splitAt 2 with
  | ([a, b], rest) =>
    let front := rest.takeWhile fun c => !Kind.file.isSlash c
    let back := rest.drop front.length
    if !(Kind.file.isSlash a && Kind.file.isSlash b) then some ("//".toList ++ filePath t)
    else if isDrive front then some ("//".toList ++ filePath rest)
    else (fileHost? front back).map fun host => "//".toList ++ host ++ filePath back
  | _ => some ("//".toList ++ filePath t)

/-- A path with an empty first segment is kept apart from an authority. -/
def otherBody? : Text → Option Text
  | '/' :: '/' :: rest => withAuthority? .other rest
  | '/' :: rest =>
    let p := path .other rest
    some (if "//".toList.isPrefixOf p then "/.".toList ++ p else p)
  | t => some (encode isControl t)

def body? : Kind → Text → Option Text
  | .file, t => fileBody? t
  | .web port, t => withAuthority? (.web port) (t.dropWhile (Kind.web port).isSlash)
  | .other, t => otherBody? t

/-- Read a URI. -/
def parse : UriReader := fun t => do
  let (scheme, rest) ← scheme? (tidy t)
  let k := Kind.ofScheme scheme
  let (rest, fragment) := cut '#' rest
  let (front, query) := cut '?' rest
  let isEncoded := isAmong (if k == .other then " \"#<>" else " \"#<>'")
  return ⟨scheme ++ ':' :: (← body? k front) ++
    (query.elim [] fun q => '?' :: encode isEncoded q) ++
    fragment.elim [] fun f => '#' :: encodeFragment f⟩

end Uri

end ZLang.Session
