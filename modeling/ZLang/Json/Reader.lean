import ZLang.Json.Basic
import ZLang.Text.Basic

/-!
Reading JSON. Every reader takes the text and gives what it read together with the rest.
`Value.parse` accepts a text that is one value with blanks around it.
-/
set_option autoImplicit false

namespace ZLang.Json

/-! ## Blanks and strings -/

/-- The blanks that may stand between tokens. -/
def isSpace (c : Char) : Bool := c == ' ' || c == '\n' || c == '\r' || c == '\t'

def skipSpace (t : Text) : Text := t.dropWhile isSpace

/-- The number written by four hexadecimal digits, and the rest. -/
def readHex4 : Text → Option (Nat × Text)
  | a :: b :: c :: d :: r => do
    let a ← Text.hexDigit? a
    let b ← Text.hexDigit? b
    let c ← Text.hexDigit? c
    let d ← Text.hexDigit? d
    return (((a * 16 + b) * 16 + c) * 16 + d, r)
  | _ => none

def isHighSurrogate (n : Nat) : Bool := 0xD800 ≤ n && n < 0xDC00

def isLowSurrogate (n : Nat) : Bool := 0xDC00 ≤ n && n < 0xE000

/-- The unit behind a high surrogate, and the rest. -/
def readLowSurrogate : Text → Option (Nat × Text)
  | '\\' :: 'u' :: r => (readHex4 r).filter fun p => isLowSurrogate p.1
  | _ => none

/-- The character written by one unit, or by a pair of surrogates. -/
def readUnicode (t : Text) : Option (Char × Text) := do
  let (n, r) ← readHex4 t
  if isHighSurrogate n then
    let (m, r') ← readLowSurrogate r
    return (Char.ofNat (0x10000 + (n - 0xD800) * 0x400 + (m - 0xDC00)), r')
  else if isLowSurrogate n then none
  else return (Char.ofNat n, r)

/-- The character meant by a letter behind a backslash. -/
def unescape? (c : Char) : Option Char :=
  if c == '"' || c == '\\' || c == '/' then some c
  else if c == 'b' then some '\x08'
  else if c == 'f' then some '\x0c'
  else if c == 'n' then some '\n'
  else if c == 'r' then some '\r'
  else if c == 't' then some '\t'
  else none

/-- The character written behind a backslash. -/
def readEscape : Text → Option (Char × Text)
  | [] => none
  | c :: r => if c == 'u' then readUnicode r else (unescape? c).map fun x => (x, r)

/-- The first character of the inside of a string; no control character stands there. -/
def readChar (c : Char) (r : Text) : Option (Char × Text) :=
  if c == '\\' then readEscape r
  else if c.toNat < 0x20 then none
  else some (c, r)

/-- The inside of a string up to its closing quote. -/
def readString : Nat → Text → Option (Text × Text)
  | 0, _ => none
  | _ + 1, [] => none
  | fuel + 1, c :: r =>
    if c == '"' then some ([], r)
    else do
      let (x, r') ← readChar c r
      let (s, rest) ← readString fuel r'
      return (x :: s, rest)

/-! ## Numbers -/

/-- The digits at the front; `none` when there are none. -/
def readDigits (t : Text) : Option (Text × Text) :=
  let ds := t.takeWhile Char.isDigit
  if ds.isEmpty then none else some (ds, t.dropWhile Char.isDigit)

/-- The whole part: no zero stands in front of another digit. -/
def readWhole (t : Text) : Option (Nat × Text) := do
  let (ds, r) ← readDigits t
  if ds.head? == some '0' && ds.length != 1 then none
  else return (Nat.ofDigitChars 10 ds 0, r)

/-- The digits behind a point, if there is one. -/
def readFraction (t : Text) : Option (List Digit × Text) :=
  match t with
  | '.' :: r => (readDigits r).map fun p => (p.1.map Digit.ofChar, p.2)
  | _ => some ([], t)

/-- The sign of a power of ten. -/
def readSign : Text → Bool × Text
  | '-' :: r => (true, r)
  | '+' :: r => (false, r)
  | t => (false, t)

/-- The power of ten behind its mark, if there is one. -/
def readExponent (t : Text) : Option (Option Int × Text) :=
  match t with
  | [] => some (none, [])
  | c :: r =>
    if c == 'e' || c == 'E' then do
      let (negative, r') := readSign r
      let (ds, rest) ← readDigits r'
      let n := Nat.ofDigitChars 10 ds 0
      return (some (if negative then -(n : Int) else n), rest)
    else some (none, t)

def readUnsigned (negative : Bool) (t : Text) : Option (Number × Text) := do
  let (whole, r) ← readWhole t
  let (fraction, r') ← readFraction r
  let (exponent, rest) ← readExponent r'
  return (⟨negative, whole, fraction, exponent⟩, rest)

def readNumber (t : Text) : Option (Number × Text) :=
  match t with
  | '-' :: r => readUnsigned true r
  | _ => readUnsigned false t

/-! ## Values -/

/-- The rest behind a word at the front. -/
def readWord (word t : Text) : Option Text :=
  if word.isPrefixOf t then some (t.drop word.length) else none

/-- The rest behind a colon, with the blanks around it. -/
def readColon (t : Text) : Option Text :=
  match skipSpace t with
  | ':' :: r => some (skipSpace r)
  | _ => none

mutual

/-- A value at the very front of the text. -/
def readValue : Nat → Text → Option (Value × Text)
  | 0, _ => none
  | _ + 1, [] => none
  | fuel + 1, c :: r =>
    if c == '"' then (readString (r.length + 1) r).map fun p => (.string p.1, p.2)
    else if c == '[' then
      match skipSpace r with
      | ']' :: r' => some (.array [], r')
      | r' => (readItems fuel r').map fun p => (.array p.1, p.2)
    else if c == '{' then
      match skipSpace r with
      | '}' :: r' => some (.object [], r')
      | r' => (readMembers fuel r').map fun p => (.object p.1, p.2)
    else if c == 'n' then (readWord "null".toList (c :: r)).map fun r' => (.null, r')
    else if c == 't' then (readWord "true".toList (c :: r)).map fun r' => (.bool true, r')
    else if c == 'f' then (readWord "false".toList (c :: r)).map fun r' => (.bool false, r')
    else (readNumber (c :: r)).map fun p => (.number p.1, p.2)

/-- One item or more, and the closing bracket. -/
def readItems : Nat → Text → Option (List Value × Text)
  | 0, _ => none
  | fuel + 1, t => do
    let (v, r) ← readValue fuel t
    match skipSpace r with
    | ']' :: r' => return ([v], r')
    | ',' :: r' =>
      let (vs, rest) ← readItems fuel (skipSpace r')
      return (v :: vs, rest)
    | _ => none

/-- One member or more, and the closing brace. -/
def readMembers : Nat → Text → Option (List (Text × Value) × Text)
  | 0, _ => none
  | _ + 1, [] => none
  | fuel + 1, c :: r =>
    if c == '"' then do
      let (k, r') ← readString (r.length + 1) r
      let (v, r'') ← readValue fuel (← readColon r')
      match skipSpace r'' with
      | '}' :: rest => return ([(k, v)], rest)
      | ',' :: r₃ =>
        let (ms, rest) ← readMembers fuel (skipSpace r₃)
        return ((k, v) :: ms, rest)
      | _ => none
    else none

end

/-- The value a text consists of, blanks around it apart. A character is read by at most two calls,
so the fuel never runs out on a text that can be read. -/
def Value.parse (t : Text) : Option Value := do
  let (v, r) ← readValue (2 * t.length + 2) (skipSpace t)
  if (skipSpace r).isEmpty then return v else none

end ZLang.Json
