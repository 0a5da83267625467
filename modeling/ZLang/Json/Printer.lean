import ZLang.Json.Basic

/-!
Writing JSON. One printer serves every layout; a layout says only which blanks stand between the
tokens, so two layouts of a value differ in nothing else.
-/
set_option autoImplicit false

namespace ZLang.Json

/-- The blanks of a written value: what stands before an item at a depth, and after a colon. -/
structure Layout where
  lineBreak : Nat → Text
  afterColon : Text

namespace Layout

/-- No blanks at all. -/
def compact : Layout := ⟨fun _ => [], []⟩

/-- An item to a line, two spaces further in for each level. -/
def pretty : Layout := ⟨fun depth => '\n' :: List.replicate (2 * depth) ' ', [' ']⟩

end Layout

/-! ## Numbers and strings -/

namespace Number

def exponentText : Option Int → Text
  | none => []
  | some e => 'e' :: (if e < 0 then '-' else '+') :: Nat.toDigits 10 e.natAbs

def fractionText (ds : List Digit) : Text :=
  if ds.isEmpty then [] else '.' :: ds.map Digit.char

def text (n : Number) : Text :=
  (if n.negative then ['-'] else []) ++ Nat.toDigits 10 n.whole ++ fractionText n.fraction ++
    exponentText n.exponent

end Number

/-- A character inside a string: quotes, backslashes and control characters are escaped, and
everything else stands for itself. -/
def escape (c : Char) : Text :=
  if c == '"' then ['\\', '"']
  else if c == '\\' then ['\\', '\\']
  else if c == '\n' then ['\\', 'n']
  else if c == '\r' then ['\\', 'r']
  else if c == '\t' then ['\\', 't']
  else if c == '\x08' then ['\\', 'b']
  else if c == '\x0c' then ['\\', 'f']
  else if c.toNat < 0x20 then
    ['\\', 'u', '0', '0', Nat.digitChar (c.toNat / 16), Nat.digitChar (c.toNat % 16)]
  else [c]

def quote (s : Text) : Text := '"' :: (s.flatMap escape ++ ['"'])

/-! ## Values -/

namespace Value

mutual

/-- The text of a value whose closing bracket stands at `depth`. -/
def render (l : Layout) (depth : Nat) : Value → Text
  | null => "null".toList
  | bool b => if b then "true".toList else "false".toList
  | number n => n.text
  | string s => quote s
  | array [] => ['[', ']']
  | array (v :: r) =>
    '[' :: (l.lineBreak (depth + 1) ++ render l (depth + 1) v ++ renderItems l depth r ++
      l.lineBreak depth ++ [']'])
  | object [] => ['{', '}']
  | object ((k, v) :: r) =>
    '{' :: (l.lineBreak (depth + 1) ++ quote k ++ ':' :: l.afterColon ++ render l (depth + 1) v ++
      renderMembers l depth r ++ l.lineBreak depth ++ ['}'])

/-- The items after the first, each behind its comma. -/
def renderItems (l : Layout) (depth : Nat) : List Value → Text
  | [] => []
  | v :: r =>
    ',' :: (l.lineBreak (depth + 1) ++ render l (depth + 1) v ++ renderItems l depth r)

/-- The members after the first, each behind its comma. -/
def renderMembers (l : Layout) (depth : Nat) : List (Text × Value) → Text
  | [] => []
  | (k, v) :: r =>
    ',' :: (l.lineBreak (depth + 1) ++ quote k ++ ':' :: l.afterColon ++ render l (depth + 1) v ++
      renderMembers l depth r)

end

/-- The text of a value in a layout. -/
def print (l : Layout) (v : Value) : Text := render l 0 v

end Value

end ZLang.Json
