import ZLang.Text.Basic

/-!
Blanks, strings and keys of TOML. A reader gives what it read and the rest of the text, or `none` at
a fault.
-/
set_option autoImplicit false

namespace ZLang.Toml

/-! ## Blanks, line breaks and comments -/

def isSpace (c : Char) : Bool := c == ' ' || c == '\t'

def skipSpace (t : Text) : Text := t.dropWhile isSpace

/-- A control character other than the tab; none may stand in a comment or a string. -/
def isControl (c : Char) : Bool := (c.toNat < 0x20 && c != '\t') || c == '\x7f'

/-- The rest after a line break, which is a line feed, alone or behind a carriage return. -/
def newline? : Text → Option Text
  | '\n' :: r => some r
  | '\r' :: '\n' :: r => some r
  | _ => none

/-- Skip a comment up to the break that ends it. -/
def skipComment : Text → Option Text
  | [] => some []
  | c :: r =>
    if (newline? (c :: r)).isSome then some (c :: r)
    else if isControl c then none
    else skipComment r

/-- Skip blanks, breaks and comments; `comment` says whether the text starts inside a comment. -/
def skipBetween (comment : Bool) : Text → Option Text
  | [] => some []
  | '\r' :: '\n' :: r => skipBetween false r
  | c :: r =>
    if c == '\n' then skipBetween false r
    else if comment then (if isControl c then none else skipBetween true r)
    else if isSpace c then skipBetween false r
    else if c == '#' then skipBetween true r
    else some (c :: r)

/-- The rest after the end of a line, with nothing but blanks and a comment before it. -/
def endLine (t : Text) : Option Text :=
  match skipSpace t with
  | [] => some []
  | '#' :: r =>
    match skipComment r with
    | some [] => some []
    | some r' => newline? r'
    | none => none
  | r => newline? r

/-! ## Strings

On one line or on several, with escapes in double quotes and without them in single quotes. A reader
gives the text inside and the rest behind the closing quotes.
-/

/-- The character whose code is written by the first `n` digits of the text. -/
def readCode (n : Nat) (t : Text) : Option (Char × Text) := do
  let ds := t.take n
  guard (ds.length == n)
  let values ← ds.mapM Text.hexDigit?
  let code := values.foldl (fun m d => m * 16 + d) 0
  guard (code < 0xD800 || (0xE000 ≤ code && code < 0x110000))
  return (Char.ofNat code, t.drop n)

/-- The character written behind a backslash. -/
def readEscape : Text → Option (Char × Text)
  | 'b' :: r => some ('\x08', r)
  | 't' :: r => some ('\t', r)
  | 'n' :: r => some ('\n', r)
  | 'f' :: r => some ('\x0c', r)
  | 'r' :: r => some ('\r', r)
  | 'e' :: r => some ('\x1b', r)
  | '"' :: r => some ('"', r)
  | '\\' :: r => some ('\\', r)
  | 'x' :: r => readCode 2 r
  | 'u' :: r => readCode 4 r
  | 'U' :: r => readCode 8 r
  | _ => none

/-- The inside of a string on one line, up to its closing quote. A string in double quotes has
escapes. -/
def readQuoted (quote : Char) : Nat → Text → Option (Text × Text)
  | 0, _ => none
  | _ + 1, [] => none
  | fuel + 1, c :: r =>
    if c == quote then some ([], r)
    else if c == '\\' && quote == '"' then do
      let (x, r') ← readEscape r
      let (s, rest) ← readQuoted quote fuel r'
      return (x :: s, rest)
    else if isControl c then none
    else do
      let (s, rest) ← readQuoted quote fuel r
      return (c :: s, rest)

/-- Skip blanks and breaks. -/
def skipBlankLines : Text → Text
  | [] => []
  | '\r' :: '\n' :: r => skipBlankLines r
  | c :: r => if isSpace c || c == '\n' then skipBlankLines r else c :: r

/-- Skip a break that stands behind blanks, and all blanks and breaks after it. -/
def skipContinuation (t : Text) : Option Text := (newline? (skipSpace t)).map skipBlankLines

/-- The inside of a string in three quotes. Up to two quotes may stand before the closing three. In
double quotes a backslash at the end of a line joins the next word to it. -/
def readLong (quote : Char) : Nat → Text → Option (Text × Text)
  | 0, _ => none
  | _ + 1, [] => none
  | fuel + 1, c :: r =>
    if c == quote then
      let run := (c :: r).takeWhile (· == quote)
      if 3 ≤ run.length then
        let inside := min (run.length - 3) 2
        some (List.replicate inside quote, (c :: r).drop (inside + 3))
      else do
        let (s, rest) ← readLong quote fuel ((c :: r).drop run.length)
        return (run ++ s, rest)
    else if c == '\\' && quote == '"' then
      match skipContinuation r with
      | some r' => readLong quote fuel r'
      | none => do
        let (x, r') ← readEscape r
        let (s, rest) ← readLong quote fuel r'
        return (x :: s, rest)
    else
      match newline? (c :: r) with
      | some r' => do
        let (s, rest) ← readLong quote fuel r'
        return ('\n' :: s, rest)
      | none =>
        if isControl c then none
        else do
          let (s, rest) ← readLong quote fuel r
          return (c :: s, rest)

/-- A string of any of the four kinds. A break right behind three opening quotes does not count. -/
def readString : Text → Option (Text × Text)
  | [] => none
  | q :: r =>
    if q == '"' || q == '\x27' then
      if [q, q].isPrefixOf r then
        let inside := r.drop 2
        let inside := (newline? inside).getD inside
        readLong q (inside.length + 1) inside
      else readQuoted q (r.length + 1) r
    else none

/-! ## Keys

Bare or quoted, and the dotted keys made of them.
-/

def isBareKeyChar (c : Char) : Bool := c.isAlphanum || c == '_' || c == '-'

/-- One part of a key: a bare word, or a string on one line. -/
def readKey : Text → Option (Text × Text)
  | [] => none
  | q :: r =>
    if q == '"' || q == '\x27' then readQuoted q (r.length + 1) r
    else
      match (q :: r).takeWhile isBareKeyChar with
      | [] => none
      | k => some (k, (q :: r).dropWhile isBareKeyChar)

/-- The most parts a dotted key may have. -/
def longestPath : Nat := 80

/-- The parts of a dotted key, at most `most` of them, with the blanks behind it skipped. -/
def readParts : Nat → Text → Option (List Text × Text)
  | 0, _ => none
  | most + 1, t => do
    let (key, r) ← readKey t
    match skipSpace r with
    | '.' :: r' =>
      let (path, rest) ← readParts most (skipSpace r')
      return (key :: path, rest)
    | r' => return ([key], r')

/-- A dotted key. -/
def readPath (t : Text) : Option (List Text × Text) := readParts longestPath t

end ZLang.Toml
