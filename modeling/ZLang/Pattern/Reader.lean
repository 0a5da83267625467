import ZLang.Pattern.Tree
import ZLang.Text.Alphanumeric
import ZLang.Text.Basic

/-!
Reading written patterns. `readTree` gives the tree of a pattern, or its first fault.
-/
set_option autoImplicit false

namespace ZLang.Pattern

/-- Where the reading stands: how many characters are read, what is left, whether blanks and
comments are skipped, and the names of groups so far. -/
structure Cursor where
  pos : Nat
  rest : Text
  spaced : Bool
  names : List (Text × Span)

abbrev Reader := StateT Cursor (Except Fault)

namespace Reader

/-! ## Characters -/

def fail {α : Type} (complaint : Complaint) (span : Span) : Reader α :=
  throw ⟨complaint, span, none⟩

def failTwice {α : Type} (complaint : Complaint) (span earlier : Span) : Reader α :=
  throw ⟨complaint, span, some earlier⟩

def here : Reader Nat := return (← get).pos

def peek : Reader (Option Char) := return (← get).rest.head?

def atEnd : Reader Bool := return (← peek).isNone

/-- The span from a place up to here. -/
def spanFrom (start : Nat) : Reader Span := return ⟨start, ← here⟩

/-- The empty span here. -/
def point : Reader Span := return ⟨← here, ← here⟩

/-- The span of the character here. -/
def spanHere : Reader Span := return ⟨← here, (← here) + 1⟩

/-- Go on by `n` characters. -/
def skip (n : Nat) : Reader Unit :=
  modify fun s => { s with pos := s.pos + min n s.rest.length, rest := s.rest.drop n }

/-- How many characters the blanks and comments in front of a text have. -/
def blankLength (comment : Bool) : Text → Nat
  | [] => 0
  | c :: r =>
    if comment then blankLength (c != '\n') r + 1
    else if Text.isWhiteSpace c then blankLength false r + 1
    else if c == '#' then blankLength true r + 1
    else 0

/-- Skip blanks and comments, where they mean nothing. -/
def skipBlank : Reader Unit := do
  let s ← get
  if s.spaced then skip (blankLength false s.rest)

/-- Go on by a character and the blanks behind it; whether anything is left. -/
def advance : Reader Bool := do
  skip 1
  skipBlank
  return !(← atEnd)

/-- Go on over a text, if it is here. -/
def accept (t : String) : Reader Bool := do
  if t.toList.isPrefixOf (← get).rest then
    skip t.toList.length
    return true
  else return false

/-- The character after the one here. -/
def peekNext : Reader (Option Char) := return ((← get).rest.drop 1).head?

/-- The character after the one here and the blanks behind it. -/
def peekFurther : Reader (Option Char) := do
  let s ← get
  let r := s.rest.drop 1
  return if s.spaced then (r.drop (blankLength false r)).head? else r.head?

/-- Read characters of a kind, and the blanks between them. -/
def readWhile (kind : Char → Bool) : Nat → Reader Text
  | 0 => return []
  | fuel + 1 => do
    match ← peek with
    | some c =>
      if kind c then
        let _ ← advance
        return c :: (← readWhile kind fuel)
      else return []
    | none => return []

def left : Reader Nat := return (← get).rest.length

/-! ## Escapes -/

def isMeta (c : Char) : Bool := "\\.+*?()|[]\x7b\x7d^$#&-~".toList.contains c

/-- A character that may have a backslash in front of it, whether it needs one or not. -/
def isEscapable (c : Char) : Bool :=
  isMeta c || (c.toNat < 0x80 && !c.isAlphanum && c != '<' && c != '>')

/-- The character of a code, if it has one. -/
def charOf? (digits : Text) : Option Char := do
  let values ← digits.mapM Text.hexDigit?
  let n := values.foldl (fun m d => m * 16 + d) 0
  guard (n < 0xD800 || (0xE000 ≤ n && n < 0x110000))
  return Char.ofNat n

def isHex (c : Char) : Bool := (Text.hexDigit? c).isSome

/-- So many digits of a code. -/
def readDigits : Nat → Reader Text
  | 0 => return []
  | n + 1 => do
    match ← peek with
    | none => fail .escapeUnfinished (← point)
    | some c =>
      if isHex c then
        let _ ← advance
        return c :: (← readDigits n)
      else fail .hexDigit (← spanHere)

/-- A code in braces, or of a fixed number of digits. -/
def readHex (start digits : Nat) : Reader Symbol := do
  unless ← advance do fail .escapeUnfinished (← point)
  if (← peek) == some '\x7b' then
    let brace ← here
    let _ ← advance
    let ds ← readWhile isHex (← left)
    match ← peek with
    | none => fail .escapeUnfinished (← spanFrom brace)
    | some c =>
      unless c == '\x7d' do fail .hexDigit (← spanHere)
      let inner ← spanFrom (brace + 1)
      let _ ← advance
      if ds.isEmpty then fail .hexEmpty (← spanFrom brace)
      match charOf? ds with
      | some x => return ⟨← spanFrom start, x, false⟩
      | none => fail .hexInvalid inner
  else
    let first ← here
    let ds ← readDigits digits
    match charOf? ds with
    | some x => return ⟨← spanFrom start, x, digits == 2⟩
    | none => fail .hexInvalid (← spanFrom first)

/-- A property of characters, by a letter or by a name in braces. -/
def readProperty (start : Nat) : Reader Span := do
  unless ← advance do fail .escapeUnfinished (← point)
  match ← peek with
  | some '\x7b' =>
    let _ ← advance
    let _ ← readWhile (· != '\x7d') (← left)
    if ← atEnd then fail .escapeUnfinished (← point)
    skip 1
    spanFrom start
  | some '\\' => fail .propertyInvalid (← spanHere)
  | _ =>
    let _ ← advance
    spanFrom start

def isBoundaryChar (c : Char) : Bool := c.isAlpha || c == '-'

/-- A word boundary of a special kind, in braces; what else is in braces counts repetitions. -/
def readBoundary (start : Nat) : Reader Edge := do
  let s ← get
  if s.rest.head? != some '\x7b' then return .wordBoundary
  unless ← advance do fail .boundaryUnfinished (← spanFrom start)
  if !(← peek).any isBoundaryChar then
    set s
    return .wordBoundary
  let first ← here
  let name ← readWhile isBoundaryChar (← left)
  unless (← peek) == some '\x7d' do fail .boundaryUnclosed (← spanFrom s.pos)
  let inner ← spanFrom first
  skip 1
  if name == "start".toList then return .wordStart
  else if name == "end".toList then return .wordEnd
  else if name == "start-half".toList then return .wordStartHalf
  else if name == "end-half".toList then return .wordEndHalf
  else fail .boundaryUnknown inner

/-- A single character, an edge or a class. -/
inductive Primitive where
  | symbol (s : Symbol)
  | dot (span : Span)
  | edge (span : Span) (e : Edge)
  | letter (span : Span) (c : LetterClass) (negated : Bool)
  | property (span : Span)

namespace Primitive

def tree : Primitive → Tree
  | symbol s => .symbol s
  | dot span => .dot span
  | edge span e => .edge span e
  | letter span c negated => .letter span c negated
  | property span => .property span

def span : Primitive → Span
  | symbol s => s.span
  | dot span => span
  | edge span _ => span
  | letter span _ _ => span
  | property span => span

/-- As an item of a class. -/
def item : Primitive → Reader ClassTree
  | symbol s => return .symbol s
  | letter span c negated => return .letter span c negated
  | property span => return .property span
  | dot span => fail .classEscape span
  | edge span _ => fail .classEscape span

/-- As an end of a range. -/
def bound : Primitive → Reader Symbol
  | symbol s => return s
  | p => fail .classRangeBound p.span

end Primitive

def letterClass? : Char → Option (LetterClass × Bool)
  | 'd' => some (.digit, false)
  | 'D' => some (.digit, true)
  | 's' => some (.space, false)
  | 'S' => some (.space, true)
  | 'w' => some (.word, false)
  | 'W' => some (.word, true)
  | _ => none

/-- The characters with a letter of their own. -/
def controlChar? : Char → Option Char
  | 'a' => some '\x07'
  | 'f' => some '\x0c'
  | 't' => some '\t'
  | 'n' => some '\n'
  | 'r' => some '\r'
  | 'v' => some '\x0b'
  | _ => none

def edge? : Char → Option Edge
  | 'A' => some .textStart
  | 'z' => some .textEnd
  | 'B' => some .notWordBoundary
  | '<' => some .wordStart
  | '>' => some .wordEnd
  | _ => none

/-- How many digits a code has, by the letter in front of it. -/
def codeDigits? : Char → Option Nat
  | 'x' => some 2
  | 'u' => some 4
  | 'U' => some 8
  | _ => none

/-- What a backslash makes of the character behind it, which is read already. -/
def readOneLetter (start : Nat) (c : Char) : Reader Primitive := do
  let span ← spanFrom start
  if isEscapable c then return .symbol ⟨span, c, false⟩
  else if c == 'b' then
    let e ← readBoundary start
    return .edge (← spanFrom start) e
  else
    match controlChar? c, edge? c with
    | some x, _ => return .symbol ⟨span, x, false⟩
    | none, some e => return .edge span e
    | none, none => fail .escapeUnknown span

def readEscape : Reader Primitive := do
  let start ← here
  skip 1
  match ← peek with
  | none => fail .escapeUnfinished (← spanFrom start)
  | some c =>
    if c.isDigit then fail .backreference ⟨start, (← here) + 1⟩
    match codeDigits? c, letterClass? c with
    | some digits, _ => return .symbol (← readHex start digits)
    | none, some (k, negated) =>
      skip 1
      return .letter (← spanFrom start) k negated
    | none, none =>
      if c == 'p' || c == 'P' then return .property (← readProperty start)
      else
        skip 1
        readOneLetter start c

/-- A character that is no operator. -/
def readPrimitive (c : Char) : Reader Primitive := do
  let span ← spanHere
  if c == '\\' then readEscape
  else
    skip 1
    if c == '.' then return .dot span
    else if c == '^' then return .edge span .lineStart
    else if c == '$' then return .edge span .lineEnd
    else return .symbol ⟨span, c, false⟩

/-! ## Classes -/

/-- The name of a class in brackets and colons; `none` when it is not one, and nothing is read. -/
def readNamed : Reader (Option ClassTree) := do
  let s ← get
  let start := s.pos
  if !(← accept "[:") then return none
  let negated ← accept "^"
  let name := (← get).rest.takeWhile (· != ':')
  skip name.length
  if ← accept ":]" then
    match NamedClass.names.find? fun e => e.1.toList == name with
    | some e => return some (.named (← spanFrom start) e.2 negated)
    | none =>
      set s
      return none
  else
    set s
    return none

/-- The character here as an item or an end of a range. -/
def readClassChar : Reader Primitive := do
  match ← peek with
  | some '\\' => readEscape
  | some c =>
    let span ← spanHere
    skip 1
    return .symbol ⟨span, c, false⟩
  | none => fail .classUnclosed (← point)

/-- An item of a class, or a range. -/
def readClassRange (opened : Span) : Reader ClassTree := do
  let first ← readClassChar
  skipBlank
  if ← atEnd then fail .classUnclosed opened
  let next ← peekFurther
  if (← peek) != some '-' || next == some ']' || next == some '-' then first.item
  else
    unless ← advance do fail .classUnclosed opened
    let last ← readClassChar
    let span := ⟨first.span.start, last.span.stop⟩
    let a ← first.bound
    let b ← last.bound
    if b.char.toNat < a.char.toNat then fail .classRangeOrder span
    return .range a b

/-- Dashes at the start of a class are characters. -/
def readDashes (start : Nat) : Nat → Reader (List ClassTree)
  | 0 => return []
  | fuel + 1 => do
    if (← peek) == some '-' then
      let span ← spanHere
      unless ← advance do fail .classUnclosed ⟨start, start⟩
      return .symbol ⟨span, '-', false⟩ :: (← readDashes start fuel)
    else return []

/-- The start of a class: whether it is negated, its first items, and its span so far. -/
def readClassStart : Reader (Bool × List ClassTree × Span) := do
  let start ← here
  unless ← advance do fail .classUnclosed (← spanFrom start)
  let negated := (← peek) == some '^'
  if negated then
    unless ← advance do fail .classUnclosed (← spanFrom start)
  let dashes ← readDashes start (← left)
  if dashes.isEmpty && (← peek) == some ']' then
    let span ← spanHere
    unless ← advance do fail .classUnclosed (← spanFrom start)
    return (negated, [.symbol ⟨span, ']', false⟩], ← spanFrom start)
  else return (negated, dashes, ← spanFrom start)

/-- The operator here, if two of its characters stand together. -/
def setOperator? : Reader (Option SetOperator) := do
  match ← peek, ← peekNext with
  | some '&', some '&' => return some .intersection
  | some '-', some '-' => return some .difference
  | some '~', some '~' => return some .symmetricDifference
  | _, _ => return none

/-- A class so far: the operation before the last items, and these items, backwards. -/
structure OpenClass where
  before : Option (SetOperator × ClassTree)
  items : List ClassTree

/-- The last items as one; `here` is where they end if there are none. -/
def OpenClass.last (c : OpenClass) (here : Span) : ClassTree :=
  match c.items.reverse with
  | [] => .empty here
  | [item] => item
  | first :: rest =>
    .union ⟨first.span.start, (c.items.head?.getD first).span.stop⟩ (first :: rest)

def OpenClass.close (c : OpenClass) (here : Span) : ClassTree :=
  match c.before with
  | none => c.last here
  | some (o, a) => .operation o a (c.last here)

mutual

/-- A class, from its opening bracket on. -/
def readClass : Nat → Reader ClassTree
  | 0 => do fail .classUnclosed (← point)
  | fuel + 1 => do
    let start ← here
    let (negated, items, opened) ← readClassStart
    let inner ← readClassRest fuel opened ⟨none, items.reverse⟩
    return .brackets (← spanFrom start) negated inner

/-- The rest of a class, up to its closing bracket. -/
def readClassRest : Nat → Span → OpenClass → Reader ClassTree
  | 0, opened, _ => fail .classUnclosed opened
  | fuel + 1, opened, c => do
    skipBlank
    match ← peek with
    | none => fail .classUnclosed opened
    | some ']' =>
      let inner := c.close (← point)
      skip 1
      return inner
    | some '[' =>
      match ← readNamed with
      | some item => readClassRest fuel opened { c with items := item :: c.items }
      | none =>
        let item ← readClass fuel
        readClassRest fuel opened { c with items := item :: c.items }
    | some _ =>
      match ← setOperator? with
      | some o =>
        let a := c.close (← point)
        skip 2
        readClassRest fuel opened ⟨some (o, a), []⟩
      | none =>
        let item ← readClassRange opened
        readClassRest fuel opened { c with items := item :: c.items }

end

/-! ## Groups -/

/-- The flags of a group, up to the colon or the bracket behind them. `seen` has the flags before
and their spans, backwards, and `minus` the span of the sign that unsets flags. -/
def readFlags : Nat → List (Flag × Bool × Span) → Option Span → Reader FlagChanges
  | 0, _, _ => do fail .flagUnfinished (← point)
  | fuel + 1, seen, minus => do
    match ← peek with
    | none => fail .flagUnfinished (← point)
    | some c =>
      let span ← spanHere
      if c == ':' || c == ')' then
        match minus with
        | some m => if m.stop == span.start then fail .flagDangling m
        | none => pure ()
        return seen.reverse.map fun e => (e.1, e.2.1)
      else if c == '-' then
        match minus with
        | some m => failTwice .flagNegatedTwice span m
        | none =>
          skip 1
          readFlags fuel seen (some span)
      else
        match Flag.ofChar? c with
        | none => fail .flagUnknown span
        | some f =>
          match seen.find? fun e => e.1 == f with
          | some e => failTwice .flagTwice span e.2.2
          | none =>
            skip 1
            readFlags fuel ((f, minus.isNone, span) :: seen) minus

def isNameChar (first : Bool) (c : Char) : Bool :=
  c == '_' || (Text.isAlphanumeric c && !(first && c.isDigit)) ||
    (!first && (c == '.' || c == '[' || c == ']'))

/-- The name of a group, up to the bracket behind it. -/
def readName : Reader Unit := do
  if ← atEnd then fail .nameUnfinished (← point)
  let s ← get
  let first := s.rest.head?.toList.takeWhile (isNameChar true)
  let name := first ++ (if first.isEmpty then [] else (s.rest.drop 1).takeWhile (isNameChar false))
  skip name.length
  match ← peek with
  | none => fail .nameUnfinished (← point)
  | some '>' =>
    let span ← spanFrom s.pos
    skip 1
    if name.isEmpty then fail .nameEmpty ⟨s.pos, s.pos⟩
    match s.names.find? fun e => e.1 == name with
    | some e => failTwice .nameTwice span e.2
    | none => modify fun s => { s with names := (name, span) :: s.names }
  | some _ => fail .nameInvalid (← spanHere)

/-- What a bracket opens: a setting of flags, or a group with flags of its own. -/
inductive Opening where
  | setting (changes : FlagChanges)
  | group (changes : FlagChanges)

/-- The opening of a group, behind its bracket. -/
def readOpening (opened : Span) : Reader Opening := do
  skip 1
  skipBlank
  let inner ← point
  for look in ["?=", "?!", "?<=", "?<!"] do
    if ← accept look then fail .lookAround (← spanFrom opened.start)
  if (← accept "?P<") || (← accept "?<") then
    readName
    return .group []
  else if ← accept "?" then
    if ← atEnd then fail .groupUnclosed opened
    let changes ← readFlags ((← left) + 1) [] none
    let isSetting := (← peek) == some ')'
    skip 1
    if isSetting then
      if changes.isEmpty then fail .nothingToRepeat inner
      return .setting changes
    else return .group changes
  else return .group []

/-! ## Repetitions -/

/-- A mark behind a repetition says that it is as short as it can be. -/
def skipLazyMark : Reader Unit := do
  if (← peek) == some '?' then skip 1

def skipWhiteSpace : Reader Unit := do
  let n := ((← get).rest.takeWhile Text.isWhiteSpace).length
  skip n

def largestCount : Nat := 0xFFFFFFFF

/-- A count, or what is wrong with it. -/
def readCount : Reader (Except Fault Nat) := do
  skipWhiteSpace
  let start ← here
  let digits ← readWhile Char.isDigit (← left)
  let span ← spanFrom start
  skipWhiteSpace
  let n := Nat.ofDigitChars 10 digits 0
  if digits.isEmpty then return .error ⟨.countEmpty, span, none⟩
  else if largestCount < n then return .error ⟨.decimalInvalid, span, none⟩
  else return .ok n

/-- The counts of a repetition in braces: the least number, and how many more there may be. -/
def readCounts : Reader (Nat × Option Nat) := do
  let start ← here
  unless ← advance do fail .countUnclosed (← spanFrom start)
  let least ← readCount
  if ← atEnd then fail .countUnclosed (← spanFrom start)
  let mut counts : Nat × Option Nat := (0, none)
  if (← peek) == some ',' then
    unless ← advance do fail .countUnclosed (← spanFrom start)
    if (← peek) == some '\x7d' then counts := (← liftM least, none)
    else
      let n ← liftM least
      let m ← liftM (← readCount)
      counts := (n, some m)
  else
    let n ← liftM least
    counts := (n, some n)
  unless (← peek) == some '\x7d' do fail .countUnclosed (← spanFrom start)
  let _ ← advance
  skipLazyMark
  match counts with
  | (n, some m) =>
    if m < n then fail .countOrder (← spanFrom start)
    return (n, some (m - n))
  | (n, none) => return (n, none)

/-! ## Everything -/

/-- What is read of a group, or of the whole pattern. Branches and items are backwards. -/
structure OpenGroup where
  /-- The bracket that opens the group. -/
  opened : Option Span
  /-- Where the first branch starts. -/
  start : Nat
  /-- The branches before this one. -/
  done : List Tree
  /-- Where this branch starts. -/
  branchStart : Nat
  /-- What this branch has so far. -/
  items : List Tree

namespace OpenGroup

def push (g : OpenGroup) (t : Tree) : OpenGroup := { g with items := t :: g.items }

/-- This branch, which ends at `stop`. -/
def branch (g : OpenGroup) (stop : Nat) : Tree :=
  match g.items.reverse with
  | [] => .empty ⟨g.branchStart, stop⟩
  | [t] => t
  | ts => .both ⟨g.branchStart, stop⟩ ts

/-- Start a branch behind the one that ends at `stop`. -/
def nextBranch (g : OpenGroup) (stop : Nat) : OpenGroup :=
  { g with done := g.branch stop :: g.done, branchStart := stop + 1, items := [] }

def close (g : OpenGroup) (stop : Nat) : Tree :=
  if g.done.isEmpty then g.branch stop
  else .either ⟨g.start, stop⟩ (g.branch stop :: g.done).reverse

end OpenGroup

/-- Repeat the last item, unless it only sets flags. -/
def repeatLast (g : OpenGroup) (counts : Reader (Nat × Option Nat)) : Reader OpenGroup := do
  match g.items with
  | [] => fail .nothingToRepeat (← point)
  | .flags _ _ :: _ => fail .nothingToRepeat (← point)
  | t :: rest =>
    let (least, more) ← counts
    return { g with items := .repeated (← spanFrom t.span.start) t least more :: rest }

/-- A repetition of one character, with counts of its own. -/
def mark (least : Nat) (more : Option Nat) : Reader (Nat × Option Nat) := do
  skip 1
  skipLazyMark
  return (least, more)

/-- Read up to the end of a group, or of the pattern. -/
def readGroup : Nat → OpenGroup → Reader Tree
  | 0, _ => do fail .groupUnclosed (← point)
  | fuel + 1, g => do
    skipBlank
    match ← peek with
    | none =>
      match g.opened with
      | some span => fail .groupUnclosed span
      | none => return g.close (← here)
    | some ')' =>
      match g.opened with
      | none => fail .groupUnopened (← spanHere)
      | some _ =>
        let t := g.close (← here)
        skip 1
        return t
    | some '(' =>
      let span ← spanHere
      match ← readOpening span with
      | .setting changes =>
        modify fun s => { s with spaced := (changes.get? .spaced).getD s.spaced }
        readGroup fuel (g.push (.flags (← spanFrom span.start) changes))
      | .group changes =>
        let outer := (← get).spaced
        modify fun s => { s with spaced := (changes.get? .spaced).getD outer }
        let start ← here
        let t ← readGroup fuel ⟨some span, start, [], start, []⟩
        modify fun s => { s with spaced := outer }
        readGroup fuel (g.push (.group (← spanFrom span.start) changes t))
    | some '|' =>
      let stop ← here
      skip 1
      readGroup fuel (g.nextBranch stop)
    | some '[' => readGroup fuel (g.push (.brackets (← readClass ((← left) + 1))))
    | some '?' => readGroup fuel (← repeatLast g (mark 0 (some 1)))
    | some '*' => readGroup fuel (← repeatLast g (mark 0 none))
    | some '+' => readGroup fuel (← repeatLast g (mark 1 none))
    | some '\x7b' => readGroup fuel (← repeatLast g readCounts)
    | some c => readGroup fuel (g.push (← readPrimitive c).tree)

end Reader

/-- The tree of a written pattern. -/
def readTree (t : Text) : Except Fault Tree := do
  let tree ← (Reader.readGroup (t.length + 1) ⟨none, 0, [], 0, []⟩).run' ⟨0, t, false, []⟩
  match tree.beyond? deepest with
  | some span => throw ⟨.tooDeep, span, none⟩
  | none => return tree

end ZLang.Pattern
