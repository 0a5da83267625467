import ZLang.Text.Basic

/-!
Faults of written patterns, and how they are shown: the pattern, marks below the places at fault,
and what is wrong there.
-/
set_option autoImplicit false

namespace ZLang.Pattern

/-- A part of a written pattern, from one character up to another. -/
structure Span where
  start : Nat
  stop : Nat
  deriving DecidableEq, Repr

inductive Complaint where
  | classEscape
  | classRangeOrder
  | classRangeBound
  | classUnclosed
  | decimalInvalid
  | hexEmpty
  | hexInvalid
  | hexDigit
  | escapeUnfinished
  | escapeUnknown
  | flagDangling
  | flagTwice
  | flagNegatedTwice
  | flagUnfinished
  | flagUnknown
  | nameTwice
  | nameEmpty
  | nameInvalid
  | nameUnfinished
  | groupUnclosed
  | groupUnopened
  | countOrder
  | countEmpty
  | countUnclosed
  | nothingToRepeat
  | boundaryUnclosed
  | boundaryUnknown
  | boundaryUnfinished
  | propertyInvalid
  | backreference
  | lookAround
  | tooDeep
  | unicodeNotAllowed
  | invalidUtf8
  | propertyUnknown
  | classUnknown
  | caseUnknown
  deriving DecidableEq, Repr

def Complaint.message : Complaint → String
  | classEscape => "invalid escape sequence found in character class"
  | classRangeOrder => "invalid character class range, the start must be <= the end"
  | classRangeBound => "invalid range boundary, must be a literal"
  | classUnclosed => "unclosed character class"
  | decimalInvalid => "decimal literal invalid"
  | hexEmpty => "hexadecimal literal empty"
  | hexInvalid => "hexadecimal literal is not a Unicode scalar value"
  | hexDigit => "invalid hexadecimal digit"
  | escapeUnfinished => "incomplete escape sequence, reached end of pattern prematurely"
  | escapeUnknown => "unrecognized escape sequence"
  | flagDangling => "dangling flag negation operator"
  | flagTwice => "duplicate flag"
  | flagNegatedTwice => "flag negation operator repeated"
  | flagUnfinished => "expected flag but got end of regex"
  | flagUnknown => "unrecognized flag"
  | nameTwice => "duplicate capture group name"
  | nameEmpty => "empty capture group name"
  | nameInvalid => "invalid capture group character"
  | nameUnfinished => "unclosed capture group name"
  | groupUnclosed => "unclosed group"
  | groupUnopened => "unopened group"
  | countOrder => "invalid repetition count range, the start must be <= the end"
  | countEmpty => "repetition quantifier expects a valid decimal"
  | countUnclosed => "unclosed counted repetition"
  | nothingToRepeat => "repetition operator missing expression"
  | boundaryUnclosed =>
    "special word boundary assertion is either unclosed or contains an invalid character"
  | boundaryUnknown =>
    "unrecognized special word boundary assertion, valid choices are: start, end, start-half " ++
      "or end-half"
  | boundaryUnfinished =>
    "found either the beginning of a special word boundary or a bounded repetition on a \\b " ++
      "with an opening brace, but no closing brace"
  | propertyInvalid => "invalid Unicode character class"
  | backreference => "backreferences are not supported"
  | lookAround => "look-around, including look-ahead and look-behind, is not supported"
  | tooDeep => "exceeded the maximum number of nested parentheses/brackets (250)"
  | unicodeNotAllowed => "Unicode not allowed here"
  | invalidUtf8 => "pattern can match invalid UTF-8"
  | propertyUnknown => "Unicode property not found"
  | classUnknown =>
    "Unicode-aware Perl class not found (make sure the unicode-perl feature is enabled)"
  | caseUnknown =>
    "Unicode-aware case insensitivity matching is not available (make sure the unicode-case " ++
      "feature is enabled)"

structure Fault where
  complaint : Complaint
  span : Span
  /-- An earlier part that is at odds with the part at fault. -/
  earlier : Option Span
  deriving DecidableEq, Repr

namespace Fault

/-- The line and the column of the character with an index, all counted from 0. -/
def lineColumn : Nat → Text → Nat × Nat
  | 0, _ => (0, 0)
  | n + 1, [] => (0, n + 1)
  | n + 1, c :: r =>
    match lineColumn n r with
    | (line, column) =>
      if c == '\n' then (line + 1, column)
      else if line == 0 then (0, column + 1)
      else (line, column)

/-- A span by the lines and columns of its ends. -/
structure Stretch where
  start : Nat × Nat
  stop : Nat × Nat

namespace Stretch

def isOneLine (s : Stretch) : Bool := s.start.1 == s.stop.1

/-- Where a span of several lines is, counted from 1. -/
def place (s : Stretch) : Text :=
  "on line ".toList ++ (Nat.repr (s.start.1 + 1)).toList ++
    " (column ".toList ++ (Nat.repr (s.start.2 + 1)).toList ++
    ") through line ".toList ++ (Nat.repr (s.stop.1 + 1)).toList ++
    " (column ".toList ++ (Nat.repr s.stop.2).toList ++ ")\n".toList

end Stretch

/-- The spans at fault, in order. -/
def stretches (f : Fault) (written : Text) : List Stretch :=
  (f.earlier.toList ++ [f.span]).map fun s =>
    ⟨lineColumn s.start written, lineColumn s.stop written⟩

/-- Marks below the columns of spans of one line; `column` is where they start. -/
def marks (column : Nat) : List Stretch → Text
  | [] => []
  | s :: rest =>
    let width := max 1 (s.stop.2 - s.start.2)
    List.replicate (s.start.2 - column) ' ' ++ List.replicate width '^' ++
      marks (max column s.start.2 + width) rest

/-- The lines of a pattern; an empty line at its end does not count. -/
def writtenLines (written : Text) : List Text :=
  match (written.splitOn '\n').reverse with
  | [] => []
  | last :: ended =>
    (ended.map fun l => if l.getLast? == some '\r' then l.dropLast else l).reverse ++
      if last.isEmpty then [] else [last]

/-- Lines with the marks below them; `margin` stands before each line. -/
def markedLines (margin : Nat → Text) (spans : List Stretch) : Nat → List Text → Text
  | _, [] => []
  | i, line :: rest =>
    let here := spans.filter fun s => s.isOneLine && s.start.1 == i
    let below :=
      if here.isEmpty then []
      else List.replicate (margin i).length ' ' ++ marks 0 here ++ ['\n']
    margin i ++ line ++ '\n' :: below ++ markedLines margin spans (i + 1) rest

/-- The number of a line, counted from 1, as wide as `width`. -/
def numberMargin (width i : Nat) : Text :=
  let n := (Nat.repr (i + 1)).toList
  List.replicate (width - n.length) ' ' ++ n ++ ": ".toList

def divider : Text := List.replicate 79 '~' ++ ['\n']

/-- What is said about a pattern that has the fault. The lines of a pattern that has several are
counted. -/
def message (f : Fault) (written : Text) : Text :=
  let spans := f.stretches written
  let count := (written.splitOn '\n').length
  let shown :=
    if count == 1 then markedLines (fun _ => "    ".toList) spans 0 (writtenLines written)
    else
      divider ++
        markedLines (numberMargin (Nat.repr count).length) spans 0 (writtenLines written) ++
        divider ++ (spans.filter fun s => !s.isOneLine).flatMap Stretch.place
  "regex parse error:\n".toList ++ shown ++ "error: ".toList ++ f.complaint.message.toList

end Fault

end ZLang.Pattern
