import ZLang.Vocabulary

/-!
The analysis of a text. Only the line feed ends a line, so a text has one line more than it has line
feeds, and the lines are numbered from 1. A line is blank, a comment or a statement, and the checks
look at statements only. Each line is judged alone: the diagnostics of a text are those of its
lines, in order.
-/
set_option autoImplicit false

namespace ZLang

/-! ## Lines -/

structure Line where
  number : Nat
  content : Text
  deriving DecidableEq, Repr

namespace Line

inductive Kind where
  | blank
  | comment
  | statement
  deriving DecidableEq, Repr

/-- What opens a comment line. -/
def commentMark : Text := "//".toList

def trimmed (l : Line) : Text := Text.trim l.content

def kind (l : Line) : Kind :=
  if l.trimmed.isEmpty then .blank
  else if commentMark.isPrefixOf l.trimmed then .comment
  else .statement

def isEligible (l : Line) : Bool := l.kind == .statement

/-- Number the pieces of a text from 1. -/
def numbered (pieces : List Text) : List Line :=
  (pieces.zipIdx 1).map fun p => ⟨p.2, p.1⟩

/-- The lines of a text, in order. -/
def ofText (t : Text) : List Line := numbered (t.splitOn '\n')

def eligible (t : Text) : List Line := (ofText t).filter isEligible

end Line

/-! ## Rules

The six rules a statement can break, in the order in which breaches are listed.
-/

inductive Rule where
  | missingSemicolon
  | invalidKeyword
  | missingVariableName
  | unmatchedParentheses
  | unmatchedBraces
  | invalidAssignment
  deriving DecidableEq, Repr

namespace Rule

def all : List Rule :=
  [missingSemicolon, invalidKeyword, missingVariableName, unmatchedParentheses, unmatchedBraces,
    invalidAssignment]

/-- The code by which reports and editors know a rule. -/
def code : Rule → Text
  | missingSemicolon => "missing-semicolon".toList
  | invalidKeyword => "invalid-keyword".toList
  | missingVariableName => "missing-variable-name".toList
  | unmatchedParentheses => "unmatched-parentheses".toList
  | unmatchedBraces => "unmatched-braces".toList
  | invalidAssignment => "invalid-assignment".toList

def ofCode? (t : Text) : Option Rule := all.find? fun r => r.code == t

/-- The sentence shown to the user. -/
def description : Rule → Text
  | missingSemicolon => "Missing semicolon at end of statement".toList
  | invalidKeyword => "Invalid keyword - use LETT (uppercase)".toList
  | missingVariableName => "Missing variable name after LETT".toList
  | unmatchedParentheses => "Unmatched parentheses".toList
  | unmatchedBraces => "Unmatched braces".toList
  | invalidAssignment => "Invalid assignment syntax".toList

/-- The name written in trace records. -/
def traceName : Rule → Text
  | missingSemicolon => "MissingSemicolon".toList
  | invalidKeyword => "InvalidKeyword".toList
  | missingVariableName => "MissingVariableName".toList
  | unmatchedParentheses => "UnmatchedParentheses".toList
  | unmatchedBraces => "UnmatchedBraces".toList
  | invalidAssignment => "InvalidAssignment".toList

end Rule

/-! ## Checks

The five checks of a statement. A check sees the statement twice, trimmed and as it stands, and
lists the rules it finds broken. The terminator and the declaration are judged on the trimmed text,
brackets and assignments on the whole line. `Check.run` joins the five answers in order.
-/

/-- From the trimmed and the whole statement to the rules it breaks. -/
abbrev Check := Text → Text → List Rule

namespace Check

/-- The spellings that are taken for a declaration. -/
def declarationSpellings : List Text := ["LETT".toList, "Lett".toList]

/-- `r`, when the condition holds. -/
def flag (broken : Bool) (r : Rule) : List Rule := if broken then [r] else []

def isTerminator (c : Char) : Bool := c == ';' || c == '{' || c == '}'

/-- A statement ends with a semicolon or a brace. -/
def terminator : Check := fun trimmed _ =>
  flag (!trimmed.getLast?.any isTerminator) .missingSemicolon

def looksLikeDeclaration (t : Text) : Bool :=
  declarationSpellings.any fun s => s.isPrefixOf t

/-- A declaration starts with the word `LETT` and goes on with a name. -/
def declaration : Check := fun trimmed _ =>
  if looksLikeDeclaration trimmed then
    flag ((Text.words trimmed)[0]? != some Vocabulary.declarationKeyword) .invalidKeyword ++
      flag ((Text.words trimmed)[1]?.isNone) .missingVariableName
  else []

/-- Opening and closing brackets are equally many; their order does not matter. -/
def isBalanced (opening closing : Char) (t : Text) : Bool := t.count opening == t.count closing

def parentheses : Check := fun _ raw => flag (!isBalanced '(' ')' raw) .unmatchedParentheses

def braces : Check := fun _ raw => flag (!isBalanced '{' '}' raw) .unmatchedBraces

/-- Two equals signs stand side by side. -/
def hasComparison : Text → Bool
  | [] => false
  | c :: r => (c == '=' && r.head? == some '=') || hasComparison r

/-- What stands left of the first equals sign. -/
def assignmentTarget (t : Text) : Text := t.takeWhile (· != '=')

/-- An assignment has one or two words left of its equals sign; a line that compares is not held to
be an assignment. -/
def assignment : Check := fun _ raw =>
  if hasComparison raw || !raw.contains '=' then []
  else
    let target := Text.trim (assignmentTarget raw)
    flag (target.isEmpty || 2 < (Text.words target).length) .invalidAssignment

def all : List Check := [terminator, declaration, parentheses, braces, assignment]

def run : Check := fun trimmed raw => all.flatMap fun check => check trimmed raw

end Check

/-! ## Diagnostics -/

structure Diagnostic where
  line : Nat
  rule : Rule
  description : Text
  deriving DecidableEq, Repr

namespace Diagnostic

def ofRule (line : Nat) (r : Rule) : Diagnostic := ⟨line, r, r.description⟩

/-- The same complaint, `n` lines further down. -/
def shift (n : Nat) (d : Diagnostic) : Diagnostic := { d with line := d.line + n }

end Diagnostic

namespace Line

/-- The rules a line breaks; blank lines and comments break none. -/
def brokenRules (l : Line) : List Rule :=
  if l.isEligible then Check.run l.trimmed l.content else []

def diagnostics (l : Line) : List Diagnostic := l.brokenRules.map (Diagnostic.ofRule l.number)

end Line

/-- The diagnostics of a text, line by line. -/
def analyze (t : Text) : List Diagnostic := (Line.ofText t).flatMap Line.diagnostics

/-! ## Submissions

A text of blanks only is refused; of any other text the trimmed part is analysed, and `leadingLines`
says how many lines the trimming cut off in front.
-/

namespace Submission

/-- Why a text is not analysed. -/
inductive Refusal where
  | noCode
  deriving DecidableEq, Repr

def Refusal.message : Refusal → Text
  | noCode => "NO CODE ENTERED: Please enter Z-LANG code to analyze.".toList

/-- The part of a text that is analysed. -/
def accept (t : Text) : Except Refusal Text :=
  if (Text.trim t).isEmpty then .error .noCode else .ok (Text.trim t)

/-- The bytes before the first character that is not blank. -/
def leadingBytes (t : Text) : Nat := Text.bytes t - Text.bytes (Text.trimStart t)

/-- The number of line feeds before the first character that is not blank. -/
def leadingLines (t : Text) : Nat := ((Text.slice? t 0 (leadingBytes t)).getD []).count '\n'

end Submission

end ZLang
