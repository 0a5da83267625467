import ZLang.Analysis
import ZLang.Text.Alphanumeric

/-!
Documents open in an editor, and the words in them. A cursor is a line, counted from 0, and a column
in it; the word at the cursor is the run of word characters around it. Markers are diagnostics
placed in a document.
-/
set_option autoImplicit false

namespace ZLang

structure Document where
  content : Text
  version : Int
  deriving DecidableEq, Repr

/-- A place in a document, both parts counted from 0. -/
structure Position where
  line : Nat
  character : Nat
  deriving DecidableEq, Repr

namespace Text

/-- A line of a text, counted from 0. -/
def line? (t : Text) (i : Nat) : Option Text := (t.splitOn '\n')[i]?

/-- The run of word characters at the end of a text. -/
def trailingWord (t : Text) : Text := (t.reverse.takeWhile isWordChar).reverse

/-- The run of word characters at the front of a text. -/
def leadingWord (t : Text) : Text := t.takeWhile isWordChar

/-- The word around a column of a line. -/
def wordAround (line : Text) (column : Nat) : Text :=
  trailingWord (takeUnits column line) ++ leadingWord (dropUnits column line)

/-- The word at a position; a cursor with no word character on either side has none. -/
def wordAt? (t : Text) (p : Position) : Option Text :=
  (t.line? p.line).bind fun line =>
    let w := wordAround line p.character
    if w.isEmpty then none else some w

/-- The part of a word before a position; nothing on a line that is not there. -/
def typedAt (t : Text) (p : Position) : Text :=
  match t.line? p.line with
  | none => []
  | some line => trailingWord (takeUnits p.character line)

end Text

/-! ## Markers

A marker spans its line without the carriage returns at the end. Editors hold line and column in 32
bits, and so do markers.
-/

structure Marker where
  line : Nat
  /-- The column at which the marker ends; it starts at column 0. -/
  stop : Nat
  rule : Rule
  message : Text
  deriving DecidableEq, Repr

namespace Marker

/-- The range of the numbers an editor holds. -/
def bound : Nat := 0x100000000

/-- A line without the carriage returns at its end. -/
def withoutReturns (line : Text) : Text := (line.reverse.dropWhile (· == '\r')).reverse

/-- The width of a line of a document; a line that is not there has none. -/
def width (document : Text) (i : Nat) : Nat :=
  match document.line? i with
  | none => 0
  | some line => Text.units (withoutReturns line)

/-- A diagnostic of the part of a document that starts `offset` lines down. -/
def ofDiagnostic (document : Text) (offset : Nat) (d : Diagnostic) : Marker :=
  let i := d.line - 1 + offset
  ⟨i % bound, width document i % bound, d.rule, d.description⟩

/-- The markers of a document. What is analysed is its trimmed part. -/
def ofDocument (document : Text) : List Marker :=
  match Submission.accept document with
  | .error _ => []
  | .ok code => (analyze code).map (ofDiagnostic document (Submission.leadingLines document))

end Marker

end ZLang
