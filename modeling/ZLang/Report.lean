import ZLang.Analysis
import ZLang.Json.OfFloat
import ZLang.Json.Printer

/-!
Reports of diagnostics, as a table or as JSON, with a summary: how many diagnostics there are, and
the sentences that say so.
-/
set_option autoImplicit false

namespace ZLang.Report

/-! ## Formats -/

inductive Format where
  | table
  | json
  deriving DecidableEq, Repr

namespace Format

def name : Format → Text
  | table => "table".toList
  | json => "json".toList

/-- The format of a name, spelled exactly. -/
def ofName? (t : Text) : Option Format :=
  if t == table.name then some table
  else if t == json.name then some json
  else none

end Format

/-! ## Geometry

The place of a line on a page: lines of one height below an offset from the top.
-/

structure Geometry where
  lineHeight : Float
  verticalOffset : Float

namespace Geometry

/-- Lines 24 high, the first of them 10 below the top. -/
def standard : Geometry := ⟨24.0, 10.0⟩

/-- A natural number as the nearest float. -/
def ofNat (n : Nat) : Float := Float.ofScientific n false 0

/-- The top of a line. The product is rounded before the sum. A line without a number, as line 0,
stands where the first one does. -/
def offset (g : Geometry) (line : Nat) : Float := ofNat (line - 1) * g.lineHeight + g.verticalOffset

end Geometry

/-! ## Summary -/

inductive Verdict where
  | success
  | failure
  deriving DecidableEq, Repr

namespace Verdict

def name : Verdict → Text
  | success => "success".toList
  | failure => "failure".toList

def title : Verdict → Text
  | success => "SYNTAX SUCCESSFULLY ANALYZED!".toList
  | failure => "SYNTAX ERROR DETECTED!".toList

def message : Verdict → Text
  | success => "No syntax errors found in the code.".toList
  | failure => "There is an error in the code.".toList

/-- A text without diagnostics passes. -/
def ofDiagnostics (ds : List Diagnostic) : Verdict := if ds.isEmpty then success else failure

end Verdict

/-- The count in words. -/
def countLine : Nat → Text
  | 0 => "No errors found".toList
  | 1 => "1 error found".toList
  | n => Nat.toDigits 10 n ++ " errors found".toList

/-! ## The table

Two columns, with a line of summary below them. The first column is as wide as its widest cell.
-/

namespace Table

def lineHeading : Text := "Line".toList

def descriptionHeading : Text := "Description".toList

/-- The first cell of a row. -/
def lineCell (d : Diagnostic) : Text := "Line ".toList ++ Nat.toDigits 10 d.line

def width (ds : List Diagnostic) : Nat :=
  (ds.map fun d => (lineCell d).length).foldl max lineHeading.length

def pad (w : Nat) (cell : Text) : Text := cell ++ List.replicate (w - cell.length) ' '

def row (w : Nat) (left right : Text) : Text := pad w left ++ " | ".toList ++ right

def rule (w : Nat) : Text :=
  List.replicate w '-' ++ "-+-".toList ++ List.replicate descriptionHeading.length '-'

/-- One row for each diagnostic, or a sentence when there are none. -/
def body (w : Nat) (ds : List Diagnostic) : List Text :=
  if ds.isEmpty then ["No syntax errors detected".toList]
  else ds.map fun d => row w (lineCell d) d.description

def footer (ds : List Diagnostic) : Text :=
  let v := Verdict.ofDiagnostics ds
  v.title ++ ' ' :: v.message ++ " (".toList ++ countLine ds.length ++ [')']

def lines (ds : List Diagnostic) : List Text :=
  row (width ds) lineHeading descriptionHeading :: rule (width ds) ::
    (body (width ds) ds ++ [[], footer ds])

def render (ds : List Diagnostic) : Text := Text.ended (lines ds)

end Table

/-! ## JSON

The diagnostics, each with the place of its line, and the summary.
-/

open ZLang.Json (Value Layout)

def entry (g : Geometry) (d : Diagnostic) : Value :=
  .object [("line".toList, .ofNat d.line), ("rule".toList, .string d.rule.code),
    ("description".toList, .string d.description),
    ("highlight_offset".toList, .ofFloat (g.offset d.line))]

def summary (ds : List Diagnostic) : Value :=
  let v := Verdict.ofDiagnostics ds
  .object [("error_count".toList, .ofNat ds.length), ("outcome".toList, .string v.name),
    ("title".toList, .string v.title), ("message".toList, .string v.message)]

def value (g : Geometry) (ds : List Diagnostic) : Value :=
  .object [("diagnostics".toList, .array (ds.map (entry g))), ("summary".toList, summary ds)]

/-- The text of the report; `pretty` sets it on lines. -/
def json (pretty : Bool) (g : Geometry) (ds : List Diagnostic) : Text :=
  (value g ds).print (if pretty then Layout.pretty else Layout.compact)

end ZLang.Report
