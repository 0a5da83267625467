import ZLang.Settings.Basic
import ZLang.Toml.Document

/-!
Settings files. A file is a TOML document with one section `report` of up to four entries; anything
else in it makes it invalid. The section may also list the four values in order, as an array.
-/
set_option autoImplicit false

namespace ZLang.Settings.File

open ZLang.Toml (Value FloatLiteral Entries)

/-! ## Numbers -/

/-- The float nearest to a decimal; `none` when it is beyond all floats. -/
def decimalFloat? (digits : Nat) (exponent : Int) : Option Float :=
  let leading := (Nat.toDigits 10 digits).length + exponent
  if digits == 0 || leading < -330 then some 0.0
  else if 310 < leading then none
  else
    let x := Float.ofScientific digits (exponent < 0) exponent.natAbs
    if x.isInf then none else some x

def infinity : Float := 1.0 / 0.0

def realFloat? : FloatLiteral → Option Float
  | .finite negative digits exponent =>
    (decimalFloat? digits exponent).map fun x => if negative then -x else x
  | .infinite negative => some (if negative then -infinity else infinity)
  | .notANumber => some (0.0 / 0.0)

/-- Integers of up to 64 bits, signed or not, can stand for floats. -/
def integerFloat? (i : Int) : Option Float :=
  if -0x8000000000000000 ≤ i && i < 0x10000000000000000 then
    some (if i < 0 then -Report.Geometry.ofNat i.natAbs else Report.Geometry.ofNat i.natAbs)
  else none

/-! ## Entries -/

def float? : Value → Option Float
  | .integer i => i.bind integerFloat?
  | .float r => realFloat? r
  | _ => none

def bool? : Value → Option Bool
  | .boolean b => some b
  | _ => none

/-- A value that holds nothing. -/
def isVoid : Value → Bool
  | .array items => items.isEmpty
  | .series tables => tables.isEmpty
  | .table _ entries => entries.isEmpty
  | _ => false

/-- The name of a format, as a string or as the one key of a table, with nothing behind it. -/
def format? : Value → Option Report.Format
  | .string s => Report.Format.ofName? s
  | .table _ [(name, v)] => if isVoid v then Report.Format.ofName? name else none
  | _ => none

/-- Set one entry of the section by its name. -/
def set (f : File) (name : Text) (v : Value) : Option File :=
  if name == "format".toList then (format? v).map fun x => { f with format := some x }
  else if name == "pretty".toList then (bool? v).map fun x => { f with pretty := some x }
  else if name == "line_height".toList then (float? v).map fun x => { f with lineHeight := some x }
  else if name == "vertical_offset".toList then
    (float? v).map fun x => { f with verticalOffset := some x }
  else none

def ofEntries (es : Entries) : Option File := es.foldlM (fun f e => set f e.1 e.2) empty

/-- The four values in order; what stands behind them is not looked at. -/
def ofItems : List Value → Option File
  | format :: pretty :: height :: offset :: _ => do
    return ⟨← format? format, ← bool? pretty, ← float? height, ← float? offset⟩
  | _ => none

def ofSection : Value → Option File
  | .table _ es => ofEntries es
  | .array items => ofItems items
  | _ => none

/-- The contents of a settings file; `none` when it is no TOML or holds anything but settings. -/
def parse (t : Text) : Option File := do
  match ← Toml.parse t with
  | [] => return empty
  | [(name, v)] => if name == "report".toList then ofSection v else none
  | _ => none

end ZLang.Settings.File
