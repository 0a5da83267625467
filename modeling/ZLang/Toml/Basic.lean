import ZLang.Text.Basic

/-!
TOML values and tables. A table remembers how it came about, because that decides what may still be
added to it: a table written in braces is closed, one made by a dotted key grows by dotted keys, and
one opened by a header is opened once. `assign` and `within` are the two ways to grow a table.
-/
set_option autoImplicit false

namespace ZLang.Toml

/-- How a table came about: written in braces, named on the way to another header, opened by its own
header, or made by a dotted key. -/
inductive Origin where
  | braces
  | implied
  | header
  | dotted
  deriving DecidableEq, Repr

/-- A number with a point, a power of ten or a name. -/
inductive FloatLiteral where
  | finite (negative : Bool) (digits : Nat) (exponent : Int)
  | infinite (negative : Bool)
  | notANumber
  deriving DecidableEq, Repr

inductive Value where
  | string (s : Text)
  /-- A whole number; it has no value when its base is named and no digit follows. -/
  | integer (i : Option Int)
  | float (r : FloatLiteral)
  | boolean (b : Bool)
  /-- A date, a time of day, or both. -/
  | moment (t : Text)
  | array (items : List Value)
  /-- The tables opened one after the other by headers in double brackets. -/
  | series (tables : List (List (Text × Value)))
  | table (origin : Origin) (entries : List (Text × Value))
  deriving Repr

/-- The entries of a table, in the order in which they were made. -/
abbrev Entries := List (Text × Value)

namespace Entries

def get? (es : Entries) (key : Text) : Option Value :=
  (es.find? fun e => e.1 == key).map Prod.snd

/-- A new entry; `none` when the key is taken. -/
def add (es : Entries) (key : Text) (v : Value) : Option Entries :=
  if (es.get? key).isSome then none else some (es ++ [(key, v)])

/-- Another value for a key that is there. -/
def replace (es : Entries) (key : Text) (v : Value) : Entries :=
  es.map fun e => if e.1 == key then (key, v) else e

/-- Give the value at a dotted key. The tables on the way are made, or were made by dotted keys. -/
def assign (v : Value) : List Text → Entries → Option Entries
  | [], _ => none
  | [key], es => es.add key v
  | key :: next :: path, es =>
    match es.get? key with
    | none => (assign v (next :: path) []).bind fun inner => es.add key (.table .dotted inner)
    | some (.table .dotted inner) =>
      (assign v (next :: path) inner).map fun inner' => es.replace key (.table .dotted inner')
    | some _ => none

/-- Change the table at a path of headers. Tables on the way are implied when they are missing, and
of a series the last one is meant. -/
def within (change : Entries → Option Entries) : List Text → Entries → Option Entries
  | [], es => change es
  | key :: path, es =>
    match es.get? key with
    | none => (within change path []).bind fun inner => es.add key (.table .implied inner)
    | some (.table .braces _) => none
    | some (.table origin inner) =>
      (within change path inner).map fun inner' => es.replace key (.table origin inner')
    | some (.series tables) =>
      match tables.reverse with
      | [] => none
      | last :: before =>
        (within change path last).map fun last' =>
          es.replace key (.series (before.reverse ++ [last']))
    | some _ => none

/-- Open the table of a header. -/
def openTable (key : Text) (es : Entries) : Option Entries :=
  match es.get? key with
  | none => es.add key (.table .header [])
  | some (.table .implied inner) => some (es.replace key (.table .header inner))
  | some _ => none

/-- Open the next table of a series. -/
def openNext (key : Text) (es : Entries) : Option Entries :=
  match es.get? key with
  | none => es.add key (.series [[]])
  | some (.series tables) => some (es.replace key (.series (tables ++ [[]])))
  | some _ => none

end Entries

end ZLang.Toml
