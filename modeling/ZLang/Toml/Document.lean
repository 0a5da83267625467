import ZLang.Toml.Key
import ZLang.Toml.Literal

/-!
Values and documents of TOML. A document is a sequence of lines, each of which opens a table or
gives a value to a key of the table opened last. `parse` gives the entries of the whole document.
-/
set_option autoImplicit false

namespace ZLang.Toml

/-! ## Values -/

def readLiteral (t : Text) : Option (Value × Text) :=
  (literal? (literalText t)).map fun v => (v, t.drop (literalText t).length)

/-- A dotted key with the equals sign behind it, on one line. -/
def readAssignment (t : Text) : Option (List Text × Text) := do
  match ← readPath t with
  | (path, '=' :: r) => return (path, skipSpace r)
  | _ => none

/-- A dotted key with the equals sign behind it, among breaks and comments. -/
def readEntry (t : Text) : Option (List Text × Text) := do
  let (path, r) ← readPath t
  match ← skipBetween false r with
  | '=' :: r' => return (path, ← skipBetween false r')
  | _ => none

mutual

/-- A value; `depth` says how many more arrays and tables may be opened inside each other. -/
def readValue : Nat → Nat → Text → Option (Value × Text)
  | 0, _, _ => none
  | fuel + 1, depth, t =>
    match t, depth with
    | '[' :: _, 0 => none
    | '{' :: _, 0 => none
    | '[' :: r, inner + 1 => (readItems fuel inner r).map fun p => (.array p.1, p.2)
    | '{' :: r, inner + 1 => (readBraces fuel inner [] r).map fun p => (.table .braces p.1, p.2)
    | '"' :: _, _ => (readString t).map fun p => (.string p.1, p.2)
    | '\x27' :: _, _ => (readString t).map fun p => (.string p.1, p.2)
    | _, _ => readLiteral t

/-- The items of an array up to its closing bracket; a comma may stand behind the last. -/
def readItems : Nat → Nat → Text → Option (List Value × Text)
  | 0, _, _ => none
  | fuel + 1, depth, t => do
    match ← skipBetween false t with
    | ']' :: r => return ([], r)
    | t' =>
      let (v, r) ← readValue fuel depth t'
      match ← skipBetween false r with
      | ']' :: r' => return ([v], r')
      | ',' :: r' =>
        let (vs, rest) ← readItems fuel depth r'
        return (v :: vs, rest)
      | _ => none

/-- The entries of a table in braces, added to those read before; a comma may stand behind the last
one. -/
def readBraces : Nat → Nat → Entries → Text → Option (Entries × Text)
  | 0, _, _, _ => none
  | fuel + 1, depth, es, t => do
    match ← skipBetween false t with
    | '}' :: r => return (es, r)
    | t' =>
      let (path, r) ← readEntry t'
      let (v, r') ← readValue fuel depth r
      let es' ← es.assign v path
      match ← skipBetween false r' with
      | '}' :: rest => return (es', rest)
      | ',' :: rest => readBraces fuel depth es' rest
      | _ => none

end

/-- How many arrays and tables may be opened inside each other. -/
def deepest : Nat := 80

/-! ## Documents -/

/-- A line that says something: it opens a table, opens the next table of a series, or gives a
value. -/
inductive Statement where
  | header (path : List Text)
  | seriesHeader (path : List Text)
  | assignment (path : List Text) (v : Value)

/-- The dotted key of a header, with blanks around it. -/
def readHeader (t : Text) : Option (List Text × Text) := readPath (skipSpace t)

/-- A statement and the rest of its line. -/
def readStatement (t : Text) : Option (Statement × Text) := do
  match t with
  | '[' :: '[' :: r =>
    match ← readHeader r with
    | (path, ']' :: ']' :: rest) => return (.seriesHeader path, rest)
    | _ => none
  | '[' :: r =>
    match ← readHeader r with
    | (path, ']' :: rest) => return (.header path, rest)
    | _ => none
  | _ =>
    let (path, r) ← readAssignment t
    let (v, rest) ← readValue (2 * t.length + 2) deepest r
    return (.assignment path v, rest)

/-- The statements of a document, one to a line. -/
def readStatements : Nat → Text → Option (List Statement)
  | 0, _ => none
  | fuel + 1, t => do
    match ← skipBetween false t with
    | [] => return []
    | t' =>
      let (s, r) ← readStatement t'
      let rest ← endLine r
      return s :: (← readStatements fuel rest)

/-- Open a table at the end of a path. -/
def openAt (change : Text → Entries → Option Entries) (path : List Text) (root : Entries) :
    Option Entries := do
  let key ← path.getLast?
  root.within (change key) path.dropLast

/-- Carry out statements; `current` is the path of the table opened last. -/
def build : List Statement → List Text → Entries → Option Entries
  | [], _, root => some root
  | .header path :: rest, _, root => (openAt Entries.openTable path root).bind (build rest path)
  | .seriesHeader path :: rest, _, root =>
    (openAt Entries.openNext path root).bind (build rest path)
  | .assignment path v :: rest, current, root =>
    (root.within (fun es => es.assign v path) current).bind (build rest current)

/-- The entries of a document. A byte order mark in front does not count. -/
def parse (t : Text) : Option Entries := do
  let t := if t.head? == some '\ufeff' then t.drop 1 else t
  let statements ← readStatements (t.length + 1) t
  build statements [] []

end ZLang.Toml
