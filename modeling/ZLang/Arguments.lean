import ZLang.Settings.Basic

/-!
Command lines: the options and flags of the two programs, the faults a command line can have, the
values it gives, and how it is read.
-/
set_option autoImplicit false

namespace ZLang.Arguments

/-- What can be written behind two dashes. -/
inductive Name where
  | format
  | pretty
  | config
  | logLevel
  | help
  | version
  deriving DecidableEq, Repr

namespace Name

def text : Name → Text
  | format => "format".toList
  | pretty => "pretty".toList
  | config => "config".toList
  | logLevel => "log-level".toList
  | help => "help".toList
  | version => "version".toList

def takesValue : Name → Bool
  | format | config | logLevel => true
  | pretty | help | version => false

end Name

/-- What a program understands: its options and flags, and whether it takes a file. -/
structure Grammar where
  names : List Name
  takesFile : Bool

namespace Grammar

def checker : Grammar := ⟨[.format, .pretty, .config, .logLevel, .help, .version], true⟩

def server : Grammar := ⟨[.logLevel, .help, .version], false⟩

def find? (g : Grammar) (t : Text) : Option Name := g.names.find? fun n => n.text == t

end Grammar

inductive Fault where
  | unknownArgument
  | invalidValue
  | argumentConflict
  | tooManyValues
  deriving DecidableEq, Repr

/-- Why no arguments come out: help or version is asked for, or there is a fault. -/
inductive Stop where
  | help
  | version
  | fault (f : Fault)
  deriving DecidableEq, Repr

/-- The values given by a command line. -/
structure Given where
  file : Option Path
  format : Option Report.Format
  pretty : Bool
  config : Option Path
  logLevel : Option Text
  deriving DecidableEq, Repr

namespace Given

def empty : Given := ⟨none, none, false, none, none⟩

/-- Give an option its value. A second value is refused before it is looked at. -/
def set (g : Given) (n : Name) (v : Text) : Except Stop Given :=
  match n with
  | .format =>
    if g.format.isSome then .error (.fault .argumentConflict)
    else
      match Report.Format.ofName? v with
      | some f => .ok { g with format := some f }
      | none => .error (.fault .invalidValue)
  | .config =>
    if g.config.isSome then .error (.fault .argumentConflict)
    else if v.isEmpty then .error (.fault .invalidValue)
    else .ok { g with config := some v }
  | .logLevel =>
    if g.logLevel.isSome then .error (.fault .argumentConflict)
    else .ok { g with logLevel := some v }
  | _ => .error (.fault .tooManyValues)

/-- Raise a flag. -/
def raise (g : Given) (n : Name) : Except Stop Given :=
  match n with
  | .pretty =>
    if g.pretty then .error (.fault .argumentConflict) else .ok { g with pretty := true }
  | .help => .error .help
  | .version => .error .version
  | _ => .error (.fault .invalidValue)

def setFile (g : Given) (p : Path) : Except Stop Given :=
  if p.isEmpty then .error (.fault .invalidValue) else .ok { g with file := some p }

end Given

/-! ## Reading

From left to right. An option that still waits for its value, and a file name, are settled when the
next option, flag or file name comes or the arguments end; an argument nobody knows is reported at
once. After `--` every argument is a file name.
-/

/-- What was read and is not settled yet. -/
inductive Pending where
  | none
  | option (n : Name)
  | value (n : Name) (v : Text)
  | file (p : Path)
  deriving DecidableEq, Repr

/-- The state between two arguments. -/
structure Scan where
  given : Given
  pending : Pending
  /-- `--` has been read. -/
  filesOnly : Bool
  deriving DecidableEq, Repr

namespace Scan

def start : Scan := ⟨.empty, .none, false⟩

/-- Settle what is pending. -/
def settle (s : Scan) : Except Stop Given :=
  match s.pending with
  | .none => .ok s.given
  | .option _ => .error (.fault .invalidValue)
  | .value n v => s.given.set n v
  | .file p => s.given.setFile p

/-- Nothing is pending any more, and `given` is what is settled. -/
def settled (s : Scan) (given : Given) : Scan := { s with given := given, pending := .none }

def hasFile (s : Scan) : Bool :=
  s.given.file.isSome ||
    match s.pending with
    | .file _ => true
    | _ => false

/-- An argument behind two dashes: a name, and a value behind an equals sign. -/
def long (g : Grammar) (s : Scan) (body : Text) : Except Stop Scan :=
  match g.find? (body.takeWhile (· != '=')), body.dropWhile (· != '=') with
  | none, _ => .error (.fault .unknownArgument)
  | some n, [] =>
    if n.takesValue then s.settle.map fun given => { s.settled given with pending := .option n }
    else (s.settle.bind fun given => given.raise n).map s.settled
  | some n, _ :: v =>
    if n.takesValue then (s.settle.bind fun given => given.set n v).map s.settled
    else .error (.fault .tooManyValues)

/-- An argument behind one dash: its first letter asks for help or version. -/
def short (s : Scan) (letter : Char) : Except Stop Scan :=
  if letter == 'h' then s.settle.bind fun _ => .error .help
  else if letter == 'V' then s.settle.bind fun _ => .error .version
  else .error (.fault .unknownArgument)

/-- An argument that is no option: the file, if none was given. -/
def positional (g : Grammar) (s : Scan) (a : Text) : Except Stop Scan :=
  if g.takesFile && !s.hasFile then
    s.settle.map fun given => { s.settled given with pending := .file a }
  else .error (.fault .unknownArgument)

/-- A plain word: the value of the option that waits for one, or the file. -/
def plain (g : Grammar) (s : Scan) (a : Text) : Except Stop Scan :=
  match s.pending with
  | .option n => .ok { s with pending := .value n a }
  | _ => s.positional g a

/-- Read one argument. -/
def step (g : Grammar) (s : Scan) (a : Text) : Except Stop Scan :=
  if s.filesOnly then s.positional g a
  else
    match a with
    | ['-', '-'] => .ok { s with filesOnly := true }
    | '-' :: '-' :: body => s.long g body
    | '-' :: letter :: _ => s.short letter
    | _ => s.plain g a

end Scan

/-- The values given by arguments. -/
def parse (g : Grammar) (args : List Text) : Except Stop Given :=
  (args.foldlM (Scan.step g) Scan.start).bind Scan.settle

/-- The values given to the checker. -/
def parseChecker (args : List Text) : Except Stop Given := parse .checker args

/-- The server logs from this level on unless told otherwise. -/
def serverLogLevel : Text := "info".toList

/-- The log level given to the server. -/
def parseServer (args : List Text) : Except Stop Text :=
  (parse .server args).map fun given => given.logLevel.getD serverLogLevel

end ZLang.Arguments
