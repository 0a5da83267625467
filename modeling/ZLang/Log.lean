import ZLang.Pattern.Parser

/-!
Log records, which have a level, the part of the program that speaks, and a message; and filters,
which say what records are written.
-/
set_option autoImplicit false

namespace ZLang.Log

inductive Level where
  | error
  | warn
  | info
  | debug
  | trace
  deriving DecidableEq, Repr

namespace Level

/-- A filter set to a rank lets the levels up to it pass; rank 0 lets none pass. -/
def rank : Level → Nat
  | error => 1
  | warn => 2
  | info => 3
  | debug => 4
  | trace => 5

/-- The name of a level, five characters wide. -/
def name : Level → Text
  | error => "ERROR".toList
  | warn => "WARN ".toList
  | info => "INFO ".toList
  | debug => "DEBUG".toList
  | trace => "TRACE".toList

end Level

structure Record where
  level : Level
  target : Text
  message : Text
  deriving DecidableEq, Repr

/-- The line written for a record. -/
def Record.text (r : Record) : Text :=
  '[' :: r.level.name ++ ' ' :: r.target ++ "] ".toList ++ r.message ++ ['\n']

/-! ## Filters

A filter is written as directives with commas between them: a level for all targets, a target for
all levels, or a target and its level. Behind a slash stands a pattern that must occur in a message.
For a record the directive with the longest matching target decides; a filter without directives
lets errors pass.
-/

structure Directive where
  /-- What the targets it speaks of start with; `none` speaks of all. -/
  target : Option Text
  rank : Nat
  deriving DecidableEq, Repr

namespace Directive

def covers (d : Directive) (target : Text) : Bool := d.target.all fun t => t.isPrefixOf target

def length (d : Directive) : Nat := (d.target.getD []).length

end Directive

structure Filter where
  directives : List Directive
  /-- What must occur in a message that passes. -/
  message : Option Pattern

namespace Filter

/-! ## Reading -/

/-- The names of the ranks, from 0 on; their case does not matter. -/
def rankNames : List Text :=
  ["off".toList, "error".toList, "warn".toList, "info".toList, "debug".toList, "trace".toList]

def rank? (t : Text) : Option Nat := rankNames.idxOf? (t.map Char.toLower)

def highestRank : Nat := 5

def strip (t : Text) : Text :=
  ((t.dropWhile Text.isWhiteSpace).reverse.dropWhile Text.isWhiteSpace).reverse

/-- A directive, or the part of it that cannot be read. -/
def directive (t : Text) : Except Text Directive :=
  match t.splitOn '=' with
  | [name] =>
    match rank? name with
    | some n => .ok ⟨none, n⟩
    | none => .ok ⟨some name, highestRank⟩
  | [name, level] =>
    let level := strip level
    if level.isEmpty then .ok ⟨some name, highestRank⟩
    else
      match rank? level with
      | some n => .ok ⟨some name, n⟩
      | none => .error level
  | _ => .error t

/-- What the user is told about a part that cannot be read. -/
def warning (part note : Text) : Text :=
  "warning: invalid logging spec '".toList ++ part ++ '\x27' :: note ++ ", ignoring it\n".toList

/-- The parts of a specification, each read. -/
def readParts (t : Text) : List (Except Text Directive) :=
  (((t.splitOn ',').map strip).filter fun s => !s.isEmpty).map directive

/-- Add a directive; one with the same target before it gives its place up. -/
def insert (d : Directive) : List Directive → List Directive
  | [] => [d]
  | e :: ds => if e.target == d.target then d :: ds else e :: insert d ds

/-- The directives that can be read, and a warning for each that cannot. -/
def readDirectives (t : Text) : List Directive × Text :=
  (((readParts t).filterMap Except.toOption).foldl (fun ds d => insert d ds) [],
    (readParts t).flatMap fun d =>
      match d with
      | .ok _ => []
      | .error part => warning part [])

/-- The pattern of a message, or a warning that there is none. -/
def readMessage (t : Text) : Option Pattern × Text :=
  match Pattern.parse t with
  | .ok p => (some p, [])
  | .error r =>
    (none, "warning: invalid regex filter - ".toList ++ r.message t ++ ", ignoring it\n".toList)

/-- The filter of a specification, and the warnings that come with it. -/
def parse (t : Text) : Filter × Text :=
  match t.splitOn '/' with
  | [ds] => (⟨(readDirectives ds).1, none⟩, (readDirectives ds).2)
  | [ds, message] =>
    (⟨(readDirectives ds).1, (readMessage message).1⟩,
      (readDirectives ds).2 ++ (readMessage message).2)
  | _ => (⟨[], none⟩, warning t " (too many '/'s)".toList)

/-! ## Filtering -/

/-- The directive that decides for a target: the longest of those that cover it, and the last of
these. -/
def deciding (ds : List Directive) (target : Text) : Option Directive :=
  (ds.filter fun d => d.covers target).foldl
    (fun best d =>
      match best with
      | some b => if b.length ≤ d.length then some d else some b
      | none => some d)
    none

def defaultDirective : Directive := ⟨none, 1⟩

def passes (f : Filter) (r : Record) : Bool :=
  let ds := if f.directives.isEmpty then [defaultDirective] else f.directives
  (deciding ds r.target).any (fun d => r.level.rank ≤ d.rank) &&
    f.message.all fun p => p.occurs r.message

/-- The lines of the records that pass. -/
def write (f : Filter) (rs : List Record) : Text := (rs.filter f.passes).flatMap Record.text

end Filter

end ZLang.Log
