import ZLang.Text.Basic

/-!
A file system as a map from paths to what stands there, and the reading of a file as text.
-/
set_option autoImplicit false

namespace ZLang

abbrev Path := Text

/-- A name inside a directory; the empty path is the directory one is in. -/
def Path.join (dir name : Path) : Path :=
  if dir.isEmpty || dir.getLast? == some '/' then dir ++ name else dir ++ '/' :: name

namespace FileSystem

/-- What stands at a path. -/
inductive Entry where
  | absent
  | directory
  | file (content : ByteArray)

/-- Why a file gives no text. -/
inductive ReadFault where
  | absent
  | directory
  | notUtf8
  deriving DecidableEq, Repr

def ReadFault.message : ReadFault → Text
  | absent => "No such file or directory (os error 2)".toList
  | directory => "Is a directory (os error 21)".toList
  | notUtf8 => "stream did not contain valid UTF-8".toList

/-- The text of some bytes. -/
def decode (content : ByteArray) : Except ReadFault Text :=
  match Text.ofBytes? content with
  | some t => .ok t
  | none => .error .notUtf8

theorem decode_eq_ok_iff (content : ByteArray) (t : Text) :
    decode content = .ok t ↔ content = (String.ofList t).toUTF8 := by
  rw [← Text.ofBytes?_eq_some_iff, decode]
  cases Text.ofBytes? content with
  | none => simp
  | some u => simp

namespace Entry

def isFile : Entry → Bool
  | file _ => true
  | _ => false

def text : Entry → Except ReadFault Text
  | absent => .error .absent
  | directory => .error .directory
  | file content => decode content

theorem text_eq_ok_iff (e : Entry) (t : Text) :
    e.text = .ok t ↔ e = file (String.ofList t).toUTF8 := by
  cases e with
  | absent => simp [text]
  | directory => simp [text]
  | file content => rw [text, decode_eq_ok_iff, file.injEq]

end Entry

end FileSystem

structure FileSystem where
  entry : Path → FileSystem.Entry

namespace FileSystem

def isFile (fs : FileSystem) (p : Path) : Bool := (fs.entry p).isFile

def readText (fs : FileSystem) (p : Path) : Except ReadFault Text := (fs.entry p).text

theorem isFile_iff (fs : FileSystem) (p : Path) :
    fs.isFile p = true ↔ ∃ content, fs.entry p = .file content := by
  rw [isFile]
  cases fs.entry p <;> simp [Entry.isFile]

theorem isFile_eq_false_iff (fs : FileSystem) (p : Path) :
    fs.isFile p = false ↔ ∀ content, fs.entry p ≠ .file content := by
  rw [← Bool.not_eq_true, isFile_iff, not_exists]

theorem readText_eq_ok_iff (fs : FileSystem) (p : Path) (t : Text) :
    fs.readText p = .ok t ↔ fs.entry p = .file (String.ofList t).toUTF8 :=
  Entry.text_eq_ok_iff _ t

/-! ## Trees

File systems given by a list of files and directories. The directories above them exist too. A path
is walked part by part from the working directory, which is the root of the tree.
-/

structure Tree where
  nodes : List (Path × Entry)

namespace Tree

def parts (p : Path) : List Text := p.splitOn '/'

/-- What stands at the end of a walk, given by the names on the way. -/
def find (t : Tree) (names : List Text) : Entry :=
  match t.nodes.find? fun n => parts n.1 == names with
  | some n => n.2
  | none =>
    if names.isEmpty || t.nodes.any (fun n => names.isPrefixOf (parts n.1)) then .directory
    else .absent

/-- Walk on from a place. One can only walk on from a directory; an empty part and a dot stay
there. -/
def walk (t : Tree) : List Text → List Text → Entry
  | names, [] => t.find names
  | names, p :: rest =>
    match t.find names with
    | .directory =>
      if p.isEmpty || p == ['.'] then walk t names rest
      else if p == ['.', '.'] then (if names.isEmpty then .absent else walk t names.dropLast rest)
      else walk t (names ++ [p]) rest
    | _ => .absent

/-- The tree seen from its root; absolute paths lead nowhere. -/
def toFileSystem (t : Tree) : FileSystem where
  entry p := if p.head? == some '/' then .absent else t.walk [] (parts p)

end Tree

end FileSystem

end ZLang
