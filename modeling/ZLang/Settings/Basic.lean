import ZLang.FileSystem
import ZLang.Report

/-!
Settings of the report, and the layers they are made of. A settings file gives some of them, flags
override, and what neither gives keeps its standard value. The rules themselves cannot be set.
At most one file is looked at: the one asked for, or else the project's, or else the user's.
-/
set_option autoImplicit false

namespace ZLang

structure Settings where
  format : Report.Format
  pretty : Bool
  geometry : Report.Geometry
  /-- The file the settings were read from. -/
  source : Option Path

namespace Settings

def standard : Settings := ⟨.table, false, .standard, none⟩

/-- What a settings file gives. -/
structure File where
  format : Option Report.Format
  pretty : Option Bool
  lineHeight : Option Float
  verticalOffset : Option Float

namespace File

def empty : File := ⟨none, none, none, none⟩

/-- The file sets nothing. -/
def isEmpty (f : File) : Bool :=
  f.format.isNone && f.pretty.isNone && f.lineHeight.isNone && f.verticalOffset.isNone

end File

/-- Lay the contents of the file at `source` over settings. -/
def withFile (s : Settings) (f : File) (source : Path) : Settings where
  format := f.format.getD s.format
  pretty := f.pretty.getD s.pretty
  geometry :=
    ⟨f.lineHeight.getD s.geometry.lineHeight, f.verticalOffset.getD s.geometry.verticalOffset⟩
  source := some source

/-- Lay flags over settings. The flag for pretty printing can only switch it on. -/
def withFlags (s : Settings) (format : Option Report.Format) (pretty : Bool) : Settings :=
  { s with format := format.getD s.format, pretty := s.pretty || pretty }

/-! ## Finding and loading the settings file

How the text of a file is understood is left open.
-/

/-- Where the program runs. -/
structure Place where
  workingDirectory : Path
  /-- The user's directory of settings, if there is one. -/
  configDirectory : Option Path

namespace Place

def projectFile (p : Place) : Path := Path.join p.workingDirectory ".zlang.toml".toList

def userFile? (p : Place) : Option Path :=
  p.configDirectory.map fun dir => Path.join (Path.join dir "zlang".toList) "config.toml".toList

end Place

/-- Why settings cannot be loaded. -/
inductive LoadFault where
  | unreadable (path : Path) (cause : FileSystem.ReadFault)
  | invalid (path : Path)
  deriving DecidableEq, Repr

namespace LoadFault

def message : LoadFault → Text
  | unreadable path _ => "Failed to read config file ".toList ++ path
  | invalid path => "Invalid config file ".toList ++ path

def cause : LoadFault → Text
  | unreadable _ fault => fault.message
  | invalid _ => "TOML parse error".toList

end LoadFault

/-- The file that is looked at. -/
def consulted (fs : FileSystem) (place : Place) (explicit : Option Path) : Option Path :=
  match explicit with
  | some path => some path
  | none =>
    if fs.isFile place.projectFile then some place.projectFile
    else place.userFile?.filter fs.isFile

section

variable (parse : Text → Option File)

/-- The contents of the settings file at a path. -/
def readFile (fs : FileSystem) (path : Path) : Except LoadFault File :=
  match fs.readText path with
  | .error e => .error (.unreadable path e)
  | .ok t =>
    match parse t with
    | none => .error (.invalid path)
    | some f => .ok f

/-- The standard settings under those of the file that is looked at. -/
def load (fs : FileSystem) (place : Place) (explicit : Option Path) : Except LoadFault Settings :=
  match consulted fs place explicit with
  | none => .ok standard
  | some path => (readFile parse fs path).map fun f => standard.withFile f path

end

end Settings

end ZLang
