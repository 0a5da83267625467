import ZLang.Program

/-!
The command line. The checker and the server are one executable, which is the server when its file
is named `zlang-ls`. Here the world is looked at and the outcome is written; what the outcome is, is
said in `ZLang.Program`.
-/
set_option autoImplicit false

namespace ZLang.Main

/-! ## Looking at the world -/

/-- What stands at a path on disk. -/
def entryAt (p : Path) : IO FileSystem.Entry := do
  let name := String.ofList p
  try
    if ← (← IO.FS.realPath name).isDir then return .directory
    return .file (← IO.FS.readBinFile name)
  catch _ => return .absent

/-- The file system as far as the given paths go. -/
def look (paths : List Path) : IO FileSystem := do
  let entries ← paths.mapM fun p => do return (p, ← entryAt p)
  return ⟨fun p => (entries.lookup p).getD .absent⟩

def environment (name : String) : IO (Option Text) := do
  return (← IO.getEnv name).map String.toList

/-- The user's directory of settings. -/
def configDirectory : IO (Option Path) := do
  match ← environment "XDG_CONFIG_HOME" with
  | some ('/' :: dir) => return some ('/' :: dir)
  | _ => return (← environment "HOME").map fun home => Path.join home ".config".toList

def place : IO Settings.Place := do
  return ⟨(toString (← IO.currentDir)).toList, ← configDirectory⟩

/-- The paths the checker may look at. -/
def paths (place : Settings.Place) (given : Arguments.Given) : List Path :=
  given.config.toList ++ [place.projectFile] ++ place.userFile?.toList ++ given.file.toList

partial def readAll (stream : IO.FS.Stream) (before : ByteArray) : IO ByteArray := do
  let bytes ← stream.read 65536
  if bytes.isEmpty then return before else readAll stream (before ++ bytes)

/-! ## Writing -/

def writeOut (t : Text) : IO Unit := do
  let stdout ← IO.getStdout
  stdout.putStr (String.ofList t)
  stdout.flush

def writeError (t : Text) : IO Unit := do
  (← IO.getStderr).putStr (String.ofList t)

def finish (o : Program.Outcome) : IO UInt32 := do
  writeError o.stderr
  writeOut o.stdout
  return UInt32.ofNat o.status

/-! ## The two programs -/

def logSpec : IO (Option Text) := environment "RUST_LOG"

def check (args : List Text) : IO UInt32 := do
  match Arguments.parseChecker args with
  | .error e => finish (Program.Checker.stopped e)
  | .ok given =>
    let place ← place
    let files ← look (paths place given)
    let stdin ← if given.file.isSome then pure ByteArray.empty else readAll (← IO.getStdin) .empty
    finish (Program.Checker.runGiven ⟨files, place, stdin, ← logSpec⟩ given)

/-- The lines of a header, up to the empty one; nothing at the end of the input. -/
partial def readHeader (stdin : IO.FS.Stream) : IO (Option Text) := do
  let line ← stdin.getLine
  if line.isEmpty then return none
  if line.trimAscii.isEmpty then return some []
  return (← readHeader stdin).map (line.toList ++ ·)

partial def readBody (stdin : IO.FS.Stream) (n : Nat) (before : ByteArray) : IO ByteArray := do
  if n == 0 then return before
  let bytes ← stdin.read (USize.ofNat n)
  if bytes.isEmpty then return before
  readBody stdin (n - bytes.size) (before ++ bytes)

/-- Carry a session on until the input ends or the editor leaves. -/
partial def converse (stdin : IO.FS.Stream) (log : List Log.Record → IO Unit) (s : Session) :
    IO Unit := do
  if s.phase == .exited then return
  let some header ← readHeader stdin | return
  let some n := Session.Frame.bodyLength? header | return
  let body ← readBody stdin n .empty
  let m := Session.Frame.message body.toList
  log (Program.Server.messageRecords s m)
  let (s', effect) := s.receive Session.Uri.parse m
  writeOut (Session.Frame.writeEffect effect)
  converse stdin log s'

def serve (args : List Text) : IO UInt32 := do
  match Arguments.parseServer args with
  | .error e => finish (Program.Server.stopped e)
  | .ok level =>
    let (filter, warnings) := Program.Server.logFilter (← logSpec) level
    writeError warnings
    let log := fun rs => writeError (filter.write rs)
    log [Program.Server.startRecord]
    converse (← IO.getStdin) log Session.start
    log [Program.Server.stopRecord]
    return 0

end ZLang.Main

def main (args : List String) : IO UInt32 := do
  let args := args.map String.toList
  if (toString (← IO.appPath)).endsWith "zlang-ls" then ZLang.Main.serve args
  else ZLang.Main.check args
