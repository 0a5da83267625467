import ZLang.Arguments
import ZLang.Log
import ZLang.Session.Wire
import ZLang.Settings.File

/-!
The two programs as functions from the world and the arguments to what is written and the exit
status: the checker, and the language server.
-/
set_option autoImplicit false

namespace ZLang.Program

/-- What a program finds when it starts, its arguments apart. -/
structure World where
  files : FileSystem
  place : Settings.Place
  stdin : ByteArray
  /-- The log filter of the environment, which goes before that of the command line. -/
  logSpec : Option Text

structure Outcome where
  stdout : Text
  stderr : Text
  status : Nat
  deriving DecidableEq, Repr

namespace Outcome

/-- Something is shown, and that is all. -/
def shown (t : Text) : Outcome := ⟨t, [], 0⟩

/-- The command line has a fault. How the fault is worded is left open. -/
def usage : Outcome := ⟨[], "error: ".toList, 2⟩

end Outcome

/-- The complaint about a failure, with its cause below it. -/
def failureText (message cause : Text) : Text :=
  "Error: ".toList ++ message ++ "\n\nCaused by:\n    ".toList ++ cause ++ ['\n']

/-! ## What is logged of an analysis

One record for each line with faults, and the totals.
-/

def decimal (n : Nat) : Text := Nat.toDigits 10 n

def analysisTarget : Text := "zlang_checker::validation::engine".toList

/-- The rules a line breaks, if it breaks any. -/
def lineRecords (l : Line) : List Log.Record :=
  if l.brokenRules.isEmpty then []
  else
    [⟨.trace, analysisTarget, "line ".toList ++ decimal l.number ++ ": [".toList ++
      List.intercalate ", ".toList (l.brokenRules.map Rule.traceName) ++ [']']⟩]

/-- The records of an analysis. -/
def analysisRecords (t : Text) : List Log.Record :=
  (Line.ofText t).flatMap lineRecords ++
    [⟨.debug, analysisTarget, "analyzed ".toList ++ decimal (Line.ofText t).length ++
      " lines, ".toList ++ decimal (analyze t).length ++ " diagnostics".toList⟩]

/-! ## The checker

The status is 0 when the text has no diagnostics, 1 when it has some or when something cannot be
read, and 2 when there is no code or the command line has a fault.
-/

namespace Checker

def helpText : Text :=
  "Report line-level syntax errors in Z-LANG source

Usage: zlang-check [OPTIONS] [FILE]

Arguments:
  [FILE]  Source file to check; reads stdin when omitted

Options:
      --format <FORMAT>        Output format [possible values: table, json]
      --pretty                 Pretty-print JSON output
      --config <CONFIG>        Path to a TOML config file
      --log-level <LOG_LEVEL>  Log level (trace, debug, info, warn, error)
  -h, --help                   Print help
  -V, --version                Print version
".toList

def versionText : Text := "zlang-check 0.1.0\n".toList

/-- The checker logs from this level on unless told otherwise. -/
def logLevel : Text := "warn".toList

/-! ### Reports -/

/-- The report in the format that is set; JSON ends with a line feed of its own. -/
def render (s : Settings) (ds : List Diagnostic) : Text :=
  match s.format with
  | .table => Report.Table.render ds
  | .json => Report.json s.pretty s.geometry ds ++ ['\n']

/-- Check a text under settings. -/
def report (s : Settings) (t : Text) : Outcome :=
  match Submission.accept t with
  | .error e => ⟨[], e.message ++ ['\n'], 2⟩
  | .ok code => ⟨render s (analyze code), [], if (analyze code).isEmpty then 0 else 1⟩

/-! ### Log records -/

def settingsTarget : Text := "zlang_checker::config".toList

def checkerTarget : Text := "zlang_check".toList

/-- Which settings file is going to be read. -/
def searchRecord (consulted : Option Path) : Log.Record :=
  match consulted with
  | some path => ⟨.debug, settingsTarget, "Loading config from ".toList ++ path⟩
  | none => ⟨.debug, settingsTarget, "No config file found, using defaults".toList⟩

/-- Which settings file was read. -/
def sourceRecords (s : Settings) : List Log.Record :=
  s.source.toList.map fun path => ⟨.info, checkerTarget, "using config ".toList ++ path⟩

/-- The records of a check; a text that is refused is not analysed. -/
def reportRecords (t : Text) : List Log.Record :=
  match Submission.accept t with
  | .error _ => []
  | .ok code => analysisRecords code

/-! ### Runs -/

/-- The filter of the log, and its warnings. -/
def logFilter (w : World) (given : Arguments.Given) : Log.Filter × Text :=
  Log.Filter.parse (w.logSpec.getD (given.logLevel.getD logLevel))

/-- What is written before the settings are loaded. -/
def opening (w : World) (given : Arguments.Given) : Text :=
  (logFilter w given).2 ++
    (logFilter w given).1.write [searchRecord (Settings.consulted w.files w.place given.config)]

/-- The settings of a run: the flags over those of the settings file. -/
def settings (parse : Text → Option Settings.File) (files : FileSystem) (place : Settings.Place)
    (given : Arguments.Given) : Except Settings.LoadFault Settings :=
  (Settings.load parse files place given.config).map fun s => s.withFlags given.format given.pretty

/-- The text to check: a file, or standard input. -/
def source (w : World) (file : Option Path) : Except FileSystem.ReadFault Text :=
  match file with
  | some path => w.files.readText path
  | none => FileSystem.decode w.stdin

def sourceMessage (file : Option Path) : Text :=
  "Failed to read ".toList ++ file.getD "stdin".toList

/-- Check a text that has been read, under settings that have been loaded, and log what is done. -/
def check (filter : Log.Filter) (s : Settings) (t : Text) : Outcome :=
  let out := report s t
  ⟨out.stdout, filter.write (sourceRecords s ++ reportRecords t) ++ out.stderr, out.status⟩

/-- Run with arguments that have been understood. -/
def runGiven (w : World) (given : Arguments.Given) : Outcome :=
  let filter := (logFilter w given).1
  match settings Settings.File.parse w.files w.place given with
  | .error e => ⟨[], opening w given ++ failureText e.message e.cause, 1⟩
  | .ok s =>
    match source w given.file with
    | .error e =>
      ⟨[], opening w given ++ filter.write (sourceRecords s) ++
        failureText (sourceMessage given.file) e.message, 1⟩
    | .ok t =>
      let out := check filter s t
      ⟨out.stdout, opening w given ++ out.stderr, out.status⟩

/-- What is shown when the arguments ask for no check. -/
def stopped : Arguments.Stop → Outcome
  | .help => .shown helpText
  | .version => .shown versionText
  | .fault _ => .usage

/-- Run the checker. -/
def run (w : World) (args : List Text) : Outcome :=
  match Arguments.parseChecker args with
  | .error e => stopped e
  | .ok given => runGiven w given

end Checker

/-! ## The server

A session is carried through the frames on standard input, and what it answers goes to standard
output.
-/

namespace Server

def helpText : Text :=
  "Language server for Z-LANG files

Usage: zlang-ls [OPTIONS]

Options:
      --log-level <LOG_LEVEL>  Log level (trace, debug, info, warn, error) [default: info]
  -h, --help                   Print help
  -V, --version                Print version
".toList

def versionText : Text := "zlang-ls 0.1.0\n".toList

/-! ### Log records -/

def serverTarget : Text := "zlang_checker::lsp::server".toList

def sessionTarget : Text := "zlang_checker::lsp::backend".toList

def publishTarget : Text := "zlang_checker::lsp::handlers".toList

def startRecord : Log.Record := ⟨.info, serverTarget, "starting zlang-ls 0.1.0".toList⟩

def stopRecord : Log.Record := ⟨.info, serverTarget, "zlang-ls stopped".toList⟩

/-- The records of a publication: those of the analysis, or why there was none. -/
def publicationRecords (uri : Session.Uri) (t : Text) : List Log.Record :=
  match Submission.accept t with
  | .ok code => analysisRecords code
  | .error e => [⟨.debug, publishTarget, uri.text ++ ": ".toList ++ e.message⟩]

def commandRecords : Session.Command → List Log.Record
  | .didOpen uri d =>
    ⟨.debug, sessionTarget, "opened ".toList ++ uri.text⟩ :: publicationRecords uri d.content
  | .didChange uri _ texts => texts.getLast?.toList.flatMap (publicationRecords uri)
  | .didClose uri => [⟨.debug, sessionTarget, "closed ".toList ++ uri.text⟩]
  | .initialized => [⟨.info, sessionTarget, Session.greeting⟩]
  | _ => []

/-- The records of what came in a frame. -/
def messageRecords (s : Session) : Except Session.Response Session.Message → List Log.Record
  | .ok m => (s.accepted? Session.Uri.parse m).toList.flatMap commandRecords
  | .error _ => []

/-! ### Runs -/

/-- Carry a session through messages; the records come first, then what is written. -/
def converse (s : Session) :
    List (Except Session.Response Session.Message) → List Log.Record × Text
  | [] => ([], [])
  | m :: rest =>
    let (s', effect) := s.receive Session.Uri.parse m
    let (records, written) := converse s' rest
    (messageRecords s m ++ records, Session.Frame.writeEffect effect ++ written)

/-- The filter of the server's log, and its warnings. -/
def logFilter (logSpec : Option Text) (level : Text) : Log.Filter × Text :=
  Log.Filter.parse (logSpec.getD level)

/-- Run with a log level that has been understood. -/
def runGiven (w : World) (level : Text) : Outcome :=
  let (filter, warnings) := logFilter w.logSpec level
  let (records, written) := converse Session.start (Session.Frame.allMessages w.stdin.toList)
  ⟨written, warnings ++ filter.write ([startRecord] ++ records ++ [stopRecord]), 0⟩

/-- What is shown when the arguments ask for no service. -/
def stopped : Arguments.Stop → Outcome
  | .help => .shown helpText
  | .version => .shown versionText
  | .fault _ => .usage

/-- Run the server. -/
def run (w : World) (args : List Text) : Outcome :=
  match Arguments.parseServer args with
  | .error e => stopped e
  | .ok level => runGiven w level

end Server

end ZLang.Program
