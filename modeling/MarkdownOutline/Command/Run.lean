import MarkdownOutline.Command.Arguments
import MarkdownOutline.Command.Release
import MarkdownOutline.Command.StateReport
import MarkdownOutline.Settings.Load

/-!
# Running commands

What a command line does to files, and what it prints. Every command but the one that checks the
settings stops at settings that cannot be loaded; the log file is opened before a note is read.
-/

namespace MarkdownOutline

/-- The end of a run: its exit code and what it printed. -/
structure Outcome where
  code : Nat := 0
  output : String := ""
  errors : String := ""
  deriving DecidableEq

namespace Outcome

def success (output : String) : Outcome := { output }

def failure (report : String) : Outcome := { code := 1, errors := report ++ "\n" }

def wrongUsage : Outcome :=
  { code := 2, errors := "error: wrong usage\n\nFor more information, try '--help'.\n" }

end Outcome

def helpText : String :=
  "Restructure markdown notes from the terminal\n\nUsage: mdr [OPTIONS] <COMMAND>\n\nCommands:\n" ++
  "  format <FILE> [--dry-run]\n" ++
  "  heading-to-list <FILE> --line <LINE> [--peers] [--dry-run]\n" ++
  "  list-to-heading <FILE> --line <LINE> [--dry-run]\n" ++
  "  heading-depth <FILE> --line <LINE> --depth <DEPTH> [--peers] [--dry-run]\n" ++
  "  export <FILE> --line <LINE> [--peers]\n" ++
  "  state <FILE> --line <LINE> [--json]\n" ++
  "  doctor\n\nOptions:\n" ++
  "      --config <CONFIG>\n      --index-from <INDEX_FROM>\n      --list-method <LIST_METHOD>\n" ++
  "  -v, --verbose\n  -h, --help\n  -V, --version\n"

/-- The settings with those given on the command line in their place. -/
def Invocation.override (invocation : Invocation) (settings : Settings) : Settings :=
  { settings with numbering := {
      indexFrom := invocation.indexFrom?.getD settings.numbering.indexFrom
      lists := invocation.lists?.getD settings.numbering.lists } }

/-- The text of a note after a change, if one is asked for, and with its numbers written anew. -/
def revisedText (options : FormatOptions) (change? : Option Transform) (text : String) : String :=
  ((Document.ofMarkdown text).transform (change?.toList ++ [.format options])).toMarkdown

variable {m : Type → Type} [Monad m] [MonadEnvironment m] [MonadFiles m]

def Invocation.settings (invocation : Invocation) : ExceptT SettingsError m Settings := do
  return invocation.override (← Settings.load invocation.config?)

/-- Makes the log file empty, together with the folders around it. -/
def openLog (log : LogSettings) : m (Except FileError Unit) := do
  match log.file? with
  | none => return .ok ()
  | some file =>
    match ← MonadFiles.ensureFolderAt (file.parent?.getD ⟨""⟩) with
    | .error cause => return .error cause
    | .ok () => MonadFiles.writeText file ""

def startLog (log : LogSettings) : ExceptT Outcome m Unit := do
  match ← (openLog log : m _) with
  | .ok () => return ()
  | .error cause => throw (.failure ("Error: failed to open log file: " ++ cause.message))

/-- The settings of a run with the log opened. Without them the run ends. -/
def setup (invocation : Invocation) : ExceptT Outcome m Settings := do
  match ← (invocation.settings.run : m _) with
  | .error cause => throw (.failure ("Error loading config: " ++ cause.message))
  | .ok settings =>
    startLog settings.log
    return settings

/-- The text of a note. Without it the run ends. -/
def readNote (file : Path) : ExceptT Outcome m String := do
  match ← (MonadFiles.readText file : m _) with
  | .ok text => return text
  | .error cause => throw (.failure ("Error reading " ++ file.text ++ ": " ++ cause.message))

/-- Writes a note anew after a change, or prints what would be written. -/
def runTransform (settings : Settings) (file : Path) (dryRun : Bool) (change? : Option Transform) :
    ExceptT Outcome m Outcome := do
  let text ← readNote file
  let revised := revisedText settings.numbering change? text
  if dryRun then return .success revised
  if revised = text then return .success ("Unchanged: " ++ file.text ++ "\n")
  match ← (MonadFiles.writeText file revised : m _) with
  | .ok () => return .success ("Updated: " ++ file.text ++ "\n")
  | .error cause => throw (.failure ("Error writing " ++ file.text ++ ": " ++ cause.message))

def ExportedNote.report (note : ExportedNote) : String :=
  (if note.changed then "Exported: " else "Unchanged: ") ++ note.path.text ++ "\n"

def runExport (settings : Settings) (file : Path) (line : Nat) (peers : Bool) :
    ExceptT Outcome m Outcome := do
  match ← ((exportHeading file line peers settings.exports).run : m _) with
  | .error cause =>
    throw (.failure ("Error exporting from " ++ file.text ++ ": " ++ cause.message))
  | .ok [] => return .success ("(no heading at line " ++ Nat.repr line ++ ")\n")
  | .ok notes => return .success (String.join (notes.map ExportedNote.report))

def runState (file : Path) (line : Nat) (json : Bool) : ExceptT Outcome m Outcome := do
  let state? := (Document.ofMarkdown (← readNote file)).lineState? line
  return .success (if json then stateJson line state? else stateText line state?)

def settingsReport (settings : Settings) (defaultPath : Path) : String :=
  let path := match settings.source? with
    | some path => path.text
    | none => "(defaults, no file at " ++ defaultPath.text ++ ")"
  let file := match settings.log.file? with
    | some file => "logging.file: " ++ file.text ++ "\n"
    | none => ""
  "OK   mdr doctor\n" ++
    "build: " ++ buildSummary ++ "\n" ++
    "path: " ++ path ++ "\n" ++
    "index.add_heading_index_from: " ++ Nat.repr settings.numbering.indexFrom.toNat ++ "\n" ++
    "index.list_index_handle_method: " ++ settings.numbering.lists.name ++ "\n" ++
    "export.invalid_note_prefix: " ++ settings.exports.notePrefix ++ "\n" ++
    "export.invalid_folder_prefix: " ++ settings.exports.folderPrefix ++ "\n" ++
    "logging.level: " ++ settings.log.level ++ "\n" ++ file

def runDoctor (invocation : Invocation) : ExceptT Outcome m Outcome := do
  let defaultPath ← (defaultSettingsPath : m _)
  match ← (invocation.settings.run : m _) with
  | .error cause =>
    let place :=
      if invocation.config?.isNone then "looked for: " ++ defaultPath.text ++ "\n" else ""
    throw { code := 1, output := "FAIL mdr doctor\n" ++ cause.message ++ "\n" ++ place }
  | .ok settings =>
    startLog settings.log
    return .success (settingsReport settings defaultPath)

def Invocation.perform (invocation : Invocation) : ExceptT Outcome m Outcome := do
  match invocation.command with
  | .transform file dryRun change? => runTransform (← setup invocation) file dryRun change?
  | .exportSections file line peers => runExport (← setup invocation) file line peers
  | .state file line json =>
    let _ ← setup invocation
    runState file line json
  | .doctor => runDoctor invocation

def Invocation.run (invocation : Invocation) : m Outcome := do
  match ← invocation.perform.run with
  | .ok outcome => return outcome
  | .error outcome => return outcome

/-- The end of the run that a command line asks for. -/
def runArguments (arguments : List String) : m Outcome :=
  match Request.ofArguments? arguments with
  | none => return .wrongUsage
  | some .version => return .success (programName ++ " " ++ programVersion ++ "\n")
  | some .help => return .success helpText
  | some (.run invocation) => invocation.run

end MarkdownOutline
