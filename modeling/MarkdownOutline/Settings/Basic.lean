import MarkdownOutline.Files.Error
import MarkdownOutline.Notes.Export
import MarkdownOutline.Outline.Numbering

/-!
# Settings

What a program can be told once for all its runs: how documents are numbered, how exported notes
are named, and where a log is kept.
-/

namespace MarkdownOutline

/-- How much is logged, and the file that the log goes to besides the terminal. -/
structure LogSettings where
  level : String := "info"
  fileLevel? : Option String := none
  file? : Option Path := none
  deriving DecidableEq

structure Settings where
  source? : Option Path := none
  numbering : FormatOptions := ⟨.depth 1, .increaseFromOne⟩
  exports : ExportOptions := {}
  log : LogSettings := {}
  deriving DecidableEq

/-- Why a text holds no settings. -/
inductive SettingsFault where
  | notToml
  | wrongType
  | numberTooLarge
  | noVersion
  | invalidIndex (cause : InvalidIndexFrom)
  deriving DecidableEq

def SettingsFault.message : SettingsFault → String
  | .notToml => "invalid TOML"
  | .wrongType => "value of the wrong type"
  | .numberTooLarge => "number out of range"
  | .noVersion => "missing field: version"
  | .invalidIndex cause => cause.message

inductive SettingsError where
  | notFound (path : Path)
  | unreadable (path : Path) (cause : FileError)
  | malformed (path : Path) (cause : SettingsFault)
  | unsupportedVersion (version : Nat)
  | noHome
  deriving DecidableEq

def settingsVersion : Nat := 1

def SettingsError.message : SettingsError → String
  | .notFound path => "config file not found at " ++ path.text
  | .unreadable path cause => "failed to read config file " ++ path.text ++ ": " ++ cause.message
  | .malformed path cause => "failed to parse TOML in " ++ path.text ++ ": " ++ cause.message
  | .unsupportedVersion version =>
    "version " ++ Nat.repr version ++ " is unsupported (expected " ++ Nat.repr settingsVersion ++ ")"
  | .noHome => "home directory not available to expand '~'"

end MarkdownOutline
