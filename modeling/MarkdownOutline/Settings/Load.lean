import MarkdownOutline.Settings.Document
import MarkdownOutline.Settings.Expansion

/-!
# Loading settings

Settings come from a file that is named, or else from the default one if it is there.
-/

namespace MarkdownOutline

variable {m : Type → Type} [Monad m] [MonadEnvironment m]

def Settings.expand (settings : Settings) : ExceptT SettingsError m Settings := do
  match settings.log.file? with
  | none => return settings
  | some file =>
    match ← (expandPath? file : m _) with
    | none => throw .noHome
    | some file => return { settings with log := { settings.log with file? := some file } }

def Settings.ofToml (text : String) (path : Path) : ExceptT SettingsError m Settings := do
  match SettingsDocument.ofToml text with
  | .error fault => throw (.malformed path fault)
  | .ok document =>
    match document.version? with
    | none => throw (.malformed path .noVersion)
    | some version =>
      if version ≠ settingsVersion then throw (.unsupportedVersion version)
      { document.settings with source? := some path }.expand

variable [MonadFiles m]

def Settings.ofFile (path : Path) : ExceptT SettingsError m Settings := do
  if (← (MonadFiles.kind? path : m _)).isNone then throw (.notFound path)
  match ← (MonadFiles.readText path : m _) with
  | .error cause => throw (.unreadable path cause)
  | .ok text => Settings.ofToml text path

/-- The settings in the file that is named, or in the default one. If that is missing, nothing is
set. -/
def Settings.load (path? : Option Path) : ExceptT SettingsError m Settings := do
  match path? with
  | some path => Settings.ofFile path
  | none =>
    let path ← (defaultSettingsPath : m _)
    if (← (MonadFiles.kind? path : m _)).isNone then return {}
    Settings.ofFile path

end MarkdownOutline
