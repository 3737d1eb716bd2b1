import MarkdownOutline.Notes.Append
import MarkdownOutline.Notes.FileName

/-!
# Notes and folders

Notes and their folders are made when they are missing. A title that cannot be used as a name is
replaced by a numbered one.
-/

namespace MarkdownOutline

def noteExtension : String := "md"

def noteFileName (title : String) : String := title ++ "." ++ noteExtension

variable {m : Type → Type} [Monad m] [MonadFiles m]

/-- The path of the note with a title in a folder, made empty if it is missing. -/
def ensureNote (folder : Path) (title fallbackStem : String) : ExceptT NoteError m Path := do
  let path := folder.join (noteFileName title)
  if ← MonadFiles.isFile path then return path
  let path ←
    if isValidFileName (noteFileName title) then pure path
    else folder.join <$> fallbackName folder fallbackStem (some noteExtension)
  onPath path (MonadFiles.writeText path "")
  return path

def ensureFolder (folder : Path) (name fallbackStem : String) : ExceptT NoteError m Path := do
  let path := folder.join name
  if ← MonadFiles.isFolder path then return path
  let path ←
    if isValidFileName name then pure path
    else folder.join <$> fallbackName folder fallbackStem none
  onPath path (MonadFiles.ensureFolderAt path)
  return path

/-- Adds a section below the note at a path, and tells whether that changed the note. -/
def appendSection (path : Path) (addition : String) : ExceptT NoteError m Bool := do
  match appendedContent (← onPath path (MonadFiles.readText path)) addition with
  | none => return false
  | some content =>
    onPath path (MonadFiles.writeText path content)
    return true

end MarkdownOutline
