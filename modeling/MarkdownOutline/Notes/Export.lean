import MarkdownOutline.Notes.Note
import MarkdownOutline.Outline.Section
import MarkdownOutline.Markdown.Reader

/-!
# Exporting sections

The section under a heading of a note is copied into a note of its own next to it; the sections
of a heading and its peers go into a folder named after the note.
-/

namespace MarkdownOutline

/-- The stems of the names that stand in for titles that cannot be used. -/
structure ExportOptions where
  notePrefix : String := "invalid_note_title"
  folderPrefix : String := "invalid_folder_title"
  deriving DecidableEq

structure ExportedNote where
  path : Path
  changed : Bool
  deriving DecidableEq

variable {m : Type → Type} [Monad m] [MonadFiles m]

def exportSection (folder : Path) (options : ExportOptions) (s : Section) :
    ExceptT NoteError m ExportedNote := do
  let path ← ensureNote folder s.title options.notePrefix
  return ⟨path, ← appendSection path s.content⟩

/-- Copies the section of the heading at a line of a note, or the sections of the heading and its
peers, into notes. Without a section nothing is written. -/
def exportHeading (source : Path) (line : Nat) (peers : Bool) (options : ExportOptions) :
    ExceptT NoteError m (List ExportedNote) := do
  let document := Document.ofMarkdown (← onPath source (MonadFiles.readText source))
  let some parent := source.parent? | throw (.noParent source)
  if peers then
    let sections := document.peerSectionsAt line
    if sections.isEmpty then return []
    let folder ← ensureFolder parent source.stem options.folderPrefix
    sections.mapM (exportSection folder options)
  else
    let s := document.sectionAt line
    if s.isEmpty then return []
    return [← exportSection parent options s]

end MarkdownOutline
