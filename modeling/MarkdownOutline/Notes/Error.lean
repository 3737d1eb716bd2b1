import MarkdownOutline.Files.Access

/-!
# Failures on notes

What can go wrong while notes are written, and the texts that report it.
-/

namespace MarkdownOutline

inductive NoteError where
  | file (path : Path) (cause : FileError)
  | noParent (path : Path)
  deriving DecidableEq

def NoteError.message : NoteError → String
  | .file path cause => "I/O error on " ++ path.text ++ ": " ++ cause.message
  | .noParent path => "note has no parent directory: " ++ path.text

/-- The result of an operation on the file or folder at a path, its failure as one on a note. -/
def onPath {m : Type → Type} [Monad m] {α : Type} (path : Path) (operation : m (Except FileError α)) :
    ExceptT NoteError m α :=
  ExceptT.mk do
    match ← operation with
    | .ok a => return .ok a
    | .error cause => return .error (.file path cause)

end MarkdownOutline
