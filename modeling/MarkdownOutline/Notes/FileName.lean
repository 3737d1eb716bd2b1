import MarkdownOutline.Notes.Error

/-!
# Names of notes

Which names can be used for files and folders on every system, and the numbered names that stand
in for the others.
-/

namespace MarkdownOutline

open Text

/-- A character that some system refuses in names. -/
def isReservedInNames (c : Char) : Bool :=
  c < ' ' || ['<', '>', ':', '"', '/', '\\', '|', '?', '*'].contains c

/-- The name can be used on every system: it is not empty, holds no reserved character, and ends
neither in white space nor in a dot. -/
def isValidFileName (name : String) : Bool :=
  match name.toList.getLast? with
  | none => false
  | some last => !name.toList.any isReservedInNames && !isBlank last && last != '.'

def numberedName (stem : String) (extension? : Option String) (number : Nat) : String :=
  stem ++ "_" ++ Nat.repr number ++
    match extension? with
    | some extension => "." ++ extension
    | none => ""

/-- The least number whose name is not taken. Of one more number than there are names taken, one
is free. -/
def leastFree (nameOf : Nat → String) (taken : List String) : Nat :=
  ((List.range (taken.length + 1)).find? fun number => !taken.contains (nameOf number)).getD
    taken.length

def freeName (stem : String) (extension? : Option String) (taken : List String) : String :=
  numberedName stem extension? (leastFree (numberedName stem extension?) taken)

variable {m : Type → Type} [Monad m] [MonadFiles m]

/-- The names in a folder. A missing folder has none. -/
def takenNames (folder : Path) : ExceptT NoteError m (List String) :=
  onPath folder do
    match ← MonadFiles.folderNames folder with
    | .error .notFound => return .ok []
    | names => return names

/-- The first numbered name that is not taken in a folder. -/
def fallbackName (folder : Path) (stem : String) (extension? : Option String) :
    ExceptT NoteError m String := do
  return freeName stem extension? (← takenNames folder)

end MarkdownOutline
