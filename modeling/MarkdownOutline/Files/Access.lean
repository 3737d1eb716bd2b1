import MarkdownOutline.Files.FileSystem

/-!
# Access to files

The operations on files that programs are written with. They run on a file system that is a value,
where an operation fails only for what is at its path and changes nothing then, and on any other
that offers the same operations.
-/

namespace MarkdownOutline

inductive EntryKind where
  | file
  | folder
  | other
  deriving DecidableEq

/-- Operations on files. A failure is a result. -/
class MonadFiles (m : Type → Type) where
  readText : Path → m (Except FileError String)
  writeText : Path → String → m (Except FileError Unit)
  makeFolder : Path → m (Except FileError Unit)
  folderNames : Path → m (Except FileError (List String))
  kind? : Path → m (Option EntryKind)

def Entry.kind : Entry → EntryKind
  | .file _ => .file
  | .folder => .folder

namespace FileSystem

def kind? (fs : FileSystem) (path : Path) : Option EntryKind :=
  match fs.find path with
  | .ok (_, entry) => some entry.kind
  | .error _ => none

def change (fs : FileSystem) : Except FileError FileSystem → Except FileError Unit × FileSystem
  | .ok changed => (.ok (), changed)
  | .error cause => (.error cause, fs)

end FileSystem

instance : MonadFiles (StateM FileSystem) where
  readText path := fun fs => (fs.readText path, fs)
  writeText path value := fun fs => fs.change (fs.writeText path value)
  makeFolder path := fun fs => fs.change (fs.makeFolder path)
  folderNames path := fun fs => (fs.folderNames path, fs)
  kind? path := fun fs => (fs.kind? path, fs)

instance {m n : Type → Type} [MonadLift m n] [MonadFiles m] : MonadFiles n where
  readText path := liftM (MonadFiles.readText path : m _)
  writeText path value := liftM (MonadFiles.writeText path value : m _)
  makeFolder path := liftM (MonadFiles.makeFolder path : m _)
  folderNames path := liftM (MonadFiles.folderNames path : m _)
  kind? path := liftM (MonadFiles.kind? path : m _)

namespace MonadFiles

variable {m : Type → Type} [Monad m] [MonadFiles m]

def isFile (path : Path) : m Bool := do return (← kind? path) == some .file

def isFolder (path : Path) : m Bool := do return (← kind? path) == some .folder

/-- The folder at the first path, made after the missing ones around it, which follow. -/
def makeFolders : List Path → m (Except FileError Unit)
  | [] => return .ok ()
  | path :: around => do
    if path.text.isEmpty then return .ok ()
    match ← makeFolder path with
    | .ok () => return .ok ()
    | .error .notFound =>
      match ← makeFolders around with
      | .error cause => return .error cause
      | .ok () => settle path (← makeFolder path)
    | .error cause => settle path (.error cause)
where
  /-- A folder that is already there is as good as one just made. -/
  settle (path : Path) : Except FileError Unit → m (Except FileError Unit)
    | .ok () => return .ok ()
    | .error cause => do return if ← isFolder path then .ok () else .error cause

/-- A folder at a path, made together with the folders around it unless it is there. -/
def ensureFolderAt (path : Path) : m (Except FileError Unit) := makeFolders path.withParents

end MonadFiles

end MarkdownOutline
