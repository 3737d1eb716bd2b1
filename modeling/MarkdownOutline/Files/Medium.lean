import MarkdownOutline.Files.Access

/-!
# Media that fail

Files on a medium that can refuse an operation for reasons of its own, as a full disk does. The
faults are given beforehand, one for each operation. A write can also fail midway, when the old
content is gone already.
-/

namespace MarkdownOutline

/-- The first bytes of a text. -/
def FileContent.beginning (value : String) (count : Nat) : FileContent :=
  .ofBytes (value.toUTF8.extract 0 count)

/-- Why an operation fails. A write with a number of bytes has put these in place of the old content
before it fails; any other leaves the files as they are. -/
structure Fault where
  description : String
  written? : Option Nat := none
  deriving DecidableEq

/-- Files, and the faults of the operations to come. Behind the end of the list there are none. -/
structure Medium where
  files : FileSystem
  faults : List (Option Fault) := []
  deriving DecidableEq

/-- The files behind a write that failed. -/
def Fault.leaves (fault : Fault) (fs : FileSystem) (path : Path) (value : String) : FileSystem :=
  match fault.written?.map fun count => fs.writeFile path (.beginning value count) with
  | some (.ok fs') => fs'
  | _ => fs

namespace Medium

def fault? (medium : Medium) : Option Fault := medium.faults.head?.join

/-- The medium behind an operation that left these files. -/
def next (medium : Medium) (files : FileSystem) : Medium := ⟨files, medium.faults.tail⟩

def look {α : Type} (medium : Medium) (result : Except FileError α) : Except FileError α × Medium :=
  match medium.fault? with
  | none => (result, medium.next medium.files)
  | some fault => (.error (.other fault.description), medium.next medium.files)

def change (medium : Medium) (result : Except FileError FileSystem) (leaves : Fault → FileSystem) :
    Except FileError Unit × Medium :=
  match medium.fault?, result with
  | none, .ok fs => (.ok (), medium.next fs)
  | none, .error cause => (.error cause, medium.next medium.files)
  | some fault, _ => (.error (.other fault.description), medium.next (leaves fault))

def readText (medium : Medium) (path : Path) : Except FileError String × Medium :=
  medium.look (medium.files.readText path)

def folderNames (medium : Medium) (path : Path) : Except FileError (List String) × Medium :=
  medium.look (medium.files.folderNames path)

/-- What is at a path. Behind a fault there is nothing. -/
def kind? (medium : Medium) (path : Path) : Option EntryKind × Medium :=
  (if medium.fault?.isSome then none else medium.files.kind? path, medium.next medium.files)

def writeText (medium : Medium) (path : Path) (value : String) : Except FileError Unit × Medium :=
  medium.change (medium.files.writeText path value) (·.leaves medium.files path value)

def makeFolder (medium : Medium) (path : Path) : Except FileError Unit × Medium :=
  medium.change (medium.files.makeFolder path) fun _ => medium.files

end Medium

instance : MonadFiles (StateM Medium) where
  readText path := fun medium => medium.readText path
  writeText path value := fun medium => medium.writeText path value
  makeFolder path := fun medium => medium.makeFolder path
  folderNames path := fun medium => medium.folderNames path
  kind? path := fun medium => medium.kind? path

end MarkdownOutline
