import MarkdownOutline.Files.Error
import MarkdownOutline.Files.Path

/-!
# File systems

A file system is a table of the files and folders below a root. Paths are followed step by step
from the root or from the current folder; each operation says which cause makes it fail.
-/

namespace MarkdownOutline

/-- Where a file or folder is: its name and those of the folders around it, innermost first. The
root is the empty list. -/
abbrev Location := List String

/-- The content of a file: text, or bytes that are not text. -/
inductive FileContent where
  | text (value : String)
  | binary (bytes : ByteArray)

instance : DecidableEq FileContent
  | .text a, .text b => decidable_of_iff (a = b) (by simp)
  | .binary a, .binary b => decidable_of_iff (a.data = b.data) (by simp [ByteArray.ext_iff])
  | .text _, .binary _ | .binary _, .text _ => isFalse (by simp)

def FileContent.ofBytes (bytes : ByteArray) : FileContent :=
  match String.fromUTF8? bytes with
  | some value => .text value
  | none => .binary bytes

inductive Entry where
  | file (content : FileContent)
  | folder
  deriving DecidableEq

/-- Files and folders by their locations, and the folder that relative paths start from. -/
structure FileSystem where
  entries : List (Location × Entry) := []
  current : Location := []
  deriving DecidableEq

/-- A place that a path leads to: a name in a folder, or a folder reached without naming it. -/
structure Place where
  folder : Location
  name? : Option String
  deriving DecidableEq

namespace FileSystem

def maxNameBytes : Nat := 255

def maxPathBytes : Nat := 4095

/-- What is at a location. The root is always there. -/
def entry? (fs : FileSystem) : Location → Option Entry
  | [] => some .folder
  | location => fs.entries.lookup location

def put (fs : FileSystem) (location : Location) (entry : Entry) : FileSystem :=
  { fs with entries := (location, entry) :: fs.entries.filter (·.1 != location) }

def names (fs : FileSystem) (folder : Location) : List String :=
  fs.entries.filterMap fun (location, _) =>
    match location with
    | [] => none
    | name :: around => if around = folder then some name else none

/-- The entry of a name in a folder, if names may have its length. -/
def named (fs : FileSystem) (folder : Location) (name : String) : Except FileError (Option Entry) :=
  if name.utf8ByteSize > maxNameBytes then .error .nameTooLong else .ok (fs.entry? (name :: folder))

def enter (fs : FileSystem) (folder : Location) (step : String) : Except FileError Location :=
  if step = "." then .ok folder
  else if step = ".." then .ok (folder.drop 1)
  else do
    match ← fs.named folder step with
    | some .folder => .ok (step :: folder)
    | some (.file _) => .error .notFolder
    | none => .error .notFound

/-- The place that steps lead to: all but the last must lead to folders. -/
def follow (fs : FileSystem) (folder : Location) : List String → Except FileError Place
  | [] => .ok ⟨folder, none⟩
  | [step] =>
    if step = "." then .ok ⟨folder, none⟩
    else if step = ".." then .ok ⟨folder.drop 1, none⟩
    else .ok ⟨folder, some step⟩
  | step :: rest => do fs.follow (← fs.enter folder step) rest

def place (fs : FileSystem) (path : Path) : Except FileError Place :=
  if path.text.toList.contains '\x00' then .error .nulInPath
  else if path.text.isEmpty then .error .notFound
  else if path.text.utf8ByteSize > maxPathBytes then .error .nameTooLong
  else fs.follow (if path.isAbsolute then [] else fs.current) path.steps

/-- What a path leads to. A file is not found under a path that ends with a slash. -/
def find (fs : FileSystem) (path : Path) : Except FileError (Location × Entry) := do
  let place ← fs.place path
  match place.name? with
  | none => .ok (place.folder, .folder)
  | some name =>
    match ← fs.named place.folder name with
    | none => .error .notFound
    | some .folder => .ok (name :: place.folder, .folder)
    | some (.file content) =>
      if path.endsInSlash then .error .notFolder else .ok (name :: place.folder, .file content)

def readText (fs : FileSystem) (path : Path) : Except FileError String := do
  match (← fs.find path).2 with
  | .file (.text value) => .ok value
  | .file (.binary _) => .error .notText
  | .folder => .error .isFolder

def folderNames (fs : FileSystem) (path : Path) : Except FileError (List String) := do
  match ← fs.find path with
  | (location, .folder) => .ok (fs.names location)
  | (_, .file _) => .error .notFolder

/-- The file system with a content in the file at a path, a new file if there was none. -/
def writeFile (fs : FileSystem) (path : Path) (content : FileContent) :
    Except FileError FileSystem := do
  let place ← fs.place path
  match place.name? with
  | none => .error .isFolder
  | some name =>
    if path.endsInSlash then .error .isFolder
    else match ← fs.named place.folder name with
      | some .folder => .error .isFolder
      | _ => .ok (fs.put (name :: place.folder) (.file content))

def writeText (fs : FileSystem) (path : Path) (value : String) : Except FileError FileSystem :=
  fs.writeFile path (.text value)

def makeFolder (fs : FileSystem) (path : Path) : Except FileError FileSystem := do
  let place ← fs.place path
  match place.name? with
  | none => .error .alreadyExists
  | some name =>
    match ← fs.named place.folder name with
    | some _ => .error .alreadyExists
    | none => .ok (fs.put (name :: place.folder) .folder)

end FileSystem

end MarkdownOutline
