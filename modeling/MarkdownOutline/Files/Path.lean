import MarkdownOutline.Text.Blank

/-!
# Paths

A path is kept as it was written. Slashes divide it into parts; an empty part and a dot lead
nowhere, two dots lead to the folder around, and a path that starts with a slash starts at the
root.
-/

namespace MarkdownOutline

open Text

/-- The name of a place among the files, as it was written. -/
structure Path where
  text : String
  deriving DecidableEq

/-- A part that leads nowhere when it stands behind another. -/
def isIdlePart (part : List Char) : Bool := part.isEmpty || part == ['.']

namespace Path

/-- The parts of the path, empty ones too. -/
def parts (path : Path) : List (List Char) := splitAt '/' path.text.toList

/-- The names to follow one after the other to reach the place. -/
def steps (path : Path) : List String :=
  (path.parts.filter (!·.isEmpty)).map String.ofList

def isAbsolute (path : Path) : Bool := path.text.toList.head? == some '/'

def endsInSlash (path : Path) : Bool := path.text.toList.getLast? == some '/'

/-- The path of a name seen from a folder. A name that is an absolute path stands for itself. -/
def join (folder : Path) (name : String) : Path :=
  if isAbsolute ⟨name⟩ then ⟨name⟩
  else if folder.text.isEmpty || folder.endsInSlash then ⟨folder.text ++ name⟩
  else ⟨folder.text ++ "/" ++ name⟩

def joinParts : List (List Char) → List Char
  | [] => []
  | [part] => part
  | part :: rest => part ++ '/' :: joinParts rest

/-- The path up to its last part, without slashes and idle parts in front of that. The root and
the empty path have none. -/
def parent? (path : Path) : Option Path :=
  match path.parts with
  | [] => none
  | first :: rest =>
    match dropTrailing isIdlePart rest with
    | [] => if first.isEmpty then none else some ⟨""⟩
    | kept =>
      let above := dropTrailing isIdlePart kept.dropLast
      if first.isEmpty && above.isEmpty then some ⟨"/"⟩
      else some ⟨String.ofList (joinParts (first :: above))⟩

/-- The path and those of the folders around it, as far as they are written. -/
def withParents (path : Path) : List Path :=
  follow path.parts.length path
where
  follow : Nat → Path → List Path
    | 0, path => [path]
    | more + 1, path =>
      path :: match path.parent? with
        | some folder => follow more folder
        | none => []

/-- The last part, unless it is one that leads elsewhere than to a name. -/
def name? (path : Path) : Option (List Char) :=
  match path.parts with
  | [] => none
  | first :: rest =>
    let last := (dropTrailing isIdlePart rest).getLast?.getD first
    if isIdlePart last || last == ['.', '.'] then none else some last

def beforeLastDot (name : List Char) : List Char :=
  ((name.reverse.dropWhile (· != '.')).drop 1).reverse

/-- The name without what follows its last dot. A dot in front of the whole name counts as part
of it. -/
def stem (path : Path) : String :=
  match path.name? with
  | none => ""
  | some name =>
    let kept := beforeLastDot name
    String.ofList (if kept.isEmpty then name else kept)

end Path

end MarkdownOutline
