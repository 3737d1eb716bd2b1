import MarkdownOutline.Outline.IndexPrefix

/-!
# Numbering headings and lists

Headings are counted level by level in document order. A heading's number is made of the counters
of the levels from a first level down to its own, and replaces the number in front of its title.
-/

namespace MarkdownOutline

/-- The level from which numbers are written in front of titles. -/
inductive IndexFrom where
  | depth (level : Nat)
  | never
  deriving DecidableEq

structure InvalidIndexFrom where
  value : Nat
  deriving DecidableEq

def InvalidIndexFrom.message (invalid : InvalidIndexFrom) : String :=
  "heading index depth must be 1-7, got " ++ toString invalid.value

namespace IndexFrom

/-- The level that a number stands for; the number after the deepest level stands for never. -/
def ofNat (value : Nat) : Except InvalidIndexFrom IndexFrom :=
  if 1 ≤ value ∧ value ≤ maxHeadingDepth then .ok (.depth value)
  else if value = maxHeadingDepth + 1 then .ok .never
  else .error ⟨value⟩

def toNat : IndexFrom → Nat
  | .depth level => level
  | .never => maxHeadingDepth + 1

end IndexFrom

/-- How ordered lists are numbered anew. A method that is not known by name leaves them
as they are. -/
inductive ListNumbering where
  | disabled
  | increaseFromOne
  | other (name : String)
  deriving DecidableEq

namespace ListNumbering

def ofName (name : String) : ListNumbering :=
  if name = "Disabled" then .disabled
  else if name = "Increase from 1" then .increaseFromOne
  else .other name

def name : ListNumbering → String
  | .disabled => "Disabled"
  | .increaseFromOne => "Increase from 1"
  | .other name => name

def observe (numbering : ListNumbering) (list : ListBlock) : ListBlock :=
  match numbering with
  | .increaseFromOne => if list.ordered then list.withStart 1 else list
  | _ => list

@[simp] theorem items_observe (numbering : ListNumbering) (list : ListBlock) :
    (numbering.observe list).items = list.items := by
  cases list
  unfold observe
  split
  · split <;> rfl
  · rfl

@[simp] theorem span_observe (numbering : ListNumbering) (list : ListBlock) :
    (numbering.observe list).span = list.span := by
  cases list
  unfold observe
  split
  · split <;> rfl
  · rfl

end ListNumbering

/-- The counters of the heading levels, the highest level first, and the depth of the last heading
counted, 0 before any. -/
structure HeadingCounters where
  levels : List Nat := List.replicate maxHeadingDepth 0
  depth : Nat := 0
  deriving DecidableEq

namespace HeadingCounters

/-- The counters after one more heading at a level, given as the number of levels above it. Levels
above that have not been counted count as 1, and levels below start again. -/
def count : Nat → List Nat → List Nat
  | _, [] => []
  | 0, n :: below => (n + 1) :: below.map fun _ => 0
  | above + 1, n :: below => max n 1 :: count above below

/-- The counters after one more heading. A depth out of range counts as the nearest one. -/
def advance (counters : HeadingCounters) (depth : Nat) : HeadingCounters :=
  let depth := min (max depth 1) maxHeadingDepth
  { levels := count (depth - 1) counters.levels, depth }

/-- The counters by depth. Depth 0 has the counter 0. -/
def slots (counters : HeadingCounters) : List Nat := 0 :: counters.levels

/-- The counters of the levels from `first` to the depth of the last heading. -/
def number (counters : HeadingCounters) (first : Nat) : List Nat :=
  (counters.slots.drop first).take (counters.depth + 1 - first)

end HeadingCounters

/-- A number as it stands in front of a title: its parts, each with a dot, and a space. -/
def dotted (number : List Nat) : String :=
  if number.isEmpty then ""
  else String.ofList (number.flatMap fun n => Nat.toDigits 10 n ++ ['.']) ++ " "

/-- How headings are numbered while they are counted: from which level on, if at all, and the
depth of the highest heading of the document. -/
structure HeadingNumbering where
  indexFrom : Option IndexFrom := none
  minDepth : Option Nat := none

namespace HeadingNumbering

/-- The first level of a number: the one asked for, or the highest heading's if that is deeper. -/
def firstLevel (numbering : HeadingNumbering) (level : Nat) : Nat :=
  max level (numbering.minDepth.getD 0)

def indexPrefix (numbering : HeadingNumbering) (indexFrom : IndexFrom)
    (counters : HeadingCounters) : String :=
  match indexFrom with
  | .never => ""
  | .depth level => dotted (counters.number (numbering.firstLevel level))

def renumber (number : String) : List Inline → List Inline
  | .text value :: rest => .text (number ++ stripIndexPrefix value) :: rest
  | content => if number.isEmpty then content else .text number :: content

/-- The counters and the heading once it is counted. -/
def observe (numbering : HeadingNumbering) (counters : HeadingCounters) (heading : Heading) :
    HeadingCounters × Heading :=
  let counters := counters.advance heading.depth
  match numbering.indexFrom with
  | none => (counters, heading)
  | some indexFrom =>
    (counters, { heading with
      content := renumber (numbering.indexPrefix indexFrom counters) heading.content })

end HeadingNumbering

/-- What changes when a document is formatted. Unless told otherwise, numbers in front of
titles are taken away and lists are left alone. -/
structure FormatOptions where
  indexFrom : IndexFrom := .never
  lists : ListNumbering := .disabled
  deriving DecidableEq

structure DepthRange where
  min : Nat
  max : Nat
  deriving DecidableEq

namespace Document

def depthRange? (document : Document) : Option DepthRange :=
  (document.filterMap Block.headingDepth?).foldl (fun range? depth =>
    some (match range? with
      | none => ⟨depth, depth⟩
      | some range => ⟨min range.min depth, max range.max depth⟩)) none

/-- The blocks with their headings numbered after those counted so far, and their lists
renumbered. -/
def numberBlocks (headings : HeadingNumbering) (lists : ListNumbering) (counters : HeadingCounters) :
    List Block → List Block
  | [] => []
  | .heading h :: rest =>
    let (counters, h) := headings.observe counters h
    .heading h :: numberBlocks headings lists counters rest
  | .list l :: rest => .list (lists.observe l) :: numberBlocks headings lists counters rest
  | block :: rest => block :: numberBlocks headings lists counters rest

/-- The document with its top-level headings and lists renumbered. -/
def formatIndex (options : FormatOptions) (document : Document) : Document :=
  numberBlocks
    { indexFrom := some options.indexFrom, minDepth := document.depthRange?.map (·.min) }
    options.lists {} document

end Document

end MarkdownOutline
