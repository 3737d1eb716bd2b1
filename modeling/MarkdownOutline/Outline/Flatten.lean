import MarkdownOutline.Outline.Location

/-!
# Sections as lists

A section turns into a nested list: every heading is an item that starts with its title, and holds
a list of what stands under it. Blocks that are neither headings nor paragraphs nor lists do not go
into the list; they follow it.
-/

namespace MarkdownOutline

/-- The block belongs to the section under a heading of a depth: it is no heading, or a deeper
one. -/
def Block.isBelow (depth : Nat) (block : Block) : Bool := block.headingDepth?.all (depth < ·)

/-- The block belongs to the sections next to each other under headings of a depth. -/
def Block.isWithin (depth : Nat) (block : Block) : Bool := block.headingDepth?.all (depth ≤ ·)

@[simp] theorem Block.isBelow_heading (depth : Nat) (heading : Heading) :
    (Block.heading heading).isBelow depth = decide (depth < heading.depth) := rfl

@[simp] theorem Block.isWithin_heading (depth : Nat) (heading : Heading) :
    (Block.heading heading).isWithin depth = decide (depth ≤ heading.depth) := rfl

theorem Block.isWithin_of_isBelow {depth : Nat} {block : Block} (h : block.isBelow depth = true) :
    block.isWithin depth = true := by
  cases block with
  | heading g => simpa using Nat.le_of_lt (of_decide_eq_true h)
  | _ => rfl

/-- The item of a heading: its title, and a list of what stands under it. -/
def headingItem (title : String) (items : List Item) : Item :=
  .mk [.paragraph (.ofText title), .list (.numbered items)] none

/-- The paragraph in front of a list that stands under a heading, by the title and the number of
the list. -/
def listLabel (title : String) (number : Nat) : Paragraph :=
  .ofText (title ++ "-list" ++ toString number)

/-- The items and the remaining blocks of what stands under a heading with a title, after a number
of lists under the same heading. -/
def flattenBlocks (title : String) (lists : Nat) : List Block → List Item × List Block
  | [] => ([], [])
  | .heading h :: rest =>
    let (inner, innerTail) :=
      flattenBlocks h.plainTitle 0 (rest.takeWhile (Block.isBelow h.depth))
    let (items, tail) := flattenBlocks title lists (rest.dropWhile (Block.isBelow h.depth))
    (headingItem h.plainTitle inner :: items, innerTail ++ tail)
  | .paragraph p :: rest =>
    let (items, tail) := flattenBlocks title lists rest
    (.mk [.paragraph p] none :: items, tail)
  | .list l :: rest =>
    let (items, tail) := flattenBlocks title (lists + 1) rest
    (.mk [.paragraph (listLabel title (lists + 1)), .list l] none :: items, tail)
  | .other m span :: rest =>
    let (items, tail) := flattenBlocks title lists rest
    (items, .other m span :: tail)
termination_by blocks => blocks.length
decreasing_by
  all_goals simp only [List.length_cons]
  · exact Nat.lt_succ_of_le (List.takeWhile_sublist _).length_le
  · exact Nat.lt_succ_of_le (List.dropWhile_sublist _).length_le
  all_goals omega

/-- A run of sections as a list, with the blocks that follow it and the index after the run. -/
structure Flattened where
  list : ListBlock
  tail : List Block
  stop : Nat

/-- The blocks of a run that form its sections: those before its first heading of the depth are
left out. -/
def peerRun (depth : Nat) (blocks : List Block) : List Block :=
  blocks.dropWhile fun block => block.headingDepth? != some depth

/-- The section of the heading at an index as a list; with `peers`, the sections of its depth from
the index `first` on to the end of the enclosing section. There is none if the index holds no
heading. -/
def Document.flattenSections? (document : Document) (first index : Nat) (peers : Bool) :
    Option Flattened := do
  let block ← document[index]?
  let heading ← block.heading?
  if peers then
    let run := (document.drop first).takeWhile (Block.isWithin heading.depth)
    let (items, tail) := flattenBlocks "" 0 (peerRun heading.depth run)
    some ⟨.numbered items, tail, first + run.length⟩
  else
    let run := (document.drop (index + 1)).takeWhile (Block.isBelow heading.depth)
    let (items, tail) := flattenBlocks "" 0 (.heading heading :: run)
    some ⟨.numbered items, tail, index + 1 + run.length⟩

/-- The document with the section of the heading at an index turned into a list. With `peers`, the
sections of its depth around it are turned too, or only those from it on with `onlyBelow`. -/
def Document.headingToList (document : Document) (index : Nat) (peers onlyBelow : Bool) : Document :=
  match document[index]?.bind Block.headingDepth? with
  | none => document
  | some depth =>
    let first := if peers && !onlyBelow then document.firstPeer index depth else index
    match document.flattenSections? first index peers with
    | none => document
    | some flattened =>
      document.take first ++ .list flattened.list :: (flattened.tail ++ document.drop flattened.stop)

end MarkdownOutline
