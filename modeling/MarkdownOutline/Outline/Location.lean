import MarkdownOutline.Outline.Numbering

/-!
# Where a line belongs

The top-level block that a line was read into, the number of the heading above it, and its place
in a list.
-/

namespace MarkdownOutline

/-- The deepest list nesting that a place in a list tells apart. -/
def maxListDepth : Nat := 6

/-- The number of the first item that covers the line, counted from 1, and the item. -/
def firstCovering (line : Nat) : Nat → List Item → Option (Nat × Item)
  | _, [] => none
  | number, item :: rest =>
    if item.covers line then some (number, item) else firstCovering line (number + 1) rest

def coveringList? (line : Nat) (blocks : List Block) : Option ListBlock :=
  (blocks.filterMap Block.list?).find? (·.covers line)

/-- The place of a line in a list at most `levels` deep: at each level the number of the item that
covers the line, down to the innermost list that covers it. Where no item does, the number of
items stands at the end. -/
def ListBlock.pathWithin (line : Nat) : Nat → ListBlock → List Nat
  | 0, _ => []
  | levels + 1, list =>
    match firstCovering line 1 list.items with
    | none => [list.items.length]
    | some (number, item) =>
      number :: match coveringList? line item.children with
        | some nested => nested.pathWithin line levels
        | none => []

def ListBlock.path (list : ListBlock) (line : Nat) : List Nat :=
  list.pathWithin line maxListDepth

/-- The numbers of a place by nesting depth, with 0 for depth 0 and the depths below. -/
def pathSlots (path : List Nat) : List Nat :=
  0 :: path ++ List.replicate (maxListDepth - path.length) 0

inductive BlockKind where
  | heading
  | paragraph
  | list
  | other
  deriving DecidableEq

def Block.kind : Block → BlockKind
  | .heading _ => .heading
  | .paragraph _ => .paragraph
  | .list _ => .list
  | .other .. => .other

/-- The state of a line: the headings counted up to and with its block, its place if the block is
a list, and the block's index and kind. -/
structure LineState where
  headings : HeadingCounters
  listPath : List Nat
  blockIndex : Nat
  blockKind : BlockKind
  deriving DecidableEq

/-- The depth of the list that the line is in, 0 outside lists. -/
def LineState.listDepth (state : LineState) : Nat := state.listPath.length

/-- The place of a line in a block: empty unless the block is a list. -/
def Block.path (block : Block) (line : Nat) : List Nat :=
  match block with
  | .list l => l.path line
  | _ => []

def HeadingCounters.pass (counters : HeadingCounters) (block : Block) : HeadingCounters :=
  match block.headingDepth? with
  | some depth => counters.advance depth
  | none => counters

/-- The state of a line among blocks whose first one has an index, with the headings before them
counted. -/
def lineStateFrom (line : Nat) (counters : HeadingCounters) (index : Nat) :
    List Block → Option LineState
  | [] => none
  | block :: rest =>
    let counters := counters.pass block
    if block.covers line then some ⟨counters, block.path line, index, block.kind⟩
    else lineStateFrom line counters (index + 1) rest

/-- The state of a line. A line that no top-level block covers has none. -/
def Document.lineState? (document : Document) (line : Nat) : Option LineState :=
  lineStateFrom line {} 0 document

def Document.owningHeading? (document : Document) (line : Nat) : Option (Nat × Heading) := do
  let state ← document.lineState? line
  let block ← document[state.blockIndex]?
  let heading ← block.heading?
  some (state.blockIndex, heading)

def Document.headingStartingAt? (document : Document) (line : Nat) : Option Nat :=
  document.findIdx? fun block => block.heading?.any fun h => h.span.any (·.first == line)

/-- The index of the first heading of a depth in an enclosing section, seen from its end: `before`
holds the blocks before it in reverse, and `found` is the best index so far. -/
def firstPeerBefore (depth found : Nat) : List Block → Nat
  | [] => found
  | block :: before =>
    match block.headingDepth? with
    | some d =>
      if d = depth then firstPeerBefore depth before.length before
      else if d < depth then found
      else firstPeerBefore depth found before
    | none => firstPeerBefore depth found before

/-- The index of the first heading of a depth in the section around the heading at an index. -/
def Document.firstPeer (document : Document) (index depth : Nat) : Nat :=
  firstPeerBefore depth index (document.take index).reverse

end MarkdownOutline
