import MarkdownOutline.Markdown.Cursor
import MarkdownOutline.Markdown.Html
import MarkdownOutline.Markdown.LinkParts
import MarkdownOutline.Markdown.LineStart
import MarkdownOutline.Markdown.TableRow

/-!
# Open blocks

While a text is read line by line, the blocks that may still grow form a chain: containers, each
inside the one before, and at the end at most one leaf that collects lines. This module says
which of them a line continues and what a block becomes once it is closed.

A blank line loosens the list it stands in, wherever it ends up between two items or two blocks
of an item. So every closed block remembers whether a blank line ended it.
-/

namespace MarkdownOutline.Markdown

open Text

/-- How blocks come to be closed: by a line, given by its number, or by the end of the text after
the last line. -/
structure Closing where
  line : Nat
  atEnd : Bool := false

namespace Closing

/-- The last line of a block that the line does not continue. -/
def lastLine (closing : Closing) : Nat := if closing.atEnd then closing.line else closing.line - 1

end Closing

/-- A block that can no longer grow. -/
structure ClosedBlock where
  draft : Draft
  blankEnd : Bool

/-- A list item that can no longer grow. The `gap` is a blank line between two of its blocks. -/
structure ClosedItem where
  item : DraftItem
  blankEnd : Bool
  gap : Bool

/-- What closing a container gives to the container around it. -/
inductive Closed where
  | block (block : ClosedBlock)
  | item (item : ClosedItem)

/-- The leaves that collect lines. A paragraph remembers that its last line was tried as the
header of a table in vain, and a table how many cells its rows fell short of. -/
inductive OpenLeafKind where
  | paragraph (triedAsHeader : Bool)
  | heading (level : Nat)
  | thematicBreak
  | indentedCode
  | fencedCode (fence : Char) (length offset : Nat)
  | html (kind : Html.BlockKind)
  | table (columns : List Alignment) (missing : Nat)

/-- An open leaf with the lines it has collected, or the rows if it is a table, newest first. -/
structure OpenLeaf where
  kind : OpenLeafKind
  first : Nat
  lines : List (List Char) := []
  rows : List (List (List Char)) := []
  blankEnd : Bool := false

namespace OpenLeaf

def text (leaf : OpenLeaf) : List Char := leaf.lines.reverse.flatten

def addLine (leaf : OpenLeaf) (line : List Char) : OpenLeaf :=
  { leaf with lines := line :: leaf.lines }

def isParagraph (leaf : OpenLeaf) : Bool :=
  match leaf.kind with
  | .paragraph _ => true
  | _ => false

/-- The lines of the leaf are taken as they are, whatever they look like. -/
def isVerbatim (leaf : OpenLeaf) : Bool :=
  match leaf.kind with
  | .indentedCode | .fencedCode .. | .html _ => true
  | _ => false

/-- A blank line that continues the leaf counts as the end of it. -/
def marksBlank (leaf : OpenLeaf) : Bool :=
  match leaf.kind with
  | .heading _ | .thematicBreak | .fencedCode .. => false
  | _ => true

/-- The literal of indented code, without the blank lines at its end. -/
private def indentedLiteral (leaf : OpenLeaf) : List Char :=
  match leaf.lines.dropWhile fun line => line.all isSpacing with
  | [] => ['\n']
  | last :: earlier =>
    earlier.reverse.flatten ++ last.takeWhile (fun c => !isLineEnd c) ++ ['\n']

private def infoString (line : List Char) : List Char :=
  resolveEscapes (trimBy isSpacing (resolveReferences (line.takeWhile fun c => !isLineEnd c)))

/-- What the leaf becomes once it is closed, and the link definitions it held. A paragraph of
definitions alone vanishes. -/
def close (leaf : OpenLeaf) (closing : Closing) : Option ClosedBlock × LinkTargets :=
  let made (content : DraftLeaf) (last : Nat) : Option ClosedBlock :=
    some ⟨.leaf content ⟨leaf.first, last⟩, leaf.blankEnd⟩
  match leaf.kind with
  | .paragraph _ =>
    let (targets, rest) := linkDefinitions leaf.text
    (if restIsBlank rest then none else made (.paragraph rest) closing.lastLine, targets)
  | .heading level => (made (.heading level leaf.text) closing.lastLine, [])
  | .thematicBreak => (made .thematicBreak closing.lastLine, [])
  | .indentedCode => (made (.code false [] leaf.indentedLiteral) closing.lastLine, [])
  | .fencedCode .. =>
    let lines := leaf.lines.reverse
    (made (.code true (infoString (lines.headD [])) lines.tail.flatten) closing.line, [])
  | .html _ => (made (.html leaf.text) closing.lastLine, [])
  | .table columns _ => (made (.table columns leaf.rows.reverse) closing.lastLine, [])

def fenceInfo (line : List Char) : List Char := infoString line

theorem close_fencedCode {leaf : OpenLeaf} {fence : Char} {length offset : Nat}
    (hkind : leaf.kind = .fencedCode fence length offset) {line : List Char}
    {lines : List (List Char)} (hlines : leaf.lines = (line :: lines).reverse) (closing : Closing) :
    leaf.close closing =
      (some ⟨.leaf (.code true (fenceInfo line) lines.flatten) ⟨leaf.first, closing.line⟩,
        leaf.blankEnd⟩, []) := by
  simp [close, hkind, hlines, fenceInfo]

theorem close_indentedCode {leaf : OpenLeaf} (hkind : leaf.kind = .indentedCode) {last : List Char}
    {earlier : List (List Char)} (hlines : leaf.lines = (last ++ ['\n']) :: earlier)
    (hlast : ∀ c ∈ last, isLineEnd c = false) (hblank : last.all isSpacing = false)
    (closing : Closing) :
    leaf.close closing =
      (some ⟨.leaf (.code false [] (earlier.reverse.flatten ++ last ++ ['\n']))
        ⟨leaf.first, closing.lastLine⟩, leaf.blankEnd⟩, []) := by
  have hend : (last ++ ['\n']).all isSpacing = false := by simp [hblank]
  have hline : (last ++ ['\n']).takeWhile (fun c => !isLineEnd c) = last := by
    rw [List.takeWhile_append_of_pos fun c hc => by simp [hlast c hc]]
    simp [isLineEnd]
  simp [close, hkind, indentedLiteral, hlines, hend, hline]

/-- What a line does to the leaf at the end of a fully continued chain. -/
inductive Fate where
  | continued (cursor : Cursor)
  | left
  | completed

/-- A line continues the leaf, leaves it, or completes it as a closing fence does. -/
def fate (leaf : OpenLeaf) (cursor : Cursor) : Fate :=
  match leaf.kind with
  | .paragraph _ => if cursor.isBlank then .left else .continued cursor
  | .heading _ => .left
  | .thematicBreak => .continued cursor
  | .indentedCode =>
    if cursor.isIndented then .continued (cursor.advanceColumns 4)
    else if cursor.isBlank then .continued cursor.toText
    else .left
  | .fencedCode fence length offset =>
    if cursor.indent ≤ 3 && isClosingFence fence length cursor.text then .completed
    else .continued (cursor.skipColumns offset)
  | .html kind => if kind.endsAtBlank && cursor.isBlank then .left else .continued cursor
  | .table .. => if (tableRow? cursor.text).isSome then .continued cursor else .left

end OpenLeaf

/-- The containers of blocks. An item takes `width` columns off every line that continues it. -/
inductive ContainerKind where
  | document
  | quote
  | item (width : Nat)

/-- An open container with what is closed inside it, newest first. -/
inductive Frame where
  | blocks (kind : ContainerKind) (first : Nat) (blankEnd : Bool) (children : List ClosedBlock)
  | list (marker : ListMarker) (first : Nat) (blankEnd : Bool) (items : List ClosedItem)

namespace Frame

def listMarker? : Frame → Option ListMarker
  | .list marker .. => some marker
  | .blocks .. => none

def isEmpty : Frame → Bool
  | .blocks _ _ _ children => children.isEmpty
  | .list _ _ _ items => items.isEmpty

def push : Frame → Closed → Frame
  | .blocks kind first blankEnd children, .block block =>
    .blocks kind first blankEnd (block :: children)
  | .list marker first blankEnd items, .item item => .list marker first blankEnd (item :: items)
  | frame, _ => frame

def setBlankEnd (blankEnd : Bool) : Frame → Frame
  | .blocks kind first _ children => .blocks kind first blankEnd children
  | .list marker first _ items => .list marker first blankEnd items

/-- The container whose newest part is ended by a blank line. -/
def markLastBlank : Frame → Frame
  | .blocks kind first blankEnd (last :: children) =>
    .blocks kind first blankEnd ({ last with blankEnd := true } :: children)
  | .list marker first blankEnd (last :: items) =>
    .list marker first blankEnd ({ last with blankEnd := true } :: items)
  | frame => frame

/-- What is left of a line that continues the container. A blank line does not continue an item
without blocks; `inhabited` says that an open block stands inside. -/
def continue? (frame : Frame) (inhabited : Bool) (cursor : Cursor) : Option Cursor :=
  match frame with
  | .list .. | .blocks .document .. => some cursor
  | .blocks .quote .. =>
    if cursor.indent ≤ 3 && cursor.text.head? == some '>' then
      some (cursor.advanceColumns (cursor.indent + 1)).skipColumn
    else none
  | .blocks (.item width) _ _ children =>
    if cursor.indent ≥ width then some (cursor.advanceColumns width)
    else if cursor.isBlank && (inhabited || !children.isEmpty) then some cursor.toText
    else none

/-- No blank line stands between the items or between the blocks of one. The items come newest
first. -/
def isTight (items : List ClosedItem) : Bool :=
  !(items.any (·.gap) || items.tail.any (·.blankEnd))

/-- What the container becomes once it is closed. The newest block of an item is its last one
unless something `followed` it. -/
def close (frame : Frame) (closing : Closing) (followed : Bool := false) : Option Closed :=
  match frame with
  | .blocks .document .. => none
  | .blocks .quote first blankEnd children =>
    some (.block ⟨.quote (children.reverse.map (·.draft)) ⟨first, closing.lastLine⟩, blankEnd⟩)
  | .blocks (.item _) first blankEnd children =>
    some (.item {
      item := .mk (children.reverse.map (·.draft)) ⟨first, closing.lastLine⟩
      blankEnd := blankEnd || children.head?.any (·.blankEnd)
      gap := (if followed then children else children.tail).any (·.blankEnd) })
  | .list marker first blankEnd items =>
    some (.block {
      draft := .list marker (isTight items) (items.reverse.map (·.item)) ⟨first, closing.lastLine⟩
      blankEnd := blankEnd || items.head?.any (·.blankEnd) })

end Frame

/-- The chain, innermost first, is closed from within, around what is closed already. -/
def closeChain (closing : Closing) (followed : Bool) : List Frame → Option Closed → Option Closed
  | [], inner => inner
  | frame :: outer, inner =>
    closeChain closing false outer
      ((inner.elim frame frame.push).close closing followed)

end MarkdownOutline.Markdown
