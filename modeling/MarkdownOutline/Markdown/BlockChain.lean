import MarkdownOutline.Markdown.OpenBlock

/-!
# The chain of open blocks

Reading a text is a fold over its lines. Each line first continues a part of the chain, then
opens blocks of its own, and what is left of it is text for the innermost block.
-/

namespace MarkdownOutline.Markdown

open Text

/-- The open blocks after some lines: the containers, innermost first and the document last, and
the leaf inside the innermost one; with the link definitions found so far. -/
structure BlockChain where
  frames : List Frame
  leaf : Option OpenLeaf := none
  targets : LinkTargets := []
  lineCount : Nat := 0

def BlockChain.start : BlockChain := { frames := [.blocks .document 1 false []] }

/-- A line on its way into the chain. The containers it continues are `frames`, those it does not
are `pending`, both innermost first. The leaf is continued if the entry is `growing`, which it can
be only if no container is pending. -/
structure Entry where
  closing : Closing
  frames : List Frame
  pending : List Frame
  leaf : Option OpenLeaf
  growing : Bool
  opened : Bool := false
  targets : LinkTargets
  cursor : Cursor

namespace Entry

def line (entry : Entry) : Nat := entry.closing.line

/-- The leaf that the line continues. -/
def growingLeaf? (entry : Entry) : Option OpenLeaf := if entry.growing then entry.leaf else none

def inParagraph (entry : Entry) : Bool := entry.growingLeaf?.any (·.isParagraph)

def pushOnto (frames : List Frame) (closed : Option Closed) : List Frame :=
  match frames, closed with
  | frame :: outer, some closed => frame.push closed :: outer
  | frames, _ => frames

/-- Everything the line does not continue is closed, the leaf included. A list around it is closed
too unless the line keeps it, as an item or a blank line does. When a new block closes the list,
the list is judged by the blocks it still has, so a paragraph that vanishes has followed the
others. -/
def settle (entry : Entry) (keepsList : Bool) (early : Bool) : Entry :=
  let (leafBlock, found) := (entry.leaf.map (·.close entry.closing)).getD (none, [])
  let endsList := !keepsList && (entry.frames.head?.bind (·.listMarker?)).isSome
  let vanished := entry.leaf.isSome && leafBlock.isNone
  let followed := early && endsList && vanished && entry.pending.length == 1
  let closed := closeChain entry.closing followed entry.pending (leafBlock.map .block)
  let frames := pushOnto entry.frames closed
  let frames :=
    if endsList then
      match frames with
      | list :: outer => pushOnto outer (list.close entry.closing)
      | [] => []
    else frames
  { entry with
    frames, pending := [], leaf := none, growing := false, opened := true
    targets := entry.targets ++ found }

def openLeaf (entry : Entry) (kind : OpenLeafKind) (cursor : Cursor) : Entry :=
  { entry.settle false true with
    leaf := some { kind, first := entry.line }, growing := true, cursor }

def openFrame (entry : Entry) (frame : Frame) (cursor : Cursor) : Entry :=
  let settled := entry.settle false true
  { settled with frames := frame :: settled.frames, cursor }

/-- A list item is opened, in the list that the line continues or in a new one. -/
def openItem (entry : Entry) (marker : ListMarker) (width : Nat) (cursor : Cursor) : Entry :=
  let item := Frame.blocks (.item width) entry.line false []
  let continues := !entry.growing &&
    (entry.frames.head?.bind (·.listMarker?)).any (·.continuedBy marker)
  if continues then
    let settled := entry.settle true true
    { settled with frames := item :: settled.frames, cursor }
  else
    let settled := entry.settle false true
    { settled with
      frames := item :: .list marker entry.line false [] :: settled.frames, cursor }

/-- The content of an item starts after up to four columns behind the marker; an item that starts
with indented code or with nothing has it after one column. -/
def itemContent (afterMarker : Cursor) : Nat × Cursor :=
  let columns := min 6 afterMarker.indent
  if 1 ≤ columns && columns < 5 && !afterMarker.isBlank then
    (columns, afterMarker.advanceColumns columns)
  else (1, if columns > 0 then afterMarker.advanceColumns 1 else afterMarker)

/-- The paragraph turns into a heading under an underline; one of definitions alone does not, and
loses them. -/
def underline (entry : Entry) (leaf : OpenLeaf) (level : Nat) : Entry :=
  let (found, rest) := linkDefinitions leaf.text
  let targets := entry.targets ++ found
  if restIsBlank rest then { entry with leaf := some { leaf with lines := [] }, targets }
  else { entry with
    leaf := some { leaf with kind := .heading level, lines := [rest] }
    targets, cursor := entry.cursor.toEnd }

/-- The last line of the paragraph turns into the header of a table, and the lines before it stay
a paragraph. -/
def openTable (entry : Entry) (leaf : OpenLeaf) (header : TableRow)
    (columns : List Alignment) : Entry :=
  let above := leaf.text.take header.offset
  let height := above.count '\n'
  let paragraph : Option Closed :=
    if header.offset == 0 then none
    else
      let content := DraftLeaf.paragraph (trimBy isSpacing (unescapePipes above))
      some (.block ⟨.leaf content ⟨leaf.first, leaf.first + height - 1⟩, false⟩)
  { entry with
    frames := pushOnto entry.frames paragraph
    leaf := some {
      kind := .table columns 0, first := leaf.first + height, rows := [header.cells] }
    cursor := entry.cursor.toEnd }

/-- The most cells that a table makes up for its rows. A table with more of them is full. -/
def maxMissingCells : Nat := 500000

/-- The paragraph or table takes the line as a row of a table, if it is one. -/
def openRow (entry : Entry) (leaf : OpenLeaf) : Entry :=
  let text := entry.cursor.text
  match leaf.kind with
  | .paragraph false =>
    match columnAlignments? text with
    | none => entry
    | some columns =>
      match tableRow? leaf.text with
      | some header =>
        if header.cells.length == columns.length then openTable entry leaf header columns
        else { entry with leaf := some { leaf with kind := .paragraph true } }
      | none => { entry with leaf := some { leaf with kind := .paragraph true } }
  | .table columns missing =>
    match if missing > maxMissingCells then none else tableRow? text with
    | some row =>
      let cells := row.cells.take columns.length
      let short := columns.length - cells.length
      { entry with
        leaf := some { leaf with
          kind := .table columns (missing + short)
          rows := (cells ++ List.replicate short []) :: leaf.rows }
        cursor := entry.cursor.toEnd }
    | none => entry
  | _ => entry

/-- The deepest nesting of lists that one line opens. -/
def maxListNesting : Nat := 100

/-- The blocks that the line opens, one container after the other. The line may still belong to a
paragraph it does not continue as long as `maybeLazy`, and then it opens no indented code. -/
def openBlocks : Nat → Nat → Bool → Entry → Entry
  | 0, _, _, entry => entry
  | fuel + 1, depth, maybeLazy, entry =>
    let cursor := entry.cursor
    let text := cursor.text
    if entry.growingLeaf?.any (·.isVerbatim) then entry
    else if cursor.isIndented then
      if maybeLazy || cursor.isBlank then entry
      else entry.openLeaf .indentedCode (cursor.advanceColumns 4)
    else if text.head? == some '>' then
      let inner := (cursor.advanceColumns (cursor.indent + 1)).skipColumn
      openBlocks fuel (depth + 1) false
        (entry.openFrame (.blocks .quote entry.line false []) inner)
    else if let some (level, rest) := hashHeading? text then
      entry.openLeaf (.heading level) ⟨dropClosingHashes rest, 0, false⟩
    else if let some (fence, length, rest) := openingFence? text then
      entry.openLeaf (.fencedCode fence length cursor.indentChars) ⟨rest, 0, false⟩
    else if let some kind := Html.opening? entry.inParagraph text then
      entry.openLeaf (.html kind) cursor
    else if let some (leaf, level) := entry.growingLeaf?.bind fun leaf =>
        if leaf.isParagraph then (underlineLevel? text).map fun level => (leaf, level) else none then
      underline entry leaf level
    else if isThematicBreak text then
      entry.openLeaf .thematicBreak cursor.toEnd
    else if let some (marker, markerWidth, _) :=
        if depth < maxListNesting then listMarker? entry.inParagraph text else none then
      let (padding, inner) := itemContent (cursor.toText.advanceChars markerWidth)
      openBlocks fuel (depth + 1) false
        (entry.openItem marker (cursor.indent + markerWidth + padding) inner)
    else match entry.growingLeaf? with
      | some leaf => openRow entry leaf
      | none => entry

/-- The container that the text of the line belongs to, ended by the line or not. -/
def markContainer (entry : Entry) (blank : Bool) : List Frame :=
  match entry.frames with
  | [] => []
  | frame :: outer =>
    let inhabited := !frame.isEmpty || !entry.pending.isEmpty || entry.leaf.isSome
    let blankEnd := blank && match frame with
      | .blocks .quote .. => false
      | .blocks (.item _) first _ _ => inhabited || first != entry.line
      | _ => true
    frame.setBlankEnd blankEnd :: outer.map (Frame.setBlankEnd false)

/-- A blank line ends the newest block of the container, which may be one that it closes. -/
def markNewest (entry : Entry) : Entry :=
  match entry.pending.reverse, entry.leaf with
  | outermost :: inner, _ =>
    { entry with pending := inner.reverse ++ [outermost.setBlankEnd true] }
  | [], some leaf => { entry with leaf := some { leaf with blankEnd := true } }
  | [], none =>
    match entry.frames with
    | frame :: outer => { entry with frames := frame.markLastBlank :: outer }
    | [] => entry

def finish (entry : Entry) : BlockChain :=
  { frames := entry.pending ++ entry.frames, leaf := entry.leaf, targets := entry.targets
    lineCount := entry.line }

def startParagraph (entry : Entry) : Entry :=
  let settled := entry.settle false false
  { settled with
    leaf := some {
      kind := .paragraph false, first := entry.line, lines := [entry.cursor.toText.content] } }

def addToLeaf (entry : Entry) (leaf : OpenLeaf) : BlockChain :=
  let blank := entry.cursor.isBlank
  let isRow := match leaf.kind with
    | .table .. => decide (leaf.rows.length > 1)
    | _ => false
  let leaf := { leaf with blankEnd := blank && leaf.marksBlank && !isRow }
  let entry : Entry := { entry with
    frames := entry.frames.map (Frame.setBlankEnd false), leaf := some leaf }
  match leaf.kind with
  | .indentedCode | .fencedCode .. =>
    finish { entry with leaf := some (leaf.addLine entry.cursor.content) }
  | .html kind =>
    let entry := { entry with leaf := some (leaf.addLine entry.cursor.content) }
    if kind.isClosedBy entry.cursor.text then finish (entry.settle false false) else finish entry
  | .paragraph _ | .heading _ =>
    if blank then finish entry
    else finish { entry with leaf := some (leaf.addLine entry.cursor.toText.content) }
  | .thematicBreak | .table .. => if blank then finish entry else finish entry.startParagraph

/-- What is left of the line goes to the innermost block that it continues or has opened, or to
the paragraph of a chain that it does not continue otherwise. -/
def addText (entry : Entry) : BlockChain :=
  match entry.growingLeaf? with
  | some leaf => addToLeaf entry leaf
  | none =>
    let blank := entry.cursor.isBlank
    let entry := { entry with frames := markContainer entry blank }
    if blank then finish ((markNewest entry).settle true false)
    else match entry.leaf with
      | some leaf =>
        if !entry.opened && leaf.isParagraph then
          finish { entry with leaf := some (leaf.addLine entry.cursor.content) }
        else finish entry.startParagraph
      | none => finish entry.startParagraph

end Entry

namespace BlockChain

/-- The containers that a line continues, innermost first, the others from the outside in, and
what is left of the line. -/
def continued (inhabited : Bool) : List Frame → Cursor → List Frame →
    List Frame × List Frame × Cursor
  | [], cursor, matched => (matched, [], cursor)
  | frame :: inner, cursor, matched =>
    match frame.continue? (!inner.isEmpty || inhabited) cursor with
    | some cursor => continued inhabited inner cursor (frame :: matched)
    | none => (matched, frame :: inner, cursor)

def addLine (chain : BlockChain) (line : List Char) : BlockChain :=
  let closing : Closing := ⟨chain.lineCount + 1, false⟩
  let (frames, pending, cursor) :=
    continued chain.leaf.isSome chain.frames.reverse ⟨line, 0, false⟩ []
  let entry : Entry := {
    closing, frames, pending := pending.reverse, leaf := chain.leaf, growing := false
    targets := chain.targets, cursor }
  let maybeLazy := chain.leaf.any (·.isParagraph)
  let enter (entry : Entry) : BlockChain :=
    (entry.openBlocks (line.length + 1) 1 maybeLazy).addText
  match pending, chain.leaf with
  | [], some leaf =>
    match leaf.fate cursor with
    | .continued cursor => enter { entry with growing := true, cursor }
    | .left => enter entry
    | .completed => (entry.settle true false).finish
  | _, _ => enter entry

def close (chain : BlockChain) : List Draft × LinkTargets :=
  let closing : Closing := ⟨chain.lineCount, true⟩
  let entry : Entry := {
    closing, frames := chain.frames.drop (chain.frames.length - 1)
    pending := chain.frames.take (chain.frames.length - 1), leaf := chain.leaf, growing := false
    targets := chain.targets, cursor := ⟨[], 0, false⟩ }
  let settled := entry.settle true false
  match settled.frames with
  | .blocks _ _ _ children :: _ => (children.reverse.map (·.draft), settled.targets)
  | _ => ([], settled.targets)

/-- The blocks and definitions of a text. A byte order mark at its start is dropped, and a null
character stands for the replacement character. -/
def read (text : List Char) : List Draft × LinkTargets :=
  let text := text.map fun c => if c == '\x00' then '\ufffd' else c
  let text := if text.head? == some '\ufeff' then text.drop 1 else text
  ((splitLines text).foldl addLine start).close

end BlockChain

end MarkdownOutline.Markdown
