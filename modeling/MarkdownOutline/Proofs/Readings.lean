import MarkdownOutline.Proofs.CodeGeometry

/-!
# What written blocks read as

A written block reads as a block of its kind. The blank lines between written blocks make the blocks
and items before them end with one.
-/

namespace MarkdownOutline

open Markdown Text

def Heading.reading (heading : Heading) : DraftLeaf :=
  match hashHeading? (heading.toText ++ ['\n']) with
  | some (level, rest) => .heading level (headingText rest)
  | none => .paragraph []

def Paragraph.reading (paragraph : Paragraph) : DraftLeaf :=
  .paragraph ((textLines paragraph.toText).flatMap paragraphLine)

def codeReading (info literal : String) : DraftLeaf :=
  if isWrittenIndented info literal then .code false [] literal.toList
  else .code true (OpenLeaf.fenceInfo (fenceText info)) literal.toList

mutual

def Block.reading (alternate : Bool) : Block → ClosedBlock
  | .heading h => ⟨.leaf h.reading ⟨0, 0⟩, false⟩
  | .paragraph p => ⟨.leaf p.reading ⟨0, 0⟩, false⟩
  | .list (.mk ordered start tight items _) =>
    .ofItems (readMarker ordered alternate start) (itemsReading tight [] items)
  | .other m span =>
    let leaf := match (Block.other m span).code? with
      | some (info, literal) => codeReading info literal
      | none => .thematicBreak
    ⟨.leaf leaf ⟨0, 0⟩, false⟩

/-- What the items read as, behind the items that were read before. The newest comes first. -/
def itemsReading (tight : Bool) (before : List ClosedItem) : List Item → List ClosedItem
  | [] => before
  | .mk children _ :: items =>
    let before := if tight then before else spacedNewestItem before
    itemsReading tight (.ofBlocks (blocksReading tight .nothing [] children) :: before) items

def blocksReading (tight : Bool) (preceding : Preceding) (before : List ClosedBlock) :
    List Block → List ClosedBlock
  | [] => before
  | block :: blocks =>
    let alternate := preceding.alternates block
    let before :=
      if (separatorLines preceding tight block).isEmpty then before else spacedNewest before
    blocksReading tight (.ofBlock alternate block) (block.reading alternate :: before) blocks

end

def itemsDrafts (tight : Bool) (items : List Item) : List DraftItem :=
  ((itemsReading tight [] items).map (·.item)).reverse

def blocksDrafts (tight : Bool) (preceding : Preceding) (blocks : List Block) : List Draft :=
  ((blocksReading tight preceding [] blocks).map (·.draft)).reverse

private theorem itemsReading_drafts (tight : Bool) (before : List ClosedItem)
    (items : List Item) :
    ((itemsReading tight before items).map (·.item)).reverse =
      (before.map (·.item)).reverse ++ itemsDrafts tight items := by
  have hspaced (items : List ClosedItem) :
      (if tight then items else spacedNewestItem items).map (·.item) = items.map (·.item) := by
    cases tight <;> cases items <;> rfl
  induction items generalizing before with
  | nil => simp [itemsReading, itemsDrafts]
  | cons item items ih =>
    obtain ⟨children, span⟩ := item
    simp only [itemsDrafts, itemsReading] at ih ⊢
    rw [ih, ih (ClosedItem.ofBlocks _ :: _), List.map_cons, List.map_cons, hspaced, hspaced]
    simp

@[simp] theorem itemsDrafts_nil (tight : Bool) : itemsDrafts tight [] = [] := rfl

@[simp] theorem itemsDrafts_cons (tight : Bool) (children : List Block) (span : Option Span)
    (items : List Item) :
    itemsDrafts tight (.mk children span :: items) =
      .mk (blocksDrafts tight .nothing children) ⟨0, 0⟩ :: itemsDrafts tight items := by
  have hspaced : (if tight then [] else spacedNewestItem []) = ([] : List ClosedItem) := by
    cases tight <;> rfl
  rw [itemsDrafts, itemsReading, hspaced, itemsReading_drafts]
  simp [ClosedItem.ofBlocks, blocksDrafts]

private theorem blocksReading_drafts (tight : Bool) (preceding : Preceding)
    (before : List ClosedBlock) (blocks : List Block) :
    ((blocksReading tight preceding before blocks).map (·.draft)).reverse =
      (before.map (·.draft)).reverse ++ blocksDrafts tight preceding blocks := by
  have hspaced (unspaced : Bool) (blocks : List ClosedBlock) :
      (if unspaced then blocks else spacedNewest blocks).map (·.draft) =
        blocks.map (·.draft) := by
    cases unspaced <;> cases blocks <;> rfl
  induction blocks generalizing preceding before with
  | nil => simp [blocksReading, blocksDrafts]
  | cons block blocks ih =>
    simp only [blocksDrafts, blocksReading] at ih ⊢
    rw [ih, ih _ (block.reading _ :: _), List.map_cons, List.map_cons, hspaced, hspaced]
    simp

@[simp] theorem blocksDrafts_nil (tight : Bool) (preceding : Preceding) :
    blocksDrafts tight preceding [] = [] := rfl

@[simp] theorem blocksDrafts_cons (tight : Bool) (preceding : Preceding) (block : Block)
    (blocks : List Block) :
    blocksDrafts tight preceding (block :: blocks) =
      (block.reading (preceding.alternates block)).draft ::
        blocksDrafts tight (.ofBlock (preceding.alternates block) block) blocks := by
  rw [blocksDrafts, blocksReading, blocksReading_drafts]
  cases (separatorLines preceding tight block).isEmpty <;> rfl

theorem Block.reading_list (alternate ordered tight : Bool) (start : Nat) (items : List Item)
    (span : Option Span) :
    ((Block.list (.mk ordered start tight items span)).reading alternate).draft =
      .list (readMarker ordered alternate start) (Frame.isTight (itemsReading tight [] items))
        (itemsDrafts tight items) ⟨0, 0⟩ := by
  simp [reading, ClosedBlock.ofItems, itemsDrafts]

theorem Block.reading_code (alternate fenced : Bool) (info literal : String) (span : Option Span) :
    (Block.other (.leaf (.codeBlock fenced info literal)) span).reading alternate =
      ⟨.leaf (codeReading info literal) ⟨0, 0⟩, false⟩ := rfl

def Document.reading (document : Document) : List Draft := blocksDrafts false .nothing document

end MarkdownOutline
