import MarkdownOutline.Proofs.StructureKept

/-!
# Lists without items

A list without items is written as nothing, and its neighbours are written as if it were not there.
A document reads back without such lists.
-/

namespace MarkdownOutline

open Markdown

def Block.isEmptyList (block : Block) : Bool := block.list?.any (·.items.isEmpty)

mutual

def Block.withoutEmptyLists : Block → Block
  | .list (.mk ordered start tight items span) =>
    .list (.mk ordered start tight (itemsWithoutEmptyLists items) span)
  | block => block

def itemsWithoutEmptyLists : List Item → List Item
  | [] => []
  | .mk children span :: items =>
    .mk (blocksWithoutEmptyLists children) span :: itemsWithoutEmptyLists items

def blocksWithoutEmptyLists : List Block → List Block
  | [] => []
  | block :: blocks =>
    if block.isEmptyList then blocksWithoutEmptyLists blocks
    else block.withoutEmptyLists :: blocksWithoutEmptyLists blocks

end

/-- The document without the lists that have no items. -/
def Document.withoutEmptyLists (document : Document) : Document := blocksWithoutEmptyLists document

theorem Block.writeBlock_of_isEmptyList {block : Block} (h : block.isEmptyList = true)
    (alternate : Bool) : writeBlock alternate block = [] := by
  cases block with
  | list list =>
    obtain ⟨ordered, start, tight, items, span⟩ := list
    obtain rfl : items = [] := by
      simpa [isEmptyList, Block.list?, ListBlock.items] using h
    rfl
  | _ => simp [isEmptyList, Block.list?] at h

private theorem Preceding.alternates_withoutEmptyLists (preceding : Preceding) (block : Block) :
    preceding.alternates block.withoutEmptyLists = preceding.alternates block := by
  cases block with
  | list list => cases list; rfl
  | _ => rfl

private theorem Preceding.ofBlock_withoutEmptyLists (alternate : Bool) (block : Block) :
    Preceding.ofBlock alternate block.withoutEmptyLists = .ofBlock alternate block := by
  cases block with
  | list list => cases list; rfl
  | _ => rfl

private theorem blockSeparator_withoutEmptyLists (preceding : Preceding) (tight : Bool)
    (block : Block) :
    blockSeparator preceding tight block.withoutEmptyLists =
      blockSeparator preceding tight block := by
  cases block with
  | list list => cases list; rfl
  | _ => rfl

mutual

theorem Block.writeBlock_withoutEmptyLists (alternate : Bool) (block : Block) :
    writeBlock alternate block.withoutEmptyLists = writeBlock alternate block := by
  cases block with
  | list list =>
    obtain ⟨ordered, start, tight, items, span⟩ := list
    simp only [Block.withoutEmptyLists, writeBlock, writeList, writeItems_withoutEmptyLists]
  | _ => rfl

theorem writeItems_withoutEmptyLists (ordered alternate tight : Bool) (number : Nat)
    (items : List Item) :
    writeItems ordered alternate tight number (itemsWithoutEmptyLists items) =
      writeItems ordered alternate tight number items := by
  cases items with
  | nil => rfl
  | cons item items =>
    obtain ⟨children, span⟩ := item
    have hrest := writeItems_withoutEmptyLists ordered alternate tight (number + 1) items
    cases items with
    | nil => simp only [itemsWithoutEmptyLists, writeItems, writeBlocks_withoutEmptyLists]
    | cons next items =>
      obtain ⟨others, span'⟩ := next
      simp only [itemsWithoutEmptyLists] at hrest
      simp only [itemsWithoutEmptyLists, writeItems, writeBlocks_withoutEmptyLists] at hrest ⊢
      rw [hrest]

theorem writeBlocks_withoutEmptyLists (tight : Bool) (preceding : Preceding)
    (blocks : List Block) :
    writeBlocks tight preceding (blocksWithoutEmptyLists blocks) =
      writeBlocks tight preceding blocks := by
  cases blocks with
  | nil => rfl
  | cons block blocks =>
    by_cases hempty : block.isEmptyList = true
    · simp only [blocksWithoutEmptyLists, writeBlocks, hempty, if_true,
        Block.writeBlock_of_isEmptyList hempty, List.isEmpty_nil,
        writeBlocks_withoutEmptyLists tight preceding blocks]
    · simp only [blocksWithoutEmptyLists, writeBlocks, hempty, Bool.false_eq_true, if_false,
        preceding.alternates_withoutEmptyLists, block.writeBlock_withoutEmptyLists,
        Preceding.ofBlock_withoutEmptyLists, blockSeparator_withoutEmptyLists,
        writeBlocks_withoutEmptyLists _ _ blocks]

end

/-- Lists without items make no difference to what is written. -/
theorem Document.toMarkdown_withoutEmptyLists (document : Document) :
    document.withoutEmptyLists.toMarkdown = document.toMarkdown := by
  rw [toMarkdown, withoutEmptyLists, writeBlocks_withoutEmptyLists, toMarkdown]

/-- A document is read back with its structure, but for lists without items, if it sits without
them. -/
theorem Document.shape_reparsed_withoutEmptyLists {document : Document}
    (h : document.withoutEmptyLists.sits = true) :
    (ofMarkdown document.toMarkdown).shape = document.withoutEmptyLists.shape := by
  rw [← toMarkdown_withoutEmptyLists]
  exact shape_reparsed h

private theorem Block.isEmptyList_of_sits {alternate : Bool} {depth first rest : Nat}
    {block : Block} (h : block.sits alternate depth first rest = true) :
    block.isEmptyList = false := by
  cases block with
  | list list =>
    obtain ⟨ordered, start, tight, items, span⟩ := list
    simp only [sits, Bool.and_eq_true, Bool.not_eq_true'] at h
    exact h.1
  | _ => rfl

mutual

theorem Block.withoutEmptyLists_of_sits (block : Block) {alternate : Bool} {depth first rest : Nat}
    (h : block.sits alternate depth first rest = true) : block.withoutEmptyLists = block := by
  cases block with
  | list list =>
    obtain ⟨ordered, start, tight, items, span⟩ := list
    simp only [Block.sits, Bool.and_eq_true] at h
    rw [Block.withoutEmptyLists, itemsWithoutEmptyLists_of_itemsSit items h.2]
  | _ => rfl

theorem itemsWithoutEmptyLists_of_itemsSit (items : List Item) {ordered alternate tight : Bool}
    {number depth first rest : Nat}
    (h : itemsSit ordered alternate tight number depth first rest items = true) :
    itemsWithoutEmptyLists items = items := by
  cases items with
  | nil => rfl
  | cons item items =>
    obtain ⟨children, span⟩ := item
    simp only [itemsSit, Bool.and_eq_true] at h
    rw [itemsWithoutEmptyLists, blocksWithoutEmptyLists_of_blocksSit children h.1.1.2,
      itemsWithoutEmptyLists_of_itemsSit items h.2]

theorem blocksWithoutEmptyLists_of_blocksSit (blocks : List Block) {tight : Bool}
    {preceding : Preceding} {afterParagraph : Bool} {depth first rest : Nat}
    (h : blocksSit tight preceding afterParagraph depth first rest blocks = true) :
    blocksWithoutEmptyLists blocks = blocks := by
  cases blocks with
  | nil => rfl
  | cons block blocks =>
    simp only [blocksSit, Bool.and_eq_true] at h
    rw [blocksWithoutEmptyLists, Block.isEmptyList_of_sits h.1.1.1, if_neg (by simp),
      block.withoutEmptyLists_of_sits h.1.1.1, blocksWithoutEmptyLists_of_blocksSit blocks h.2]

end

theorem blocksWithoutEmptyLists_append (first second : List Block) :
    blocksWithoutEmptyLists (first ++ second) =
      blocksWithoutEmptyLists first ++ blocksWithoutEmptyLists second := by
  induction first with
  | nil => rfl
  | cons block first ih =>
    simp only [List.cons_append, blocksWithoutEmptyLists, ih]
    split <;> rfl

theorem blocksWithoutEmptyLists_of_forall_sits {blocks : List Block} {depth first rest : Nat}
    (h : ∀ block ∈ blocks, ∃ alternate, block.sits alternate depth first rest = true) :
    blocksWithoutEmptyLists blocks = blocks := by
  induction blocks with
  | nil => rfl
  | cons block blocks ih =>
    obtain ⟨⟨alternate, hblock⟩, hblocks⟩ := List.forall_mem_cons.mp h
    rw [blocksWithoutEmptyLists, Block.isEmptyList_of_sits hblock, if_neg (by simp),
      block.withoutEmptyLists_of_sits hblock, ih hblocks]

end MarkdownOutline
