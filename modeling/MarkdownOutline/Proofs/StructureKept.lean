import MarkdownOutline.Proofs.ReadBack
import MarkdownOutline.Proofs.Shapes

/-!
# Structure is kept

A document that fits is read back with the structure that it was written with. A list that starts
an item can do without fitting, and loses its structure.
-/

namespace MarkdownOutline

open Markdown

private theorem readMarker_number (ordered alternate : Bool) (number : Nat) :
    (if (readMarker ordered alternate number).ordered then
      some (readMarker ordered alternate number).start else none) =
      if ordered then some number else none := by
  cases ordered <;> cases alternate <;> rfl

theorem Heading.exists_reading_eq {heading : Heading} (h : heading.readsBack = true) :
    ∃ text, heading.reading = .heading heading.depth text := by
  simp only [readsBack, Bool.and_eq_true] at h
  cases hheading : hashHeading? (heading.toText ++ ['\n']) with
  | none => simp [hheading] at h
  | some found =>
    obtain ⟨level, rest⟩ := found
    obtain rfl : level = heading.depth := by simpa [hheading] using h.2
    exact ⟨headingText rest, by simp [reading, hheading]⟩

mutual

theorem Block.shape_reading (block : Block) {alternate : Bool} {depth first rest : Nat}
    (h : block.sits alternate depth first rest = true) :
    (block.reading alternate).draft.shape = block.shape := by
  cases block with
  | heading heading =>
    obtain ⟨text, htext⟩ := Heading.exists_reading_eq h
    simp only [Block.reading, htext, Draft.shape, Block.shape]
  | paragraph paragraph => rfl
  | list list =>
    obtain ⟨ordered, start, tight, items, span⟩ := list
    simp only [Block.sits, Bool.and_eq_true] at h
    rw [Block.reading_list, Draft.shape, readMarker_number, itemsShape_itemsDrafts items h.2,
      Block.shape]
  | other m span =>
    obtain ⟨fenced, info, literal, rfl, _⟩ := Block.sits_other h
    rw [Block.reading_code, codeReading]
    split <;> rfl

theorem itemsShape_itemsDrafts (items : List Item) {ordered alternate tight : Bool}
    {number depth first rest : Nat}
    (h : itemsSit ordered alternate tight number depth first rest items = true) :
    draftItemsShape (itemsDrafts tight items) = itemsShape items := by
  cases items with
  | nil => rfl
  | cons item items =>
    obtain ⟨children, span⟩ := item
    simp only [itemsSit, Bool.and_eq_true] at h
    obtain ⟨⟨⟨_, hchildren⟩, _⟩, hitems⟩ := h
    rw [itemsDrafts_cons, draftItemsShape, blocksShape_blocksDrafts children hchildren,
      itemsShape_itemsDrafts items hitems, itemsShape]

theorem blocksShape_blocksDrafts (blocks : List Block) {tight : Bool} {preceding : Preceding}
    {afterParagraph : Bool} {depth first rest : Nat}
    (h : blocksSit tight preceding afterParagraph depth first rest blocks = true) :
    draftsShape (blocksDrafts tight preceding blocks) = blocksShape blocks := by
  cases blocks with
  | nil => rfl
  | cons block blocks =>
    simp only [blocksSit, Bool.and_eq_true] at h
    obtain ⟨⟨⟨hblock, _⟩, _⟩, hblocks⟩ := h
    rw [blocksDrafts_cons, draftsShape, block.shape_reading hblock,
      blocksShape_blocksDrafts blocks hblocks, blocksShape]

end

/-- The text of a document that sits has the structure of the document. -/
theorem Document.shape_reparsed {document : Document} (h : document.sits = true) :
    (ofMarkdown document.toMarkdown).shape = document.shape := by
  have hread := (read_toMarkdown h).1
  rw [← draftsUnplaced_eq_map] at hread
  rw [shape, shape, ← blocksShape_blocksDrafts document h,
    show blocksDrafts false .nothing document = document.reading from rfl, ← hread,
    draftsShape_unplaced]
  exact blocksShape_draftsBlocks _ _

/-- The text of a document that fits has the structure of the document. -/
theorem Document.shape_ofMarkdown_toMarkdown (document : Document) (h : document.fits = true) :
    (ofMarkdown document.toMarkdown).shape = document.shape := shape_reparsed (sits_of_fits h)

theorem Document.shape_ofMarkdown_toMarkdown_nested :
    (ofMarkdown "## A\n\n- a\n  1. b\n- c\n").fits = true ∧
      (ofMarkdown (ofMarkdown "## A\n\n- a\n  1. b\n- c\n").toMarkdown).shape =
        (ofMarkdown "## A\n\n- a\n  1. b\n- c\n").shape :=
  have h : (ofMarkdown "## A\n\n- a\n  1. b\n- c\n").fits = true := by decide +kernel
  ⟨h, shape_ofMarkdown_toMarkdown _ h⟩

/-- The second item of a list that starts an item is written so far to the right that it reads as
part of the first one. -/
theorem Document.shape_ofMarkdown_toMarkdown_ne :
    (ofMarkdown (ofMarkdown "- - a\n  - b\n").toMarkdown).shape ≠
      (ofMarkdown "- - a\n  - b\n").shape := by decide +kernel

end MarkdownOutline
