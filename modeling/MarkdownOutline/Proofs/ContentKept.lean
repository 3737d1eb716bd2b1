import MarkdownOutline.Markdown.Reader
import MarkdownOutline.Proofs.ReadBack

/-!
# Content is kept

A document is read back as it was written, but for the places of its blocks, if it fits, the text of
each heading and paragraph reads as its content and each list is as tight as it looks.
-/

namespace MarkdownOutline

open Markdown

mutual

def Block.withoutSpans : Block → Block
  | .heading h => .heading { h with span := none }
  | .paragraph p => .paragraph { p with span := none }
  | .list (.mk ordered start tight items _) =>
    .list (.mk ordered start tight (itemsWithoutSpans items) none)
  | .other m _ => .other m none

def itemsWithoutSpans : List Item → List Item
  | [] => []
  | .mk children _ :: items => .mk (blocksWithoutSpans children) none :: itemsWithoutSpans items

def blocksWithoutSpans : List Block → List Block
  | [] => []
  | block :: blocks => block.withoutSpans :: blocksWithoutSpans blocks

end

/-- The document without the places of its blocks. -/
def Document.withoutSpans (document : Document) : Document := blocksWithoutSpans document

theorem Preceding.alternates_withoutSpans (preceding : Preceding) (block : Block) :
    preceding.alternates block.withoutSpans = preceding.alternates block := by
  cases block with
  | list list => cases list; rfl
  | _ => rfl

theorem Preceding.ofBlock_withoutSpans (alternate : Bool) (block : Block) :
    Preceding.ofBlock alternate block.withoutSpans = .ofBlock alternate block := by
  cases block with
  | list list => cases list; rfl
  | _ => rfl

private theorem blockSeparator_withoutSpans (preceding : Preceding) (tight : Bool)
    (block : Block) :
    blockSeparator preceding tight block.withoutSpans = blockSeparator preceding tight block := by
  cases block with
  | list list => cases list; rfl
  | _ => rfl

mutual

theorem Block.writeBlock_withoutSpans (alternate : Bool) (block : Block) :
    writeBlock alternate block.withoutSpans = writeBlock alternate block := by
  cases block with
  | heading heading => rfl
  | paragraph paragraph => rfl
  | list list =>
    obtain ⟨ordered, start, tight, items, span⟩ := list
    simp only [Block.withoutSpans, writeBlock, writeList, writeItems_withoutSpans]
  | other m span => rfl

theorem writeItems_withoutSpans (ordered alternate tight : Bool) (number : Nat)
    (items : List Item) :
    writeItems ordered alternate tight number (itemsWithoutSpans items) =
      writeItems ordered alternate tight number items := by
  cases items with
  | nil => rfl
  | cons item items =>
    obtain ⟨children, span⟩ := item
    have hrest := writeItems_withoutSpans ordered alternate tight (number + 1) items
    cases items with
    | nil => simp only [itemsWithoutSpans, writeItems, writeBlocks_withoutSpans]
    | cons next items =>
      obtain ⟨others, span'⟩ := next
      simp only [itemsWithoutSpans] at hrest
      simp only [itemsWithoutSpans, writeItems, writeBlocks_withoutSpans] at hrest ⊢
      rw [hrest]

theorem writeBlocks_withoutSpans (tight : Bool) (preceding : Preceding) (blocks : List Block) :
    writeBlocks tight preceding (blocksWithoutSpans blocks) =
      writeBlocks tight preceding blocks := by
  cases blocks with
  | nil => rfl
  | cons block blocks =>
    simp only [blocksWithoutSpans, writeBlocks, preceding.alternates_withoutSpans,
      block.writeBlock_withoutSpans, Preceding.ofBlock_withoutSpans, blockSeparator_withoutSpans,
      writeBlocks_withoutSpans _ _ blocks]

end

theorem Document.toMarkdown_withoutSpans (document : Document) :
    document.withoutSpans.toMarkdown = document.toMarkdown := by
  rw [toMarkdown, withoutSpans, writeBlocks_withoutSpans, toMarkdown]

namespace Markdown

mutual

theorem Draft.toMarkup_unplaced (draft : Draft) : draft.unplaced.toMarkup = draft.toMarkup := by
  cases draft with
  | leaf leaf span => rfl
  | quote children span =>
    simp only [Draft.unplaced, Draft.toMarkup, draftsMarkup_unplaced children]
  | list marker tight items span =>
    simp only [Draft.unplaced, Draft.toMarkup, itemsMarkup_unplaced items]

private theorem draftsMarkup_unplaced (drafts : List Draft) :
    draftsMarkup (draftsUnplaced drafts) = draftsMarkup drafts := by
  cases drafts with
  | nil => rfl
  | cons draft drafts =>
    simp only [draftsUnplaced, draftsMarkup, draft.toMarkup_unplaced,
      draftsMarkup_unplaced drafts]

private theorem itemsMarkup_unplaced (items : List DraftItem) :
    itemsMarkup (itemsUnplaced items) = itemsMarkup items := by
  cases items with
  | nil => rfl
  | cons item items =>
    obtain ⟨children, span⟩ := item
    simp only [itemsUnplaced, DraftItem.unplaced, itemsMarkup, DraftItem.toMarkup,
      draftsMarkup_unplaced children, itemsMarkup_unplaced items]

end

private theorem run_draftsBlocks_cons (draft : Draft) (drafts : List Draft)
    (references : References) :
    (draftsBlocks (draft :: drafts)).run references =
      let own := draft.toBlock.run references
      let others := (draftsBlocks drafts).run own.2
      (own.1 :: others.1, others.2) := rfl

private theorem run_itemsBlocks_cons (children : List Draft) (span : Span)
    (items : List DraftItem) (references : References) :
    (itemsBlocks (.mk children span :: items)).run references =
      let own := (draftsBlocks children).run references
      let others := (itemsBlocks items).run own.2
      (.mk own.1 (some span) :: others.1, others.2) := rfl

private theorem run_toBlock_heading (level : Nat) (text : List Char) (span : Span)
    (references : References) :
    (Draft.leaf (.heading level text) span).toBlock.run references =
      let own := (readContent text).run references
      (.heading ⟨level, own.1, some span⟩, own.2) := rfl

private theorem run_toBlock_paragraph (text : List Char) (span : Span)
    (references : References) :
    (Draft.leaf (.paragraph text) span).toBlock.run references =
      let own := (readContent text).run references
      (.paragraph ⟨own.1, some span⟩, own.2) := rfl

private theorem run_toBlock_list (marker : ListMarker) (tight : Bool) (items : List DraftItem)
    (span : Span) (references : References) :
    (Draft.list marker tight items span).toBlock.run references =
      let own := (itemsBlocks items).run references
      (.list (.mk marker.ordered marker.start tight own.1 (some span)), own.2) := rfl

mutual

theorem Draft.toBlock_unplaced (draft : Draft) (references : References) :
    (draft.unplaced.toBlock.run references).1.withoutSpans =
        (draft.toBlock.run references).1.withoutSpans ∧
      (draft.unplaced.toBlock.run references).2 = (draft.toBlock.run references).2 := by
  cases draft with
  | leaf leaf span => cases leaf <;> exact ⟨rfl, rfl⟩
  | quote children span =>
    have hmarkup := Draft.toMarkup_unplaced (.quote children span)
    simp only [Draft.unplaced] at hmarkup
    simp only [Draft.unplaced, Draft.toBlock, hmarkup]
    exact ⟨rfl, rfl⟩
  | list marker tight items span =>
    obtain ⟨hitems, hreferences⟩ := itemsBlocks_unplaced items references
    simp only [Draft.unplaced, run_toBlock_list, Block.withoutSpans, hitems, hreferences, and_self]

theorem draftsBlocks_unplaced (drafts : List Draft) (references : References) :
    blocksWithoutSpans ((draftsBlocks (draftsUnplaced drafts)).run references).1 =
        blocksWithoutSpans ((draftsBlocks drafts).run references).1 ∧
      ((draftsBlocks (draftsUnplaced drafts)).run references).2 =
        ((draftsBlocks drafts).run references).2 := by
  cases drafts with
  | nil => exact ⟨rfl, rfl⟩
  | cons draft drafts =>
    obtain ⟨hblock, hreferences⟩ := draft.toBlock_unplaced references
    obtain ⟨hblocks, hrest⟩ := draftsBlocks_unplaced drafts (draft.toBlock.run references).2
    simp only [draftsUnplaced, run_draftsBlocks_cons, blocksWithoutSpans, hblock, hreferences,
      hblocks, hrest, and_self]

theorem itemsBlocks_unplaced (items : List DraftItem) (references : References) :
    itemsWithoutSpans ((itemsBlocks (itemsUnplaced items)).run references).1 =
        itemsWithoutSpans ((itemsBlocks items).run references).1 ∧
      ((itemsBlocks (itemsUnplaced items)).run references).2 =
        ((itemsBlocks items).run references).2 := by
  cases items with
  | nil => exact ⟨rfl, rfl⟩
  | cons item items =>
    obtain ⟨children, span⟩ := item
    obtain ⟨hblocks, hreferences⟩ := draftsBlocks_unplaced children references
    obtain ⟨hitems, hrest⟩ :=
      itemsBlocks_unplaced items ((draftsBlocks children).run references).2
    simp only [itemsUnplaced, DraftItem.unplaced, run_itemsBlocks_cons, itemsWithoutSpans, hblocks,
      hreferences, hitems, hrest, and_self]

end

end Markdown

mutual

private def Markup.decEq : (a b : Markup) → Decidable (a = b)
  | .node kind children, .node kind' children' =>
    have := decEqMarkups children children'
    decidable_of_iff (kind = kind' ∧ children = children') (by simp)

private def decEqMarkups : (a b : List Markup) → Decidable (a = b)
  | [], [] => isTrue rfl
  | a :: as, b :: bs =>
    have := Markup.decEq a b
    have := decEqMarkups as bs
    decidable_of_iff (a = b ∧ as = bs) (by simp)
  | [], _ :: _ | _ :: _, [] => isFalse (by simp)

end

instance : DecidableEq Markup := Markup.decEq

deriving instance DecidableEq for Inline

deriving instance DecidableEq for Markdown.LinkTarget

deriving instance DecidableEq for Markdown.References

/-- With some room for references the text reads as the content. -/
def readsAsContent (room : Nat) (text : List Char) (content : List Inline) : Bool :=
  let read : List Inline × References := (readContent text).run ⟨[], room⟩
  read = (content, ⟨[], room⟩)

mutual

/-- The lines of the block read as its content, and lists are as tight as they look. -/
def Block.recovers (room : Nat) : Block → Bool
  | .heading h =>
    match h.reading with
    | .heading level text => level == h.depth && readsAsContent room text h.content
    | _ => false
  | .paragraph p =>
    match p.reading with
    | .paragraph text => readsAsContent room text p.content
    | _ => false
  | .list (.mk ordered start tight items _) =>
    (ordered || start == 1) && Frame.isTight (itemsReading tight [] items) == tight &&
      itemsRecover room items
  | .other .. => false

def itemsRecover (room : Nat) : List Item → Bool
  | [] => true
  | .mk children _ :: items => blocksRecover room children && itemsRecover room items

def blocksRecover (room : Nat) : List Block → Bool
  | [] => true
  | block :: blocks => block.recovers room && blocksRecover room blocks

end

mutual

theorem Block.toBlock_reading (block : Block) {room : Nat} (h : block.recovers room = true)
    (alternate : Bool) :
    ((block.reading alternate).draft.toBlock.run ⟨[], room⟩).1.withoutSpans = block.withoutSpans ∧
      ((block.reading alternate).draft.toBlock.run ⟨[], room⟩).2 = ⟨[], room⟩ := by
  cases block with
  | heading heading =>
    unfold Block.recovers at h
    split at h
    next level text htext =>
      simp only [Bool.and_eq_true, beq_iff_eq, readsAsContent, decide_eq_true_eq] at h
      rw [Block.reading, htext, run_toBlock_heading, h.1, h.2]
      exact ⟨rfl, rfl⟩
    next => simp at h
  | paragraph paragraph =>
    simp only [Block.recovers, Paragraph.reading, readsAsContent, decide_eq_true_eq] at h
    rw [Block.reading, Paragraph.reading, run_toBlock_paragraph, h]
    exact ⟨rfl, rfl⟩
  | list list =>
    obtain ⟨ordered, start, tight, items, span⟩ := list
    simp only [Block.recovers, Bool.and_eq_true, Bool.or_eq_true, beq_iff_eq] at h
    obtain ⟨⟨hstart, htight⟩, hrecover⟩ := h
    obtain ⟨hitems, hreferences⟩ := itemsBlocks_itemsDrafts items hrecover tight
    have hnumber : (readMarker ordered alternate start).start = start := by
      cases ordered with
      | true => cases alternate <;> rfl
      | false =>
        obtain rfl : start = 1 := by simpa using hstart
        cases alternate <;> rfl
    simp only [Block.reading_list, run_toBlock_list, Block.withoutSpans, readMarker_ordered,
      hnumber, htight, hitems, hreferences, and_self]
  | other m span => simp [Block.recovers] at h

theorem itemsBlocks_itemsDrafts (items : List Item) {room : Nat}
    (h : itemsRecover room items = true) (tight : Bool) :
    itemsWithoutSpans ((itemsBlocks (itemsDrafts tight items)).run ⟨[], room⟩).1 =
        itemsWithoutSpans items ∧
      ((itemsBlocks (itemsDrafts tight items)).run ⟨[], room⟩).2 = ⟨[], room⟩ := by
  cases items with
  | nil => exact ⟨rfl, rfl⟩
  | cons item items =>
    obtain ⟨children, span⟩ := item
    simp only [itemsRecover, Bool.and_eq_true] at h
    obtain ⟨hblocks, hreferences⟩ := draftsBlocks_blocksDrafts children h.1 tight .nothing
    obtain ⟨hitems, hrest⟩ := itemsBlocks_itemsDrafts items h.2 tight
    simp only [itemsDrafts_cons, run_itemsBlocks_cons, itemsWithoutSpans, hblocks, hreferences,
      hitems, hrest, and_self]

theorem draftsBlocks_blocksDrafts (blocks : List Block) {room : Nat}
    (h : blocksRecover room blocks = true) (tight : Bool) (preceding : Preceding) :
    blocksWithoutSpans ((draftsBlocks (blocksDrafts tight preceding blocks)).run ⟨[], room⟩).1 =
        blocksWithoutSpans blocks ∧
      ((draftsBlocks (blocksDrafts tight preceding blocks)).run ⟨[], room⟩).2 = ⟨[], room⟩ := by
  cases blocks with
  | nil => exact ⟨rfl, rfl⟩
  | cons block blocks =>
    simp only [blocksRecover, Bool.and_eq_true] at h
    obtain ⟨hblock, hreferences⟩ := block.toBlock_reading h.1 (preceding.alternates block)
    obtain ⟨hblocks, hrest⟩ := draftsBlocks_blocksDrafts blocks h.2 tight
      (.ofBlock (preceding.alternates block) block)
    simp only [blocksDrafts_cons, run_draftsBlocks_cons, blocksWithoutSpans, hblock, hreferences,
      hblocks, hrest, and_self]

end

/-- The document fits, and its blocks recover where its text has no definitions. -/
def Document.readsBack (document : Document) : Bool :=
  document.fits && blocksRecover (References.ofText [] document.toMarkdown).room document

/-- The text of a document that reads back is that document, but for places. -/
theorem Document.withoutSpans_ofMarkdown_toMarkdown {document : Document}
    (h : document.readsBack = true) :
    (ofMarkdown document.toMarkdown).withoutSpans = document.withoutSpans := by
  simp only [readsBack, Bool.and_eq_true] at h
  obtain ⟨hdrafts, htargets⟩ := read_toMarkdown (sits_of_fits h.1)
  obtain ⟨hblocks, _⟩ := draftsBlocks_blocksDrafts document h.2 false .nothing
  unfold ofMarkdown withoutSpans
  generalize BlockChain.read document.toMarkdown.toList = read at hdrafts htargets ⊢
  obtain ⟨drafts, targets⟩ := read
  simp only at hdrafts htargets ⊢
  subst htargets
  rw [← draftsUnplaced_eq_map] at hdrafts
  rw [← hblocks, show blocksDrafts false .nothing document = document.reading from rfl, ← hdrafts]
  exact (draftsBlocks_unplaced drafts _).1.symm

end MarkdownOutline
