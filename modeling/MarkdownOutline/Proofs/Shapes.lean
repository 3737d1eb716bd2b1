import MarkdownOutline.Markdown.Reader
import MarkdownOutline.Proofs.OpenTail

/-!
# Shapes

The shape of a document is its structure without its text: the kinds of its blocks in their order
and nesting, the depths of headings, and what its lists are numbered by. The shape of what is read
is that of the drafts it is made of.
-/

namespace MarkdownOutline

open Markdown

/-- What a block is, but for its text, its place and the blank lines around it. A list is known by
its items and, if they are numbered, by the number of the first one. -/
inductive Shape where
  | heading (depth : Nat)
  | paragraph
  | list (start : Option Nat) (items : List (List Shape))
  | other

mutual

private def Shape.decEq : (a b : Shape) → Decidable (a = b)
  | .heading d, .heading e => decidable_of_iff (d = e) (by simp)
  | .paragraph, .paragraph | .other, .other => isTrue rfl
  | .list s items, .list t others =>
    have := decEqItems items others
    decidable_of_iff (s = t ∧ items = others) (by simp)
  | .heading _, .paragraph | .heading _, .list .. | .heading _, .other
  | .paragraph, .heading _ | .paragraph, .list .. | .paragraph, .other
  | .list .., .heading _ | .list .., .paragraph | .list .., .other
  | .other, .heading _ | .other, .paragraph | .other, .list .. => isFalse (by simp)

private def decEqShapes : (a b : List Shape) → Decidable (a = b)
  | [], [] => isTrue rfl
  | a :: as, b :: bs =>
    have := Shape.decEq a b
    have := decEqShapes as bs
    decidable_of_iff (a = b ∧ as = bs) (by simp)
  | [], _ :: _ | _ :: _, [] => isFalse (by simp)

private def decEqItems : (a b : List (List Shape)) → Decidable (a = b)
  | [], [] => isTrue rfl
  | a :: as, b :: bs =>
    have := decEqShapes a b
    have := decEqItems as bs
    decidable_of_iff (a = b ∧ as = bs) (by simp)
  | [], _ :: _ | _ :: _, [] => isFalse (by simp)

end

instance : DecidableEq Shape := Shape.decEq

mutual

def Block.shape : Block → Shape
  | .heading h => .heading h.depth
  | .paragraph _ => .paragraph
  | .list (.mk ordered start _ items _) =>
    .list (if ordered then some start else none) (itemsShape items)
  | .other .. => .other

def itemsShape : List Item → List (List Shape)
  | [] => []
  | .mk children _ :: items => blocksShape children :: itemsShape items

def blocksShape : List Block → List Shape
  | [] => []
  | block :: blocks => block.shape :: blocksShape blocks

end

def Document.shape (document : Document) : List Shape := blocksShape document

namespace Markdown

mutual

def Draft.shape : Draft → Shape
  | .leaf (.heading level _) _ => .heading level
  | .leaf (.paragraph _) _ => .paragraph
  | .leaf .. | .quote .. => .other
  | .list marker _ items _ =>
    .list (if marker.ordered then some marker.start else none) (draftItemsShape items)

def draftItemsShape : List DraftItem → List (List Shape)
  | [] => []
  | .mk children _ :: items => draftsShape children :: draftItemsShape items

def draftsShape : List Draft → List Shape
  | [] => []
  | draft :: drafts => draft.shape :: draftsShape drafts

end

mutual

theorem Draft.shape_unplaced (draft : Draft) : draft.unplaced.shape = draft.shape := by
  cases draft with
  | leaf leaf span => cases leaf <;> rfl
  | quote children span => rfl
  | list marker tight items span =>
    simp only [Draft.unplaced, Draft.shape, draftItemsShape_unplaced items]

theorem draftItemsShape_unplaced (items : List DraftItem) :
    draftItemsShape (itemsUnplaced items) = draftItemsShape items := by
  cases items with
  | nil => rfl
  | cons item items =>
    obtain ⟨children, span⟩ := item
    simp only [itemsUnplaced, DraftItem.unplaced, draftItemsShape, draftsShape_unplaced children,
      draftItemsShape_unplaced items]

theorem draftsShape_unplaced (drafts : List Draft) :
    draftsShape (draftsUnplaced drafts) = draftsShape drafts := by
  cases drafts with
  | nil => rfl
  | cons draft drafts =>
    simp only [draftsUnplaced, draftsShape, draft.shape_unplaced, draftsShape_unplaced drafts]

end

mutual

theorem Draft.shape_toBlock (draft : Draft) (references : References) :
    (draft.toBlock.run references).1.shape = draft.shape := by
  cases draft with
  | leaf leaf span => cases leaf <;> rfl
  | quote children span => rfl
  | list marker tight items span =>
    simp only [Draft.shape, ← itemsShape_itemsBlocks items references]
    rfl

theorem itemsShape_itemsBlocks (items : List DraftItem) (references : References) :
    itemsShape ((itemsBlocks items).run references).1 = draftItemsShape items := by
  cases items with
  | nil => rfl
  | cons item items =>
    obtain ⟨children, span⟩ := item
    rw [draftItemsShape, ← blocksShape_draftsBlocks children references,
      ← itemsShape_itemsBlocks items ((draftsBlocks children).run references).2]
    rfl

theorem blocksShape_draftsBlocks (drafts : List Draft) (references : References) :
    blocksShape ((draftsBlocks drafts).run references).1 = draftsShape drafts := by
  cases drafts with
  | nil => rfl
  | cons draft drafts =>
    rw [draftsShape, ← draft.shape_toBlock references,
      ← blocksShape_draftsBlocks drafts (draft.toBlock.run references).2]
    rfl

end

end Markdown

end MarkdownOutline
