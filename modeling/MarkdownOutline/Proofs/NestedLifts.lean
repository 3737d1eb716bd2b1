import MarkdownOutline.Outline.Lift
import Mathlib.Data.List.Forall2

/-!
# Lists as sections by their nesting

A list is lifted in rounds, each of which rewrites the whole sequence of blocks that the rounds
before it have made. The outcome is that of one descent into the list: an item's first paragraph is
a heading at the depth of the item's nesting, and what follows it stands where it stood.
-/

namespace MarkdownOutline

def liftNested (lift : ListBlock → List Block) : Block → List Block
  | .list nested => lift nested
  | block => [block]

/-- The list with a number of its levels as sections, the first of them at a depth: each item is a
heading if it starts with a paragraph, followed by its other blocks, and the lists among these are
sections one level deeper. A list below the last level stays. -/
def ListBlock.asSections : Nat → Nat → ListBlock → List Block
  | 0, _, list => [.list list]
  | levels + 1, depth, list =>
    list.items.flatMap fun item =>
      match item.children with
      | .paragraph title :: rest =>
        .heading { depth, content := title.content } ::
          rest.flatMap (liftNested (asSections levels (depth + 1)))
      | children => children.flatMap (liftNested (asSections levels (depth + 1)))

/-- The blocks that the items of a number of levels hold, in order. A list below the last level is
not opened. -/
def ListBlock.opened : Nat → ListBlock → List Block
  | 0, list => [.list list]
  | levels + 1, list =>
    list.items.flatMap fun item => item.children.flatMap (liftNested (opened levels))

/-- The block itself, or if it is a paragraph a heading with the same content at one of a number of
depths. -/
def Block.IsLifted (depth levels : Nat) (block lifted : Block) : Prop :=
  lifted = block ∨ ∃ p : Paragraph, ∃ h : Heading, block = .paragraph p ∧ lifted = .heading h ∧
    h.content = p.content ∧ depth ≤ h.depth ∧ h.depth < depth + levels

theorem asSections_zero (depth : Nat) : ListBlock.asSections 0 depth = fun list => [.list list] := by
  funext list
  rw [ListBlock.asSections]

theorem asSections_succ (levels depth : Nat) (list : ListBlock) :
    list.asSections (levels + 1) depth =
      (list.items.flatMap (liftItem depth)).flatMap
        (liftNested (ListBlock.asSections levels (depth + 1))) := by
  rw [ListBlock.asSections, List.flatMap_assoc]
  apply List.flatMap_congr
  intro item _
  obtain ⟨children, span⟩ := item
  cases children with
  | nil => rfl
  | cons first rest => cases first <;> rfl

/-- Rounds over a sequence of blocks are rounds over each of them. -/
theorem liftRounds_eq_flatMap (rounds depth : Nat) (blocks : List Block) :
    liftRounds rounds depth blocks =
      blocks.flatMap (liftNested (ListBlock.asSections rounds depth)) := by
  induction rounds generalizing depth blocks with
  | zero =>
    have hsame : liftNested (fun list => [.list list]) = fun block => [block] := by
      funext block
      cases block <;> rfl
    rw [asSections_zero, hsame, List.flatMap_singleton']
    rfl
  | succ rounds ih =>
    rw [liftRounds, ih, liftRound, List.flatMap_assoc]
    apply List.flatMap_congr
    intro block _
    cases block with
    | list l => exact (asSections_succ rounds depth l).symm
    | _ => exact List.flatMap_singleton _ _

theorem Block.IsLifted.mono {depth levels depth' levels' : Nat} {block lifted : Block}
    (h : block.IsLifted depth levels lifted) (hlow : depth' ≤ depth)
    (hhigh : depth + levels ≤ depth' + levels') : block.IsLifted depth' levels' lifted := by
  obtain rfl | ⟨p, g, rfl, rfl, hcontent, hdepth, hless⟩ := h
  · exact .inl rfl
  · exact .inr ⟨p, g, rfl, rfl, hcontent, by omega, by omega⟩

theorem ListBlock.forall₂_opened_asSections (levels depth : Nat) (list : ListBlock) :
    List.Forall₂ (Block.IsLifted depth levels) (list.opened levels)
      (list.asSections levels depth) := by
  induction levels generalizing depth list with
  | zero => exact .cons (.inl rfl) .nil
  | succ levels ih =>
    have hnested (block : Block) : List.Forall₂ (Block.IsLifted depth (levels + 1))
        (liftNested (opened levels) block) (liftNested (asSections levels (depth + 1)) block) := by
      cases block with
      | list l =>
        apply (ih (depth + 1) l).imp
        intro block lifted hlifted
        exact hlifted.mono (by omega) (by omega)
      | _ => exact .cons (.inl rfl) .nil
    have hblocks (blocks : List Block) : List.Forall₂ (Block.IsLifted depth (levels + 1))
        (blocks.flatMap (liftNested (opened levels)))
        (blocks.flatMap (liftNested (asSections levels (depth + 1)))) := by
      apply List.rel_flatMap (R := Eq) (List.forall₂_refl blocks)
      rintro block _ rfl
      exact hnested block
    apply List.rel_flatMap (R := Eq) (List.forall₂_refl list.items)
    rintro item _ rfl
    obtain ⟨children, span⟩ := item
    cases children with
    | nil => exact .nil
    | cons first rest =>
      cases first with
      | paragraph p =>
        refine .cons (.inr ⟨p, _, rfl, rfl, rfl, ?_, ?_⟩) (hblocks rest)
        · exact Nat.le_refl depth
        · exact Nat.lt_add_of_pos_right (Nat.succ_pos levels)
      | _ => exact hblocks _

/-- The rounds of lifting give what the nesting of the list tells, for as many levels as there are
depths left. So the blocks that these levels hold are kept in order, each of them once, and only the
paragraphs among them turn into headings. -/
theorem ListBlock.toHeadings_eq_asSections (list : ListBlock) (depth count : Nat) :
    list.toHeadings depth count =
        list.asSections (min count (maxHeadingDepth - (max depth 1 - 1))) (max depth 1) ∧
      List.Forall₂
        (Block.IsLifted (max depth 1) (min count (maxHeadingDepth - (max depth 1 - 1))))
        (list.opened (min count (maxHeadingDepth - (max depth 1 - 1))))
        (list.toHeadings depth count) := by
  have hlift : list.toHeadings depth count =
      list.asSections (min count (maxHeadingDepth - (max depth 1 - 1))) (max depth 1) := by
    rw [toHeadings, liftRounds_eq_flatMap, List.flatMap_singleton]
    rfl
  rw [hlift]
  exact ⟨rfl, list.forall₂_opened_asSections _ _⟩

/-- A list that starts an item is lifted a level deeper, although no heading stands above it. -/
example :
    (ListBlock.numbered [.mk [.list (.numbered [.mk [.paragraph (.ofText "b")] none])] none,
        .mk [] none, .mk [.paragraph (.ofText "a"), .paragraph (.ofText "c")] none]).toHeadings 1 2 =
      [.heading ⟨2, [.text "b"], none⟩, .heading ⟨1, [.text "a"], none⟩,
        .paragraph (.ofText "c")] := rfl

end MarkdownOutline
