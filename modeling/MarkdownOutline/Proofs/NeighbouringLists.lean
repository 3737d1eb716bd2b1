import MarkdownOutline.Proofs.ItemMarkers
import Mathlib.Data.List.Basic

/-!
# Neighbouring lists

A sequence of blocks is written block by block, without those that leave no text. A list right after
another of its kind takes the other marker, and every other list takes the first one, so neighbours
never share a marker.
-/

namespace MarkdownOutline

def Block.isWritten (block : Block) : Bool := !(writeBlock false block).isEmpty

/-- A block that is written, and whether its items get the second marker if it is a list. -/
structure WrittenBlock where
  block : Block
  second : Bool

def WrittenBlock.text (written : WrittenBlock) : List Char :=
  writeBlock written.second written.block

/-- What stands between two texts: the end of a line, and a blank line unless they stand close. -/
def gapText (close : Bool) : List Char := if close then ['\n'] else ['\n', '\n']

/-- The text of the block behind another: a list in a tight item stands on the next line, and
everything else below a blank line. -/
def WrittenBlock.textBehind (tight : Bool) (written : WrittenBlock) : List Char :=
  gapText (tight && written.block.list?.isSome) ++ written.text

def joinWritten (tight : Bool) : List WrittenBlock → List Char
  | [] => []
  | first :: rest => first.text ++ rest.flatMap (WrittenBlock.textBehind tight)

/-- The second block takes turns with the one before it: right after a list of its kind a list takes
the marker that the other does not have, and after anything else the first one. -/
structure TakesTurns (before after : WrittenBlock) : Prop where
  sameKind : ∀ first next : ListBlock, before.block = .list first → after.block = .list next →
    first.ordered = next.ordered → after.second = !before.second
  otherKind : (∀ first next : ListBlock, before.block = .list first → after.block = .list next →
    first.ordered ≠ next.ordered) → after.second = false

def ListBlock.markerEnd (list : ListBlock) (second : Bool) : Char :=
  if list.ordered then if second then ')' else '.' else if second then '*' else '-'

/-- The marker of the item at an index: its number if the list is ordered, and the last
character. -/
def ListBlock.markerAt (list : ListBlock) (second : Bool) (index : Nat) : List Char :=
  (if list.ordered then Nat.toDigits 10 (list.start + index) else []) ++ [list.markerEnd second]

def ListBlock.markedItems (list : ListBlock) (second : Bool) : List (List Char) :=
  list.items.mapIdx fun index item =>
    writeItem (list.markerAt second index) (writeBlocks list.tight .nothing item.children)

theorem itemMarker_eq (list : ListBlock) (second : Bool) (index : Nat) :
    itemMarker list.ordered second (list.start + index) = list.markerAt second index := by
  unfold itemMarker ListBlock.markerAt ListBlock.markerEnd
  cases list.ordered <;> cases second <;> rfl

theorem prefix_writeItem (marker body : List Char) : marker <+: writeItem marker body := by
  unfold writeItem
  split
  · exact List.prefix_refl marker
  · rw [List.append_assoc]
    exact List.prefix_append _ _

theorem prefix_of_markedItems {list : ListBlock} {second : Bool} {index : Nat} {item : List Char}
    (h : (list.markedItems second)[index]? = some item) :
    list.markerAt second index <+: item := by
  rw [ListBlock.markedItems, List.getElem?_mapIdx, Option.map_eq_some_iff] at h
  obtain ⟨_, -, rfl⟩ := h
  exact prefix_writeItem _ _

theorem writeItems_eq_intercalate (ordered second tight : Bool) (number : Nat) (items : List Item) :
    writeItems ordered second tight number items =
      (gapText tight).intercalate (items.mapIdx fun index item =>
        writeItem (itemMarker ordered second (number + index))
          (writeBlocks tight .nothing item.children)) := by
  induction items generalizing number with
  | nil => rfl
  | cons item items ih =>
    obtain ⟨children, span⟩ := item
    cases items with
    | nil => simp [writeItems, Item.children]
    | cons next items =>
      have hrest := ih (number + 1)
      simp only [Nat.add_assoc, Nat.add_comm 1] at hrest
      rw [List.mapIdx_cons, List.intercalate_cons_of_ne_nil (by simp), ← hrest]
      rfl

theorem writeBlock_list (second : Bool) (list : ListBlock) :
    writeBlock second (.list list) =
      (gapText list.tight).intercalate (list.markedItems second) := by
  simp only [ListBlock.markedItems, ← itemMarker_eq]
  rw [← writeItems_eq_intercalate]
  cases list
  rfl

theorem writeBlock_list_eq_nil_iff (second : Bool) (list : ListBlock) :
    writeBlock second (.list list) = [] ↔ list.items = [] := by
  obtain ⟨ordered, start, tight, items, span⟩ := list
  cases items with
  | nil => exact ⟨fun _ => rfl, fun _ => rfl⟩
  | cons item items =>
    obtain ⟨children, itemSpan⟩ := item
    have hitem : writeItem (itemMarker ordered second start)
        (writeBlocks tight .nothing children) ≠ [] := fun hnil =>
      itemMarker_ne_nil ordered second start (List.prefix_nil.mp (hnil ▸ prefix_writeItem _ _))
    have hne : writeBlock second (.list (.mk ordered start tight (.mk children itemSpan :: items)
        span)) ≠ [] := by
      rw [writeBlock, writeList]
      cases items <;> simp [writeItems, hitem]
    simp [hne, ListBlock.items]

theorem writeBlock_eq_nil_iff (second : Bool) (block : Block) :
    writeBlock second block = [] ↔ block.isWritten = false := by
  have hfirst : block.isWritten = false ↔ writeBlock false block = [] := by simp [Block.isWritten]
  rw [hfirst]
  cases block with
  | list list => rw [writeBlock_list_eq_nil_iff, writeBlock_list_eq_nil_iff]
  | _ => rfl

def writtenBlocks (preceding : Preceding) : List Block → List WrittenBlock
  | [] => []
  | block :: rest =>
    if block.isWritten then
      ⟨block, preceding.alternates block⟩ ::
        writtenBlocks (.ofBlock (preceding.alternates block) block) rest
    else writtenBlocks preceding rest

theorem map_block_writtenBlocks (preceding : Preceding) (blocks : List Block) :
    (writtenBlocks preceding blocks).map WrittenBlock.block = blocks.filter Block.isWritten := by
  induction blocks generalizing preceding with
  | nil => rfl
  | cons block blocks ih =>
    cases hwritten : block.isWritten <;> simp [writtenBlocks, hwritten, ih]

theorem writeBlocks_cons_of_isWritten (tight : Bool) (preceding : Preceding) {block : Block}
    (h : block.isWritten = true) (rest : List Block) :
    writeBlocks tight preceding (block :: rest) =
      blockSeparator preceding tight block ++ writeBlock (preceding.alternates block) block ++
        writeBlocks tight (.ofBlock (preceding.alternates block) block) rest := by
  have htext := (writeBlock_eq_nil_iff (preceding.alternates block) block).not.mpr (by simp [h])
  rw [writeBlocks]
  simp [htext]

theorem writeBlocks_cons_of_not_isWritten (tight : Bool) (preceding : Preceding) {block : Block}
    (h : block.isWritten = false) (rest : List Block) :
    writeBlocks tight preceding (block :: rest) = writeBlocks tight preceding rest := by
  rw [writeBlocks]
  simp [(writeBlock_eq_nil_iff (preceding.alternates block) block).mpr h]

theorem blockSeparator_behind {preceding : Preceding} (h : preceding ≠ .nothing) (tight : Bool)
    (block : Block) :
    blockSeparator preceding tight block = gapText (tight && block.list?.isSome) := by
  rw [blockSeparator, if_neg h, gapText]

theorem writeBlocks_behind (tight : Bool) {preceding : Preceding} (h : preceding ≠ .nothing)
    (blocks : List Block) :
    writeBlocks tight preceding blocks =
      (writtenBlocks preceding blocks).flatMap (WrittenBlock.textBehind tight) := by
  induction blocks generalizing preceding with
  | nil => rfl
  | cons block blocks ih =>
    cases hwritten : block.isWritten with
    | false =>
      rw [writeBlocks_cons_of_not_isWritten tight preceding hwritten, ih h, writtenBlocks]
      simp [hwritten]
    | true =>
      have hrest := ih (Preceding.ofBlock_ne_nothing (preceding.alternates block) block)
      rw [writeBlocks_cons_of_isWritten tight preceding hwritten, blockSeparator_behind h, hrest,
        writtenBlocks, if_pos hwritten, List.flatMap_cons]
      rfl

theorem writeBlocks_eq_joinWritten (tight : Bool) (blocks : List Block) :
    writeBlocks tight .nothing blocks = joinWritten tight (writtenBlocks .nothing blocks) := by
  induction blocks with
  | nil => rfl
  | cons block blocks ih =>
    cases hwritten : block.isWritten with
    | false =>
      rw [writeBlocks_cons_of_not_isWritten tight .nothing hwritten, ih, writtenBlocks]
      simp [hwritten]
    | true =>
      have hne := Preceding.ofBlock_ne_nothing (Preceding.nothing.alternates block) block
      rw [writeBlocks_cons_of_isWritten tight .nothing hwritten, writeBlocks_behind tight hne,
        writtenBlocks, if_pos hwritten]
      rfl

/-- A block takes turns with the one written before it, since what is written in between is nothing
and does not count as preceding. -/
theorem takesTurns_ofBlock (before : WrittenBlock) (block : Block) :
    TakesTurns before
      ⟨block, (Preceding.ofBlock before.second before.block).alternates block⟩ := by
  obtain ⟨blockBefore, second⟩ := before
  constructor
  · rintro first next rfl rfl hkind
    simp only [Preceding.ofBlock, Preceding.alternates, hkind]
    cases second <;> simp
  · intro hother
    cases block with
    | list next =>
      cases blockBefore with
      | list first =>
        have hkind := hother first next rfl rfl
        simp [Preceding.ofBlock, Preceding.alternates, hkind]
      | _ => rfl
    | _ => rfl

theorem isChain_writtenBlocks_behind (before : WrittenBlock) (blocks : List Block) :
    (before :: writtenBlocks (.ofBlock before.second before.block) blocks).IsChain TakesTurns := by
  induction blocks generalizing before with
  | nil => exact .singleton _
  | cons block blocks ih =>
    rw [writtenBlocks]
    -- A block without text is passed over, and the next one still stands behind `before`.
    split
    · exact .cons_cons (takesTurns_ofBlock before block) (ih ⟨block, _⟩)
    · exact ih before

theorem isChain_writtenBlocks (blocks : List Block) :
    (writtenBlocks .nothing blocks).IsChain TakesTurns := by
  induction blocks with
  | nil => exact .nil
  | cons block blocks ih =>
    rw [writtenBlocks]
    split
    · exact isChain_writtenBlocks_behind ⟨block, _⟩ blocks
    · exact ih

theorem second_head_writtenBlocks (blocks : List Block) :
    ∀ first ∈ (writtenBlocks .nothing blocks).head?, first.second = false := by
  induction blocks with
  | nil => simp [writtenBlocks]
  | cons block blocks ih =>
    rw [writtenBlocks]
    split
    · rintro first ⟨⟩
      cases block <;> rfl
    · exact ih

/-- A sequence of blocks is written as the texts of those blocks that leave any, each of them once
and in order. The first of them takes the first marker and each of the others takes turns with the
one before it, so two lists of a kind with nothing written between them have different markers, and
a list behind anything else has the first one. A list is written as its items, each behind a marker
that ends in a dot or a dash, or in a bracket or a star if it is the second one; the blocks of an
item are again such a sequence. -/
theorem writeBlocks_takesTurns (tight : Bool) (blocks : List Block) :
    (∀ second block, writeBlock second block ≠ [] ↔ block.isWritten = true) ∧
    ∃ written : List WrittenBlock,
      written.map WrittenBlock.block = blocks.filter Block.isWritten ∧
      writeBlocks tight .nothing blocks = joinWritten tight written ∧
      (∀ first ∈ written.head?, first.second = false) ∧ written.IsChain TakesTurns ∧
      ∀ block ∈ written, ∀ list, block.block = .list list →
        block.text = (gapText list.tight).intercalate (list.markedItems block.second) ∧
          ∀ index item, (list.markedItems block.second)[index]? = some item →
            list.markerAt block.second index <+: item := by
  refine ⟨fun second block => ?_, writtenBlocks .nothing blocks, ?_⟩
  · rw [ne_eq, writeBlock_eq_nil_iff, Bool.not_eq_false]
  · refine ⟨map_block_writtenBlocks .nothing blocks, writeBlocks_eq_joinWritten tight blocks,
      second_head_writtenBlocks blocks, isChain_writtenBlocks blocks, ?_⟩
    rintro ⟨_, second⟩ - list rfl
    exact ⟨writeBlock_list second list, fun _ _ => prefix_of_markedItems⟩

/-- An empty paragraph does not come between two lists of a kind, and a list of the other kind
does. -/
example :
    let dash : Block := .list (.mk false 1 true [.mk [] none] none)
    let dot : Block := .list (.mk true 3 true [.mk [] none] none)
    writeBlocks false .nothing [dash, .paragraph ⟨[], none⟩, dash, dash, dot, dash] =
      "-\n\n*\n\n-\n\n3.\n\n-".toList := by decide

end MarkdownOutline
