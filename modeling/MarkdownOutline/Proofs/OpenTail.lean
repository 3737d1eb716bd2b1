import MarkdownOutline.Markdown.BlockChain

/-!
# What is open inside a container

Inside a container of blocks at most one block is open: a leaf, or a list with an open item or
none. Closing it gives one closed block, and where its parts stood in the text makes no difference
to what it is otherwise.
-/

namespace MarkdownOutline.Markdown

mutual

def Draft.unplaced : Draft → Draft
  | .leaf leaf _ => .leaf leaf ⟨0, 0⟩
  | .quote children _ => .quote (draftsUnplaced children) ⟨0, 0⟩
  | .list marker tight items _ => .list marker tight (itemsUnplaced items) ⟨0, 0⟩

def DraftItem.unplaced : DraftItem → DraftItem
  | .mk children _ => .mk (draftsUnplaced children) ⟨0, 0⟩

def draftsUnplaced : List Draft → List Draft
  | [] => []
  | draft :: rest => draft.unplaced :: draftsUnplaced rest

def itemsUnplaced : List DraftItem → List DraftItem
  | [] => []
  | item :: rest => item.unplaced :: itemsUnplaced rest

end

@[simp] theorem draftsUnplaced_eq_map (drafts : List Draft) :
    draftsUnplaced drafts = drafts.map Draft.unplaced := by
  induction drafts with
  | nil => rfl
  | cons draft rest ih => rw [draftsUnplaced, ih]; rfl

@[simp] theorem itemsUnplaced_eq_map (items : List DraftItem) :
    itemsUnplaced items = items.map DraftItem.unplaced := by
  induction items with
  | nil => rfl
  | cons item rest ih => rw [itemsUnplaced, ih]; rfl

namespace ClosedBlock

def unplaced (block : ClosedBlock) : ClosedBlock := { block with draft := block.draft.unplaced }

def spaced (block : ClosedBlock) : ClosedBlock := { block with blankEnd := true }

def ofItems (marker : ListMarker) (items : List ClosedItem) : ClosedBlock where
  draft := .list marker (Frame.isTight items) (items.reverse.map (·.item)) ⟨0, 0⟩
  blankEnd := items.head?.any (·.blankEnd)

end ClosedBlock

namespace ClosedItem

def unplaced (item : ClosedItem) : ClosedItem := { item with item := item.item.unplaced }

def spaced (item : ClosedItem) : ClosedItem := { item with blankEnd := true }

def ofBlocks (blocks : List ClosedBlock) : ClosedItem where
  item := .mk (blocks.reverse.map (·.draft)) ⟨0, 0⟩
  blankEnd := blocks.head?.any (·.blankEnd)
  gap := blocks.tail.any (·.blankEnd)

end ClosedItem

structure BlockFrame where
  kind : ContainerKind
  first : Nat
  blankEnd : Bool
  children : List ClosedBlock

structure ListFrame where
  marker : ListMarker
  first : Nat
  blankEnd : Bool
  items : List ClosedItem

def Frame.calm (frame : Frame) : Frame := frame.setBlankEnd false

namespace BlockFrame

def toFrame (frame : BlockFrame) : Frame :=
  .blocks frame.kind frame.first frame.blankEnd frame.children

def push (frame : BlockFrame) (block : Option ClosedBlock) : BlockFrame :=
  { frame with children := block.toList ++ frame.children }

def closeItem (frame : BlockFrame) (closing : Closing) (last : Option ClosedBlock) : ClosedItem :=
  let children := last.toList ++ frame.children
  { item := .mk (children.reverse.map (·.draft)) ⟨frame.first, closing.lastLine⟩
    blankEnd := frame.blankEnd || children.head?.any (·.blankEnd)
    gap := children.tail.any (·.blankEnd) }

end BlockFrame

namespace ListFrame

def toFrame (frame : ListFrame) : Frame :=
  .list frame.marker frame.first frame.blankEnd frame.items

def push (frame : ListFrame) (item : ClosedItem) : ListFrame :=
  { frame with items := item :: frame.items }

def close (frame : ListFrame) (closing : Closing) : ClosedBlock where
  draft := .list frame.marker (Frame.isTight frame.items) (frame.items.reverse.map (·.item))
    ⟨frame.first, closing.lastLine⟩
  blankEnd := frame.blankEnd || frame.items.head?.any (·.blankEnd)

end ListFrame

/-- What is open inside a container of blocks: nothing, a leaf, a list between two items, or a list
with an open item. -/
inductive OpenTail where
  | nothing
  | leaf (leaf : OpenLeaf)
  | list (list : ListFrame)
  | item (list : ListFrame) (item : BlockFrame) (inside : OpenTail)

def OpenTail.frames : OpenTail → List Frame
  | .nothing | .leaf _ => []
  | .list l => [l.toFrame]
  | .item l i inside => inside.frames ++ [i.toFrame, l.toFrame]

def OpenTail.leaf? : OpenTail → Option OpenLeaf
  | .nothing | .list _ => none
  | .leaf l => some l
  | .item _ _ inside => inside.leaf?

/-- The part of the tail that a line next to it continues: the list without its item. -/
def OpenTail.kept : OpenTail → List Frame
  | .nothing | .leaf _ => []
  | .list l | .item l _ _ => [l.toFrame]

def OpenTail.left : OpenTail → List Frame
  | .nothing | .leaf _ | .list _ => []
  | .item _ i inside => inside.frames ++ [i.toFrame]

def OpenTail.marker? : OpenTail → Option ListMarker
  | .nothing | .leaf _ => none
  | .list l | .item l _ _ => some l.marker

theorem OpenTail.eq_of_marker? {tail : OpenTail} {marker : ListMarker}
    (h : tail.marker? = some marker) :
    (∃ l : ListFrame, tail = .list l ∧ l.marker = marker) ∨
      ∃ (l : ListFrame) (i : BlockFrame) (inside : OpenTail), tail = .item l i inside ∧
        l.marker = marker := by
  cases tail with
  | nothing => simp [marker?] at h
  | leaf l => simp [marker?] at h
  | list l => exact .inl ⟨l, rfl, Option.some.inj h⟩
  | item l i inside => exact .inr ⟨l, i, inside, rfl, Option.some.inj h⟩

def OpenTail.closed (closing : Closing) : OpenTail → Option ClosedBlock
  | .nothing => none
  | .leaf l => (l.close closing).1
  | .list l => some (l.close closing)
  | .item l i inside => some ((l.push (i.closeItem closing (inside.closed closing))).close closing)

/-- A leaf that becomes a block of its own and defines nothing. -/
def OpenLeaf.Yields (leaf : OpenLeaf) (content : DraftLeaf) : Prop :=
  ∀ closing, leaf.close closing =
    (some ⟨.leaf content ⟨leaf.first, closing.lastLine⟩, leaf.blankEnd⟩, [])

def OpenLeaf.EndsAtBlank (leaf : OpenLeaf) : Prop :=
  (∃ tried, leaf.kind = .paragraph tried) ∨ ∃ level, leaf.kind = .heading level

/-- A leaf that ends at a blank line, or indented code. -/
def OpenLeaf.IsKnown (leaf : OpenLeaf) : Prop := leaf.EndsAtBlank ∨ leaf.kind = .indentedCode

/-- The tail is made of lists, items and a heading, paragraph or indented code, and a container that
a blank line ended ends with a part that it ended. -/
def OpenTail.Sound : OpenTail → Prop
  | .nothing => True
  | .leaf l => l.IsKnown ∧ ∃ content, l.Yields content
  | .list l => l.blankEnd = true → l.items.head?.any (·.blankEnd) = true
  | .item l i inside =>
    l.blankEnd = false ∧ (∃ width, 0 < width ∧ i.kind = .item width) ∧
      (i.blankEnd = true → inside = .nothing ∧ i.children.head?.any (·.blankEnd) = true) ∧
      inside.Sound

theorem closeChain_append (closing : Closing) (inner outer : List Frame) (closed : Option Closed) :
    closeChain closing false (inner ++ outer) closed =
      closeChain closing false outer (closeChain closing false inner closed) := by
  induction inner generalizing closed with
  | nil => rfl
  | cons frame inner ih => exact ih _

theorem ListFrame.close_toFrame (list : ListFrame) (closing : Closing) (followed : Bool) :
    list.toFrame.close closing followed = some (.block (list.close closing)) := rfl

theorem BlockFrame.close_toFrame {item : BlockFrame} {width : Nat} (h : item.kind = .item width)
    (closing : Closing) (last : Option ClosedBlock) :
    ((last.map Closed.block).elim item.toFrame item.toFrame.push).close closing false =
      some (.item (item.closeItem closing last)) := by
  obtain ⟨kind, first, blankEnd, children⟩ := item
  subst h
  cases last <;> rfl

/-- What the leaf at the end of a chain gives to the container around it. -/
def leafClosed (closing : Closing) (leaf : Option OpenLeaf) : Option Closed :=
  ((leaf.map (·.close closing)).getD (none, [])).1.map .block

/-- Closing the tail from within gives the block that it becomes. -/
theorem OpenTail.Sound.closeChain_frames {tail : OpenTail} (h : tail.Sound) (closing : Closing) :
    closeChain closing false tail.frames (leafClosed closing tail.leaf?) =
      (tail.closed closing).map .block := by
  induction tail with
  | nothing => rfl
  | leaf leaf => rfl
  | list list => rfl
  | item list item inside ih =>
    obtain ⟨_, ⟨width, _, hkind⟩, _, hinside⟩ := h
    have hitem := BlockFrame.close_toFrame hkind closing (inside.closed closing)
    rw [frames, closeChain_append, leaf?, ih hinside]
    simp only [closeChain, hitem]
    rfl

theorem OpenTail.Sound.closeChain_left {list : ListFrame} {item : BlockFrame} {inside : OpenTail}
    (h : (OpenTail.item list item inside).Sound) (closing : Closing) :
    closeChain closing false (OpenTail.item list item inside).left
        (leafClosed closing inside.leaf?) =
      some (.item (item.closeItem closing (inside.closed closing))) := by
  obtain ⟨_, ⟨width, _, hkind⟩, _, hinside⟩ := h
  have hitem := BlockFrame.close_toFrame hkind closing (inside.closed closing)
  rw [left, closeChain_append, hinside.closeChain_frames]
  simp only [closeChain, hitem]

theorem OpenTail.Sound.leaf {tail : OpenTail} (h : tail.Sound) {leaf : OpenLeaf}
    (hleaf : tail.leaf? = some leaf) : leaf.IsKnown ∧ ∃ content, leaf.Yields content := by
  induction tail with
  | nothing => simp [leaf?] at hleaf
  | leaf l =>
    obtain rfl : l = leaf := by simpa [OpenTail.leaf?] using hleaf
    exact h
  | list list => simp [leaf?] at hleaf
  | item list item inside ih => exact ih h.2.2.2 hleaf

theorem OpenTail.Sound.leaf_targets {tail : OpenTail} (h : tail.Sound) (closing : Closing) :
    ((tail.leaf?.map (·.close closing)).getD (none, [])).2 = [] := by
  cases hleaf : tail.leaf? with
  | none => rfl
  | some leaf =>
    obtain ⟨_, content, hyields⟩ := h.leaf hleaf
    simp [hyields closing]

theorem OpenTail.Sound.leaf_stays {tail : OpenTail} (h : tail.Sound) (closing : Closing) :
    (tail.leaf?.isSome && ((tail.leaf?.map (·.close closing)).getD (none, [])).1.isNone) =
      false := by
  cases hleaf : tail.leaf? with
  | none => rfl
  | some leaf =>
    obtain ⟨_, content, hyields⟩ := h.leaf hleaf
    simp [hyields closing]

theorem isTight_unplaced (items : List ClosedItem) :
    Frame.isTight (items.map ClosedItem.unplaced) = Frame.isTight items := by
  have hgap : (items.map ClosedItem.unplaced).any (·.gap) = items.any (·.gap) := by
    rw [List.any_map]; rfl
  have hblank : (items.map ClosedItem.unplaced).tail.any (·.blankEnd) =
      items.tail.any (·.blankEnd) := by
    rw [← List.map_tail, List.any_map]; rfl
  rw [Frame.isTight, hgap, hblank, Frame.isTight]

private theorem any_head?_map {α β : Type} (f : α → β) (p : β → Bool) (q : α → Bool)
    (h : ∀ a, p (f a) = q a) (l : List α) : (l.map f).head?.any p = l.head?.any q := by
  cases l <;> simp [h]

theorem BlockFrame.unplaced_closeItem (frame : BlockFrame) (closing : Closing)
    (last : Option ClosedBlock)
    (hblank : frame.blankEnd = true → (frame.push last).children.head?.any (·.blankEnd) = true) :
    (frame.closeItem closing last).unplaced =
      .ofBlocks ((frame.push last).children.map ClosedBlock.unplaced) := by
  have hdrafts (blocks : List ClosedBlock) : (blocks.map (·.draft)).map Draft.unplaced =
      (blocks.map ClosedBlock.unplaced).map (·.draft) := by
    simp only [List.map_map]; rfl
  have hend : (frame.blankEnd || (frame.push last).children.head?.any (·.blankEnd)) =
      ((frame.push last).children.map ClosedBlock.unplaced).head?.any (·.blankEnd) := by
    rw [any_head?_map ClosedBlock.unplaced (·.blankEnd) (·.blankEnd) (fun _ => rfl)]
    cases hown : frame.blankEnd
    · simp
    · simp [hblank hown]
  have hgap : ((frame.push last).children.map ClosedBlock.unplaced).tail.any (·.blankEnd) =
      (frame.push last).children.tail.any (·.blankEnd) := by
    rw [← List.map_tail, List.any_map]; rfl
  simp only [ClosedItem.ofBlocks, ← hend, hgap]
  simp only [closeItem, push, ClosedItem.unplaced, DraftItem.unplaced, draftsUnplaced_eq_map,
    hdrafts, List.map_reverse]

theorem ListFrame.unplaced_close (frame : ListFrame) (closing : Closing)
    (hblank : frame.blankEnd = true → frame.items.head?.any (·.blankEnd) = true) :
    (frame.close closing).unplaced =
      .ofItems frame.marker (frame.items.map ClosedItem.unplaced) := by
  have hitems (items : List ClosedItem) : (items.map (·.item)).map DraftItem.unplaced =
      (items.map ClosedItem.unplaced).map (·.item) := by
    simp only [List.map_map]; rfl
  have hend : (frame.blankEnd || frame.items.head?.any (·.blankEnd)) =
      (frame.items.map ClosedItem.unplaced).head?.any (·.blankEnd) := by
    rw [any_head?_map ClosedItem.unplaced (·.blankEnd) (·.blankEnd) (fun _ => rfl)]
    cases hown : frame.blankEnd
    · simp
    · simp [hblank hown]
  simp only [ListFrame.close, ClosedBlock.unplaced, ClosedBlock.ofItems, Draft.unplaced,
    itemsUnplaced_eq_map, hitems, List.map_reverse, isTight_unplaced, hend]

def OpenTail.result (tail : OpenTail) : Option ClosedBlock :=
  (tail.closed ⟨0, false⟩).map ClosedBlock.unplaced

/-- The blocks of the container once the tail in it is closed, the newest first and without their
places in the text. -/
def OpenTail.doneIn (tail : OpenTail) (base : BlockFrame) : List ClosedBlock :=
  tail.result.toList ++ base.children.map ClosedBlock.unplaced

theorem BlockFrame.unplaced_push (frame : BlockFrame) (last : Option ClosedBlock) :
    (frame.push last).children.map ClosedBlock.unplaced =
      (last.map ClosedBlock.unplaced).toList ++ frame.children.map ClosedBlock.unplaced := by
  cases last <;> rfl

private theorem OpenTail.Sound.unplaced_closed_item {l : ListFrame} {i : BlockFrame}
    {inside : OpenTail} (h : (OpenTail.item l i inside).Sound) (closing : Closing) :
    ((OpenTail.item l i inside).closed closing).map ClosedBlock.unplaced =
      some (.ofItems l.marker
        (.ofBlocks ((i.push (inside.closed closing)).children.map ClosedBlock.unplaced) ::
          l.items.map ClosedItem.unplaced)) := by
  obtain ⟨hcalm, _, hblank, _⟩ := h
  have hitem := i.unplaced_closeItem closing (inside.closed closing) (by
    intro hend
    obtain ⟨rfl, hhead⟩ := hblank hend
    exact hhead)
  have hlist := (l.push (i.closeItem closing (inside.closed closing))).unplaced_close closing (by
    intro hend
    exact absurd (hcalm.symm.trans hend) (by simp))
  rw [OpenTail.closed, Option.map_some, hlist, ListFrame.push, List.map_cons, hitem]

/-- How a tail is closed makes no difference to what it becomes, but for places. -/
theorem OpenTail.Sound.unplaced_closed {tail : OpenTail} (h : tail.Sound) (closing : Closing) :
    (tail.closed closing).map ClosedBlock.unplaced = tail.result := by
  induction tail with
  | nothing => rfl
  | leaf l =>
    obtain ⟨_, content, hyields⟩ := h
    simp only [result, closed, hyields _]
    rfl
  | list l => rw [result, closed, closed, Option.map_some, Option.map_some, l.unplaced_close _ h,
      l.unplaced_close _ h]
  | item l i inside ih =>
    rw [result, h.unplaced_closed_item, h.unplaced_closed_item]
    simp only [BlockFrame.unplaced_push, ih h.2.2.2]
    rfl

theorem OpenTail.Sound.unplaced_push_closed {tail : OpenTail} (h : tail.Sound) (closing : Closing)
    (base : BlockFrame) :
    (base.push (tail.closed closing)).children.map ClosedBlock.unplaced = tail.doneIn base := by
  rw [BlockFrame.unplaced_push, h.unplaced_closed]
  rfl

theorem OpenTail.result_leaf {l : OpenLeaf} {content : DraftLeaf} (h : l.Yields content) :
    (OpenTail.leaf l).result = some ⟨.leaf content ⟨0, 0⟩, l.blankEnd⟩ := by
  simp only [result, closed, h _]
  rfl

theorem OpenTail.Sound.result_list {l : ListFrame} (h : (OpenTail.list l).Sound) :
    (OpenTail.list l).result = some (.ofItems l.marker (l.items.map ClosedItem.unplaced)) := by
  rw [result, closed, Option.map_some, l.unplaced_close _ h]

theorem OpenTail.Sound.result_item {l : ListFrame} {i : BlockFrame} {inside : OpenTail}
    (h : (OpenTail.item l i inside).Sound) :
    (OpenTail.item l i inside).result =
      some (.ofItems l.marker (.ofBlocks (inside.doneIn i) ::
        l.items.map ClosedItem.unplaced)) := by
  rw [result, h.unplaced_closed_item, BlockFrame.unplaced_push, h.2.2.2.unplaced_closed]
  rfl

theorem OpenTail.Sound.unplaced_closeItem {l : ListFrame} {i : BlockFrame} {inside : OpenTail}
    (h : (OpenTail.item l i inside).Sound) (closing : Closing) :
    (i.closeItem closing (inside.closed closing)).unplaced = .ofBlocks (inside.doneIn i) := by
  rw [i.unplaced_closeItem closing, BlockFrame.unplaced_push, h.2.2.2.unplaced_closed]
  · rfl
  · intro hend
    obtain ⟨rfl, hhead⟩ := h.2.2.1 hend
    exact hhead

def OpenTail.itemsDone : OpenTail → List ClosedItem
  | .nothing | .leaf _ => []
  | .list l => l.items.map ClosedItem.unplaced
  | .item l i inside => .ofBlocks (inside.doneIn i) :: l.items.map ClosedItem.unplaced

theorem OpenTail.Sound.result_of_marker {tail : OpenTail} (h : tail.Sound) {marker : ListMarker}
    (hmarker : tail.marker? = some marker) :
    tail.result = some (.ofItems marker tail.itemsDone) := by
  obtain ⟨l, rfl, rfl⟩ | ⟨l, i, inside, rfl, rfl⟩ := OpenTail.eq_of_marker? hmarker
  · exact h.result_list
  · exact h.result_item

end MarkdownOutline.Markdown
