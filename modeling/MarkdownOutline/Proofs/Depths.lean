import MarkdownOutline.Outline.Session
import MarkdownOutline.Proofs.Counters

/-!
# Heading depths

No change to a document makes a heading that cannot be written: depths are shifted only as far as
they stay in range, rounds of lifting end at the deepest level, and lists are made of headings that
were there already.
-/

namespace MarkdownOutline

mutual

/-- The headings of the block, those inside list items included. -/
def Block.headings : Block → List Heading
  | .heading h => [h]
  | .list l => l.headings
  | _ => []

def ListBlock.headings : ListBlock → List Heading
  | .mk _ _ _ items _ => itemHeadings items

def itemHeadings : List Item → List Heading
  | [] => []
  | .mk children _ :: rest => blockHeadings children ++ itemHeadings rest

def blockHeadings : List Block → List Heading
  | [] => []
  | block :: rest => block.headings ++ blockHeadings rest

end

/-- All headings of the document, at the top and inside list items at any nesting. -/
def Document.headings (document : Document) : List Heading := blockHeadings document

def DepthsInRange (headings : List Heading) : Prop :=
  ∀ h ∈ headings, 1 ≤ h.depth ∧ h.depth ≤ maxHeadingDepth

theorem mem_blockHeadings {h : Heading} {blocks : List Block} :
    h ∈ blockHeadings blocks ↔ ∃ block ∈ blocks, h ∈ block.headings := by
  induction blocks with
  | nil => simp [blockHeadings]
  | cons block rest ih => simp [blockHeadings, ih]

theorem mem_itemHeadings {h : Heading} {items : List Item} :
    h ∈ itemHeadings items ↔ ∃ item ∈ items, h ∈ blockHeadings item.children := by
  induction items with
  | nil => simp [itemHeadings]
  | cons item rest ih =>
    cases item
    simp [itemHeadings, Item.children, ih]

theorem ListBlock.headings_eq (list : ListBlock) : list.headings = itemHeadings list.items := by
  cases list
  rfl

@[simp] theorem blockHeadings_append (front rest : List Block) :
    blockHeadings (front ++ rest) = blockHeadings front ++ blockHeadings rest := by
  induction front with
  | nil => rfl
  | cons block front ih => simp [blockHeadings, ih]

theorem blockHeadings_subset {part all : List Block} (h : part ⊆ all) :
    blockHeadings part ⊆ blockHeadings all := by
  intro heading hmem
  obtain ⟨block, hblock, hin⟩ := mem_blockHeadings.mp hmem
  exact mem_blockHeadings.mpr ⟨block, h hblock, hin⟩

theorem DepthsInRange.mono {part all : List Heading} (h : DepthsInRange all) (hsub : part ⊆ all) :
    DepthsInRange part := fun heading hmem => h heading (hsub hmem)

theorem depthsInRange_nil : DepthsInRange [] := fun _ h => nomatch h

theorem depthsInRange_append {front rest : List Heading} :
    DepthsInRange (front ++ rest) ↔ DepthsInRange front ∧ DepthsInRange rest :=
  List.forall_mem_append

theorem isHeadingDepth_iff {depth : Int} :
    isHeadingDepth depth = true ↔ 1 ≤ depth ∧ depth ≤ maxHeadingDepth := by
  rw [isHeadingDepth, Bool.and_eq_true, decide_eq_true_eq, decide_eq_true_eq]

@[simp] theorem itemHeadings_headingItem (title : String) (inner items : List Item) :
    itemHeadings (headingItem title inner :: items) = itemHeadings inner ++ itemHeadings items := by
  simp [itemHeadings, headingItem, blockHeadings, Block.headings, ListBlock.numbered,
    ListBlock.headings]

theorem flattenBlocks_headings (title : String) (lists : Nat) (blocks : List Block) :
    itemHeadings (flattenBlocks title lists blocks).1 ⊆ blockHeadings blocks ∧
      blockHeadings (flattenBlocks title lists blocks).2 ⊆ blockHeadings blocks := by
  fun_induction flattenBlocks title lists blocks with
  | case1 => simp [itemHeadings, blockHeadings]
  | case2 title lists h rest inner innerTail hinner items tail hitems ihinner ihitems =>
    rw [hinner] at ihinner
    rw [hitems] at ihitems
    have hbelow : blockHeadings (rest.takeWhile (Block.isBelow h.depth)) ⊆
        blockHeadings (.heading h :: rest) :=
      blockHeadings_subset (List.subset_cons_of_subset _ (List.takeWhile_sublist _).subset)
    have habove : blockHeadings (rest.dropWhile (Block.isBelow h.depth)) ⊆
        blockHeadings (.heading h :: rest) :=
      blockHeadings_subset (List.subset_cons_of_subset _ (List.dropWhile_sublist _).subset)
    rw [itemHeadings_headingItem, blockHeadings_append]
    exact ⟨List.append_subset.mpr ⟨List.Subset.trans ihinner.1 hbelow,
        List.Subset.trans ihitems.1 habove⟩,
      List.append_subset.mpr ⟨List.Subset.trans ihinner.2 hbelow,
        List.Subset.trans ihitems.2 habove⟩⟩
  | case3 title lists p rest items tail hrest ih =>
    rw [hrest] at ih
    simpa [itemHeadings, blockHeadings, Block.headings] using ih
  | case4 title lists l rest items tail hrest ih =>
    rw [hrest] at ih
    have hl : itemHeadings (.mk [.paragraph (listLabel title (lists + 1)), .list l] none :: items) =
        l.headings ++ itemHeadings items := by
      simp [itemHeadings, blockHeadings, Block.headings]
    rw [hl]
    exact ⟨List.append_subset.mpr ⟨List.subset_append_left _ _,
      List.subset_append_of_subset_right _ ih.1⟩, List.subset_append_of_subset_right _ ih.2⟩
  | case5 title lists m span rest items tail hrest ih =>
    rw [hrest] at ih
    simpa [itemHeadings, blockHeadings, Block.headings] using ih

theorem Document.headings_flattenSections? {document : Document} {first index : Nat} {peers : Bool}
    {flattened : Flattened} (h : document.flattenSections? first index peers = some flattened) :
    flattened.list.headings ++ blockHeadings flattened.tail ⊆ document.headings := by
  have hrun (blocks : List Block) (hsub : blocks ⊆ document) :
      (ListBlock.numbered (flattenBlocks "" 0 blocks).1).headings ++
        blockHeadings (flattenBlocks "" 0 blocks).2 ⊆ document.headings :=
    have hflat := flattenBlocks_headings "" 0 blocks
    List.Subset.trans (List.append_subset.mpr hflat) (blockHeadings_subset hsub)
  simp only [flattenSections?, Option.bind_eq_bind, Option.bind_eq_some_iff] at h
  obtain ⟨block, hblock, heading, hheading, h⟩ := h
  obtain rfl : block = .heading heading := by
    cases block <;> simp_all [Block.heading?]
  cases peers with
  | true =>
    simp only [if_true, Option.some.injEq] at h
    rw [← h]
    exact hrun _ (((List.dropWhile_sublist _).trans (List.takeWhile_sublist _)).trans
      (List.drop_sublist _ _)).subset
  | false =>
    simp only [Bool.false_eq_true, if_false, Option.some.injEq] at h
    rw [← h]
    refine hrun _ (List.cons_subset.mpr ⟨List.mem_of_getElem? hblock, ?_⟩)
    exact ((List.takeWhile_sublist _).trans (List.drop_sublist _ _)).subset

/-- Turning sections into a list makes no heading. -/
theorem Document.headings_headingToList (document : Document) (index : Nat)
    (peers onlyBelow : Bool) :
    (document.headingToList index peers onlyBelow).headings ⊆ document.headings := by
  unfold headingToList
  split
  · exact List.Subset.refl _
  · dsimp only
    split
    · exact List.Subset.refl _
    next flattened hflattened =>
      have hflat := List.append_subset.mp (headings_flattenSections? hflattened)
      simp only [headings, blockHeadings_append, blockHeadings, Block.headings]
      refine List.append_subset.mpr ⟨blockHeadings_subset (List.take_subset _ _),
        List.append_subset.mpr ⟨hflat.1, List.append_subset.mpr ⟨hflat.2, ?_⟩⟩⟩
      exact blockHeadings_subset (List.drop_subset _ _)

theorem cascade_depthsInRange (peers : Bool) (old new : Nat) (blocks : List Block)
    (h : DepthsInRange (blockHeadings blocks)) :
    DepthsInRange (blockHeadings (cascade peers old new blocks)) := by
  fun_induction cascade peers old new blocks with
  | case1 => exact h
  | case2 => exact h
  | case3 heading rest _ hshift ih =>
    obtain ⟨-, hrest⟩ := depthsInRange_append.mp h
    rw [isHeadingDepth_iff] at hshift
    refine depthsInRange_append.mpr ⟨?_, ih hrest⟩
    simp only [Block.headings, DepthsInRange, List.mem_singleton, forall_eq]
    omega
  | case4 heading rest _ _ items tail hflat ih =>
    have hsub := flattenBlocks_headings "" 0
      (.heading heading :: rest.takeWhile (Block.isWithin heading.depth))
    rw [hflat] at hsub
    have hrun : blockHeadings (.heading heading :: rest.takeWhile (Block.isWithin heading.depth)) ⊆
        blockHeadings (.heading heading :: rest) :=
      blockHeadings_subset (List.cons_subset_cons _ (List.takeWhile_sublist _).subset)
    have hbehind : blockHeadings (rest.dropWhile (Block.isWithin heading.depth)) ⊆
        blockHeadings (.heading heading :: rest) :=
      blockHeadings_subset (List.subset_cons_of_subset _ (List.dropWhile_sublist _).subset)
    simp only [blockHeadings, Block.headings, blockHeadings_append]
    exact depthsInRange_append.mpr ⟨h.mono (List.Subset.trans hsub.1 hrun),
      depthsInRange_append.mpr ⟨h.mono (List.Subset.trans hsub.2 hrun), ih (h.mono hbehind)⟩⟩
  | case5 block rest _ ih =>
    obtain ⟨hblock, hrest⟩ := depthsInRange_append.mp h
    exact depthsInRange_append.mpr ⟨hblock, ih hrest⟩

theorem Document.retargetHeading_depthsInRange (document : Document) (line depth : Nat)
    (peers : Bool) (h : DepthsInRange document.headings) :
    DepthsInRange (document.retargetHeading line depth peers).headings := by
  unfold retargetHeading
  split
  · exact h
  next hdepth =>
    simp only [Bool.not_eq_true', Bool.not_eq_false] at hdepth
    rw [isHeadingDepth_iff] at hdepth
    split
    · exact h
    · split
      · exact h
      · dsimp only
        split
        next heading rest hrest =>
          have hbehind : DepthsInRange (blockHeadings rest) := by
            refine h.mono (blockHeadings_subset ?_)
            exact (List.sublist_of_cons_sublist (hrest ▸ List.drop_sublist _ _)).subset
          simp only [headings, blockHeadings_append, blockHeadings, Block.headings]
          refine depthsInRange_append.mpr ⟨h.mono (blockHeadings_subset (List.take_subset _ _)),
            depthsInRange_append.mpr ⟨?_, cascade_depthsInRange _ _ _ _ hbehind⟩⟩
          simp only [DepthsInRange, List.mem_singleton, forall_eq]
          omega
        · exact h

theorem liftItem_headings {depth : Nat} {item : Item} {h : Heading}
    (hmem : h ∈ blockHeadings (liftItem depth item)) :
    h.depth = depth ∨ h ∈ blockHeadings item.children := by
  unfold liftItem at hmem
  split at hmem
  next p rest hchildren =>
    rw [hchildren]
    simp only [blockHeadings, Block.headings, List.mem_append, List.mem_singleton] at hmem ⊢
    rcases hmem with rfl | hmem
    · exact .inl rfl
    · exact .inr (.inr hmem)
  · exact .inr hmem

theorem liftRound_headings {depth : Nat} {blocks : List Block} {h : Heading}
    (hmem : h ∈ blockHeadings (liftRound depth blocks)) :
    h.depth = depth ∨ h ∈ blockHeadings blocks := by
  obtain ⟨block, hblock, hin⟩ := mem_blockHeadings.mp hmem
  obtain ⟨source, hsource, hblock⟩ := List.mem_flatMap.mp hblock
  split at hblock
  next l =>
    obtain ⟨item, hitem, hblock⟩ := List.mem_flatMap.mp hblock
    refine (liftItem_headings (mem_blockHeadings.mpr ⟨block, hblock, hin⟩)).imp_right fun hin => ?_
    refine mem_blockHeadings.mpr ⟨.list l, hsource, ?_⟩
    rw [Block.headings, l.headings_eq]
    exact mem_itemHeadings.mpr ⟨item, hitem, hin⟩
  · rw [List.mem_singleton.mp hblock] at hin
    exact .inr (mem_blockHeadings.mpr ⟨_, hsource, hin⟩)

theorem liftRounds_headings {rounds depth : Nat} {blocks : List Block} {h : Heading}
    (hmem : h ∈ blockHeadings (liftRounds rounds depth blocks)) :
    (depth ≤ h.depth ∧ h.depth < depth + rounds) ∨ h ∈ blockHeadings blocks := by
  induction rounds generalizing depth blocks with
  | zero => exact .inr hmem
  | succ rounds ih =>
    rcases ih hmem with hlifted | hmem
    · exact .inl (by omega)
    · exact (liftRound_headings hmem).imp_left fun hdepth => by omega

theorem ListBlock.toHeadings_depthsInRange (depth count : Nat) (list : ListBlock)
    (h : DepthsInRange list.headings) :
    DepthsInRange (blockHeadings (list.toHeadings depth count)) := by
  intro heading hmem
  rcases liftRounds_headings hmem with hlifted | hmem
  · simp only [availableRounds] at hlifted
    omega
  · exact h heading (by simpa [blockHeadings, Block.headings] using hmem)

theorem Document.listToHeading_depthsInRange (document : Document) (line : Nat)
    (h : DepthsInRange document.headings) : DepthsInRange (document.listToHeading line).headings := by
  unfold listToHeading
  split
  · exact h
  next state hstate =>
    split
    next l hl =>
      dsimp only
      have hlist : DepthsInRange l.headings := fun heading hmem =>
        h heading (mem_blockHeadings.mpr ⟨.list l, List.mem_of_getElem? hl, hmem⟩)
      simp only [headings, blockHeadings_append]
      refine depthsInRange_append.mpr ⟨depthsInRange_append.mpr ⟨?_, ?_⟩, ?_⟩
      · exact h.mono (blockHeadings_subset (List.take_subset _ _))
      · exact l.toHeadings_depthsInRange _ _ hlist
      · exact h.mono (blockHeadings_subset (List.drop_subset _ _))
    · exact h

@[simp] theorem ListNumbering.headings_observe (numbering : ListNumbering) (list : ListBlock) :
    (numbering.observe list).headings = list.headings := by
  rw [ListBlock.headings_eq, items_observe, list.headings_eq]

theorem Document.numberBlocks_depths (numbering : HeadingNumbering) (lists : ListNumbering)
    (counters : HeadingCounters) (blocks : List Block) :
    (blockHeadings (numberBlocks numbering lists counters blocks)).map Heading.depth =
      (blockHeadings blocks).map Heading.depth := by
  induction blocks generalizing counters with
  | nil => rfl
  | cons block rest ih =>
    cases block with
    | heading h =>
      have hdepth := numbering.observe_depth counters h
      simp only [numberBlocks, blockHeadings, Block.headings, List.map_append, ih, List.map_cons,
        hdepth]
    | list l => simp [numberBlocks, blockHeadings, Block.headings, ih]
    | paragraph p => simp [numberBlocks, blockHeadings, ih]
    | other m span => simp [numberBlocks, blockHeadings, ih]

theorem Document.formatIndex_depthsInRange (document : Document) (options : FormatOptions)
    (h : DepthsInRange document.headings) :
    DepthsInRange (document.formatIndex options).headings := by
  intro heading hmem
  have hdepth : heading.depth ∈ document.headings.map Heading.depth := by
    rw [headings, ← numberBlocks_depths]
    exact List.mem_map_of_mem hmem
  obtain ⟨old, hold, hsame⟩ := List.mem_map.mp hdepth
  rw [← hsame]
  exact h old hold

theorem Transform.apply_depthsInRange (document : Document) (change : Transform)
    (h : DepthsInRange document.headings) : DepthsInRange (change.apply document).headings := by
  cases change with
  | headingToList line peers =>
    simp only [apply, Document.headingToListAt]
    split
    · exact h.mono (document.headings_headingToList _ peers false)
    · exact h
  | listToHeading line => exact document.listToHeading_depthsInRange line h
  | headingDepth line depth peers => exact document.retargetHeading_depthsInRange line depth peers h
  | format options => exact document.formatIndex_depthsInRange options h

theorem Document.transform_depthsInRange (document : Document) (changes : List Transform)
    (h : DepthsInRange document.headings) : DepthsInRange (document.transform changes).headings := by
  induction changes generalizing document with
  | nil => exact h
  | cons change changes ih => exact ih _ (change.apply_depthsInRange document h)

end MarkdownOutline
