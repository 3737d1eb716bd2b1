import MarkdownOutline.Proofs.SectionLists

/-!
# Documents with converted sections

The list that sections turn into stands in their place, before the blocks that it cannot hold and
the heading behind them. A document that sits still does so if its sections are listable, and is
read back with the list as it was built.
-/

namespace MarkdownOutline

open Markdown

private theorem blocksSit_top_cons {preceding : Preceding} {afterParagraph : Bool} {block : Block}
    {blocks : List Block} :
    blocksSit false preceding afterParagraph 1 0 0 (block :: blocks) = true ↔
      block.sits (preceding.alternates block) 1 0 0 = true ∧
        (∀ next ∈ blocks.head?,
          block.admits (preceding.alternates block) 0 0 next.lead true = true) ∧
        blocksSit false (.ofBlock (preceding.alternates block) block) block.isParagraph 1 0 0
          blocks = true := by
  have hroom (hblocks : blocksSit false (.ofBlock (preceding.alternates block) block)
      block.isParagraph 1 0 0 blocks = true) :
      ((blocksLines false (.ofBlock (preceding.alternates block) block) blocks).isEmpty ||
        block.admits (preceding.alternates block) 0 0 (0 + blocksLead blocks)
          ((blocksLines false (.ofBlock (preceding.alternates block) block) blocks).head? ==
            some [])) = true ↔
      ∀ next ∈ blocks.head?,
        block.admits (preceding.alternates block) 0 0 next.lead true = true := by
    cases blocks with
    | nil => simp [blocksLines]
    | cons next blocks =>
      simp only [blocksSit, Bool.and_eq_true] at hblocks
      have hlines := next.lines_ne_nil_of_sits hblocks.1.1.1
      have hfollowing := Preceding.ofBlock_ne_nothing (preceding.alternates block) block
      simp [blocksLines, hlines, separatorLines, hfollowing, blocksLead]
  -- At depth 0 nothing is indented, and every separator is a blank line.
  rw [blocksSit]
  simp only [Bool.and_eq_true, Bool.false_and, Bool.not_false, Bool.true_or, and_true,
    Nat.zero_le, decide_true, Bool.true_and]
  constructor
  · rintro ⟨⟨hblock, hadmits⟩, hblocks⟩
    exact ⟨hblock, (hroom hblocks).mp hadmits, hblocks⟩
  · rintro ⟨hblock, hadmits, hblocks⟩
    exact ⟨⟨hblock, (hroom hblocks).mpr hadmits⟩, hblocks⟩

private theorem blocksSit_top_append {preceding : Preceding} {afterParagraph : Bool}
    {front back : List Block}
    (h : blocksSit false preceding afterParagraph 1 0 0 (front ++ back) = true) :
    ∃ preceding' afterParagraph',
      blocksSit false preceding' afterParagraph' 1 0 0 back = true := by
  induction front generalizing preceding afterParagraph with
  | nil => exact ⟨_, _, h⟩
  | cons block front ih => exact ih (blocksSit_top_cons.mp h).2.2

private theorem exists_sits_of_mem {preceding : Preceding} {afterParagraph : Bool}
    {blocks : List Block} (h : blocksSit false preceding afterParagraph 1 0 0 blocks = true)
    {block : Block} (hblock : block ∈ blocks) :
    ∃ alternate, block.sits alternate 1 0 0 = true := by
  obtain ⟨front, back, rfl⟩ := List.append_of_mem hblock
  obtain ⟨_, _, hback⟩ := blocksSit_top_append h
  exact ⟨_, (blocksSit_top_cons.mp hback).1⟩

private theorem exists_eq_heading {block : Block} (h : block.heading?.isSome = true) :
    ∃ g, block = .heading g := by
  cases block with
  | heading g => exact ⟨g, rfl⟩
  | _ => simp [Block.heading?] at h

private theorem blocksSit_top_heads {preceding : Preceding} {afterParagraph : Bool}
    {front back : List Block}
    (h : blocksSit false preceding afterParagraph 1 0 0 (front ++ back) = true)
    (hheads : ∀ block ∈ back.head?, block.heading?.isSome = true) (preceding' : Preceding)
    (afterParagraph' : Bool) : blocksSit false preceding' afterParagraph' 1 0 0 back = true := by
  obtain ⟨_, _, hback⟩ := blocksSit_top_append h
  cases back with
  | nil => rfl
  | cons block back =>
    obtain ⟨g, rfl⟩ := exists_eq_heading (hheads block rfl)
    exact blocksSit_top_cons.mpr (blocksSit_top_cons.mp hback)

/-- A heading and all behind it can be replaced by blocks that sit behind all blocks. -/
private theorem blocksSit_top_replace {preceding : Preceding} {afterParagraph : Bool}
    {front back others : List Block} {g : Heading} {block : Block}
    (h : blocksSit false preceding afterParagraph 1 0 0 (front ++ .heading g :: back) = true)
    (hlead : block.lead = 0)
    (hothers : ∀ preceding' afterParagraph',
      blocksSit false preceding' afterParagraph' 1 0 0 (block :: others) = true) :
    blocksSit false preceding afterParagraph 1 0 0 (front ++ block :: others) = true := by
  induction front generalizing preceding afterParagraph with
  | nil => exact hothers preceding afterParagraph
  | cons first front ih =>
    obtain ⟨hfirst, hadmits, hrest⟩ := blocksSit_top_cons.mp h
    refine blocksSit_top_cons.mpr ⟨hfirst, ?_, ih hrest⟩
    cases front with
    | nil =>
      have hroom := hadmits (.heading g) rfl
      intro next hnext
      obtain rfl := Option.some.inj hnext
      rwa [hlead]
    | cons second front => exact hadmits

private theorem blocksSit_top_others {tail after : List Block}
    (htail : ∀ block ∈ tail, block.kind = .other ∧ block.lead = 0 ∧
      ∃ alternate, block.sits alternate 1 0 0 = true)
    (hafter : ∀ preceding afterParagraph,
      blocksSit false preceding afterParagraph 1 0 0 after = true)
    (preceding : Preceding) (afterParagraph : Bool) :
    blocksSit false preceding afterParagraph 1 0 0 (tail ++ after) = true := by
  induction tail generalizing preceding afterParagraph with
  | nil => exact hafter preceding afterParagraph
  | cons block tail ih =>
    obtain ⟨⟨hkind, hlead, alternate, hsits⟩, hrest⟩ := List.forall_mem_cons.mp htail
    cases block with
    | other m span =>
      refine blocksSit_top_cons.mpr ⟨hsits, fun next _ => ?_, ih hrest _ _⟩
      simp [Block.admits, hlead]
    | _ => simp [Block.kind] at hkind

private theorem blocksSit_top_list {list : ListBlock} {blocks : List Block}
    (hlist : ∀ alternate, (Block.list list).sits alternate 1 0 0 = true)
    (hlead : ∀ next ∈ blocks.head?, next.lead = 0)
    (hblocks : ∀ preceding afterParagraph,
      blocksSit false preceding afterParagraph 1 0 0 blocks = true)
    (preceding : Preceding) (afterParagraph : Bool) :
    blocksSit false preceding afterParagraph 1 0 0 (.list list :: blocks) = true := by
  refine blocksSit_top_cons.mpr ⟨hlist _, fun next hnext => ?_, hblocks _ _⟩
  obtain ⟨ordered, start, tight, items, span⟩ := list
  rw [hlead next hnext]
  exact itemsAdmit_self ordered _ tight start 0 true items

private theorem sectionList_sits {g : Heading} {rest : List Block}
    (hlistable : isListable "" 0 (.heading g :: rest) = true)
    (hlength : (Block.heading g :: rest).length < 10 ^ maxNumberLength)
    (hrest : ∀ block ∈ rest, ∃ alternate, block.sits alternate 1 0 0 = true) (alternate : Bool) :
    (Block.list (.numbered (itemsWithoutEmptyLists
      (flattenBlocks "" 0 (.heading g :: rest)).1))).sits alternate 1 0 0 = true := by
  have hparagraphs (p : Paragraph) (hp : .paragraph p ∈ .heading g :: rest) :
      p.readsBack = true := by
    obtain ⟨_, hreads⟩ := hrest _ ((List.mem_cons.mp hp).resolve_left (by simp))
    exact hreads
  obtain ⟨_, hsits⟩ := flattenBlocks_sits "" 0 _ hlistable hparagraphs
  have hitems : itemsSit true alternate true 1 1 0 0 (itemsWithoutEmptyLists
      (flattenBlocks "" 0 (.heading g :: rest)).1) = true := hsits (by omega) (Nat.zero_le 3)
  have hne : itemsWithoutEmptyLists (flattenBlocks "" 0 (.heading g :: rest)).1 ≠ [] := by
    simp [flattenBlocks, headingItem, itemsWithoutEmptyLists]
  simp [ListBlock.numbered, Block.sits, hne, hitems]

private theorem sectionTail_sits {g : Heading} {rest : List Block}
    (hlistable : isListable "" 0 (.heading g :: rest) = true)
    (hrest : ∀ block ∈ rest, ∃ alternate, block.sits alternate 1 0 0 = true) :
    ∀ block ∈ (flattenBlocks "" 0 (.heading g :: rest)).2, block.kind = .other ∧
      block.lead = 0 ∧ ∃ alternate, block.sits alternate 1 0 0 = true := by
  intro block hblock
  obtain ⟨hmem, hkind⟩ := mem_flattenBlocks_tail hblock
  refine ⟨hkind, lead_of_isListable hlistable hmem, ?_⟩
  rcases List.mem_cons.mp hmem with rfl | hmem
  · simp [Block.kind] at hkind
  · exact hrest block hmem

/-- A document that sits still does so with listable sections turned into a list, but for the empty
lists under headings that nothing stands under. -/
private theorem Document.headingToList_sits {document : Document} {index : Nat} {h : Heading}
    (hsits : document.sits = true) (hheading : document[index]? = some (.heading h)) {peers : Bool}
    (hlistable : isListable "" 0 (document.sectionRun index peers) = true)
    (hlength : (document.sectionRun index peers).length < 10 ^ maxNumberLength) :
    (document.headingToList index peers false).withoutEmptyLists.sits = true := by
  obtain ⟨before, g, rest, after, hrun, hdocument, hheads, hlist⟩ := headingToList_eq hheading peers
  rw [sits, hdocument] at hsits
  rw [hrun] at hlistable hlength
  obtain ⟨hbefore, hbehind⟩ := List.forall_mem_append.mp fun block => exists_sits_of_mem hsits
  obtain ⟨hrest, hends⟩ := List.forall_mem_append.mp (List.forall_mem_cons.mp hbehind).2
  have htail := sectionTail_sits hlistable hrest
  have hsplit : blocksSit false .nothing false 1 0 0 ((before ++ .heading g :: rest) ++ after) =
      true := by rwa [List.append_assoc]
  have hlead : ∀ next ∈ ((flattenBlocks "" 0 (.heading g :: rest)).2 ++ after).head?,
      next.lead = 0 := by
    intro next hnext
    rw [List.head?_append, Option.mem_def, Option.or_eq_some_iff] at hnext
    rcases hnext with hnext | ⟨_, hnext⟩
    · exact (htail next (List.mem_of_mem_head? hnext)).2.1
    · obtain ⟨g', rfl⟩ := exists_eq_heading (hheads next hnext)
      rfl
  have hbehindList := blocksSit_top_others htail (blocksSit_top_heads hsplit hheads)
  have hall := blocksSit_top_replace hsits rfl
    (blocksSit_top_list (sectionList_sits hlistable hlength hrest) hlead hbehindList)
  -- All that pruning takes away stands inside the new list, which is not empty itself.
  have hheld : (Block.list (.numbered (flattenBlocks "" 0 (.heading g :: rest)).1)).isEmptyList =
      false := by
    simp [flattenBlocks, Block.isEmptyList, Block.list?, ListBlock.items, ListBlock.numbered]
  rw [hlist, withoutEmptyLists, sits, blocksWithoutEmptyLists_append,
    blocksWithoutEmptyLists_of_forall_sits hbefore, blocksWithoutEmptyLists, hheld,
    if_neg Bool.false_ne_true, blocksWithoutEmptyLists_append,
    blocksWithoutEmptyLists_of_forall_sits fun block hblock => (htail block hblock).2.2,
    blocksWithoutEmptyLists_of_forall_sits hends]
  exact hall

/-- The sections that turn into a list with the heading at a line read back as its items. -/
def Document.isListableAt (document : Document) (line : Nat) (peers : Bool) : Bool :=
  (document.headingStartingAt? line).all fun index =>
    decide ((document.sectionRun index peers).length < 10 ^ maxNumberLength) &&
      isListable "" 0 (document.sectionRun index peers)

/-- A document that sits is read back with its sections as the list that they were turned into, if
they are listable. -/
theorem Document.shape_reparsed_headingToListAt (document : Document) (line : Nat) (peers : Bool)
    (hsits : document.sits = true) (hlistable : document.isListableAt line peers = true) :
    (ofMarkdown (document.headingToListAt line peers).toMarkdown).shape =
      (document.headingToListAt line peers).withoutEmptyLists.shape := by
  refine shape_reparsed_withoutEmptyLists ?_
  unfold headingToListAt
  rw [isListableAt] at hlistable
  cases hindex : document.headingStartingAt? line with
  | none =>
    rw [withoutEmptyLists, blocksWithoutEmptyLists_of_blocksSit document hsits]
    exact hsits
  | some index =>
    simp only [hindex, Option.all_some, Bool.and_eq_true, decide_eq_true_eq] at hlistable
    obtain ⟨hbound, hstarts, _⟩ := List.findIdx?_eq_some_iff_getElem.mp hindex
    obtain ⟨h, hheading⟩ := exists_eq_heading (Option.isSome_of_any hstarts)
    exact headingToList_sits hsits (List.getElem?_eq_some_iff.mpr ⟨hbound, hheading⟩) hlistable.2
      hlistable.1

/-- A list and code in a section, and a heading with nothing under it. -/
theorem Document.shape_reparsed_headingToListAt_nested :
    (ofMarkdown "# A\n\n- x\n\n## B\n\n~~~rust\nf\n~~~\n").sits = true ∧
      (ofMarkdown "# A\n\n- x\n\n## B\n\n~~~rust\nf\n~~~\n").isListableAt 1 true = true ∧
      (ofMarkdown ((ofMarkdown "# A\n\n- x\n\n## B\n\n~~~rust\nf\n~~~\n").headingToListAt
        1 true).toMarkdown).shape =
        ((ofMarkdown "# A\n\n- x\n\n## B\n\n~~~rust\nf\n~~~\n").headingToListAt
          1 true).withoutEmptyLists.shape :=
  have hsits : (ofMarkdown "# A\n\n- x\n\n## B\n\n~~~rust\nf\n~~~\n").sits = true := by
    decide +kernel
  have hlistable : (ofMarkdown "# A\n\n- x\n\n## B\n\n~~~rust\nf\n~~~\n").isListableAt 1 true =
      true := by decide +kernel
  ⟨hsits, hlistable, shape_reparsed_headingToListAt _ 1 true hsits hlistable⟩

/-- A list that starts with 3 is written under its label and reads as the second line of it. -/
theorem Document.shape_reparsed_headingToListAt_ne :
    (ofMarkdown (ofMarkdown "# A\n\n3. x\n").toMarkdown).shape =
        (ofMarkdown "# A\n\n3. x\n").shape ∧
      (ofMarkdown ((ofMarkdown "# A\n\n3. x\n").headingToListAt 1 false).toMarkdown).shape ≠
        ((ofMarkdown "# A\n\n3. x\n").headingToListAt 1 false).withoutEmptyLists.shape := by
  decide +kernel

end MarkdownOutline
