import MarkdownOutline.Proofs.Depths

/-!
# Heading depths of a text

The headings that are read from a text have depths that can be written: hash signs are counted up
to six, and underlines make headings of the first two levels. The chain of open blocks keeps this
for everything it has closed and for the leaf that is still open.
-/

namespace MarkdownOutline

namespace Markdown

open Text

def DraftLeaf.InRange : DraftLeaf → Prop
  | .heading level _ => 1 ≤ level ∧ level ≤ maxHeadingDepth
  | _ => True

/-- All headings in the draft that an outline opens have levels that can be written. -/
inductive Draft.InRange : Draft → Prop
  | leaf {leaf : DraftLeaf} {span : Span} (h : leaf.InRange) : InRange (.leaf leaf span)
  | quote {children : List Draft} {span : Span} : InRange (.quote children span)
  | list {marker : ListMarker} {tight : Bool} {items : List DraftItem} {span : Span}
      (h : ∀ item ∈ items, ∀ child ∈ item.children, InRange child) :
      InRange (.list marker tight items span)

def Closed.InRange : Closed → Prop
  | .block closed => closed.draft.InRange
  | .item closed => ∀ child ∈ closed.item.children, child.InRange

def Frame.InRange : Frame → Prop
  | .blocks _ _ _ children => ∀ block ∈ children, block.draft.InRange
  | .list _ _ _ items => ∀ item ∈ items, ∀ child ∈ item.item.children, child.InRange

def OpenLeaf.InRange (leaf : OpenLeaf) : Prop :=
  ∀ level, leaf.kind = .heading level → 1 ≤ level ∧ level ≤ maxHeadingDepth

structure BlockChain.InRange (chain : BlockChain) : Prop where
  frames : ∀ frame ∈ chain.frames, frame.InRange
  leaf : ∀ leaf ∈ chain.leaf, leaf.InRange

structure Entry.InRange (entry : Entry) : Prop where
  frames : ∀ frame ∈ entry.frames, frame.InRange
  pending : ∀ frame ∈ entry.pending, frame.InRange
  leaf : ∀ leaf ∈ entry.leaf, leaf.InRange

theorem hashHeading?_inRange {s rest : List Char} {level : Nat}
    (h : hashHeading? s = some (level, rest)) : 1 ≤ level ∧ level ≤ maxHeadingDepth := by
  simp only [hashHeading?] at h
  split at h
  next hlevel =>
    simp only [Option.some.injEq, Prod.mk.injEq] at h
    simp only [Bool.and_eq_true, decide_eq_true_eq] at hlevel
    rw [← h.1]
    exact hlevel.1
  · simp at h

theorem underlineLevel?_inRange {s : List Char} {level : Nat} (h : underlineLevel? s = some level) :
    1 ≤ level ∧ level ≤ maxHeadingDepth := by
  unfold underlineLevel? at h
  split at h
  · split at h
    · cases h; decide
    · cases h
  · split at h
    · cases h; decide
    · cases h
  · cases h

theorem OpenLeaf.close_inRange (leaf : OpenLeaf) (closing : Closing) (h : leaf.InRange) :
    ∀ block ∈ (leaf.close closing).1, block.draft.InRange := by
  intro block hblock
  unfold close at hblock
  split at hblock
  · dsimp only at hblock
    split at hblock
    · simp at hblock
    · cases hblock
      exact .leaf trivial
  next level hkind =>
    cases hblock
    exact .leaf (h level hkind)
  all_goals
    cases hblock
    exact .leaf trivial

theorem Frame.push_inRange {frame : Frame} {closed : Closed} (hframe : frame.InRange)
    (hclosed : closed.InRange) : (frame.push closed).InRange := by
  cases frame with
  | blocks kind first blankEnd children =>
    cases closed with
    | block block => exact List.forall_mem_cons.mpr ⟨hclosed, hframe⟩
    | item item => exact hframe
  | list marker first blankEnd items =>
    cases closed with
    | block block => exact hframe
    | item item => exact List.forall_mem_cons.mpr ⟨hclosed, hframe⟩

theorem Frame.setBlankEnd_inRange {frame : Frame} (blankEnd : Bool) (h : frame.InRange) :
    (frame.setBlankEnd blankEnd).InRange := by
  cases frame <;> exact h

theorem Frame.markLastBlank_inRange {frame : Frame} (h : frame.InRange) :
    frame.markLastBlank.InRange := by
  unfold markLastBlank
  split
  · simpa [InRange] using h
  · simpa [InRange] using h
  · exact h

theorem Frame.close_inRange {frame : Frame} (closing : Closing) (followed : Bool)
    (h : frame.InRange) : ∀ closed ∈ frame.close closing followed, closed.InRange := by
  intro closed hclosed
  unfold close at hclosed
  split at hclosed
  · simp at hclosed
  · cases hclosed
    exact .quote
  · cases hclosed
    simpa [Closed.InRange, DraftItem.children, InRange] using h
  · cases hclosed
    refine .list fun item hitem => ?_
    simp only [List.mem_map, List.mem_reverse] at hitem
    obtain ⟨source, hsource, rfl⟩ := hitem
    exact h source hsource

theorem closeChain_inRange (closing : Closing) (followed : Bool) (frames : List Frame)
    (inner : Option Closed) (hframes : ∀ frame ∈ frames, frame.InRange)
    (hinner : ∀ closed ∈ inner, closed.InRange) :
    ∀ closed ∈ closeChain closing followed frames inner, closed.InRange := by
  induction frames generalizing followed inner with
  | nil => exact hinner
  | cons frame outer ih =>
    have hframe := hframes frame List.mem_cons_self
    refine ih false _ (fun f hf => hframes f (List.mem_cons_of_mem _ hf))
      (Frame.close_inRange closing followed ?_)
    cases inner with
    | none => exact hframe
    | some closed => exact Frame.push_inRange hframe (hinner closed rfl)

namespace Entry

theorem pushOnto_inRange {frames : List Frame} {closed : Option Closed}
    (hframes : ∀ frame ∈ frames, frame.InRange) (hclosed : ∀ c ∈ closed, c.InRange) :
    ∀ frame ∈ pushOnto frames closed, frame.InRange := by
  unfold pushOnto
  split
  · simp only [List.mem_cons, forall_eq_or_imp] at hframes ⊢
    exact ⟨Frame.push_inRange hframes.1 (hclosed _ rfl), hframes.2⟩
  · exact hframes

theorem settle_inRange {entry : Entry} (keepsList early : Bool) (h : entry.InRange) :
    (entry.settle keepsList early).InRange := by
  have hclosed (followed : Bool) : ∀ closed ∈ closeChain entry.closing followed entry.pending
      (((entry.leaf.map (·.close entry.closing)).getD (none, [])).1.map .block),
      closed.InRange := by
    refine closeChain_inRange _ _ _ _ h.pending fun closed hclosed => ?_
    cases hleaf : entry.leaf with
    | none => simp [hleaf] at hclosed
    | some leaf =>
      simp only [hleaf, Option.map_some, Option.getD_some, Option.mem_def,
        Option.map_eq_some_iff] at hclosed
      obtain ⟨block, hblock, rfl⟩ := hclosed
      exact leaf.close_inRange entry.closing (h.leaf leaf hleaf) block hblock
  refine ⟨?_, by simp [settle], by simp [settle]⟩
  simp only [settle]
  have hpushed (followed : Bool) := pushOnto_inRange h.frames (hclosed followed)
  split
  · split
    next list outer hframes =>
      have hall := hframes ▸ hpushed _
      simp only [List.mem_cons, forall_eq_or_imp] at hall
      exact pushOnto_inRange hall.2 (Frame.close_inRange _ _ hall.1)
    · simp
  · exact hpushed _

theorem growingLeaf?_inRange {entry : Entry} (h : entry.InRange) :
    ∀ leaf ∈ entry.growingLeaf?, leaf.InRange := by
  unfold growingLeaf?
  split
  · exact h.leaf
  · simp

theorem openLeaf_inRange {entry : Entry} (kind : OpenLeafKind) (cursor : Cursor)
    (hkind : ∀ level, kind = .heading level → 1 ≤ level ∧ level ≤ maxHeadingDepth)
    (h : entry.InRange) : (entry.openLeaf kind cursor).InRange := by
  have hsettled := settle_inRange false true h
  refine ⟨hsettled.frames, hsettled.pending, ?_⟩
  simpa [openLeaf, OpenLeaf.InRange] using hkind

theorem openFrame_inRange {entry : Entry} {frame : Frame} (cursor : Cursor) (hframe : frame.InRange)
    (h : entry.InRange) : (entry.openFrame frame cursor).InRange := by
  have hsettled := settle_inRange false true h
  refine ⟨?_, hsettled.pending, hsettled.leaf⟩
  exact List.forall_mem_cons.mpr ⟨hframe, hsettled.frames⟩

theorem openItem_inRange {entry : Entry} (marker : ListMarker) (width : Nat) (cursor : Cursor)
    (h : entry.InRange) : (entry.openItem marker width cursor).InRange := by
  have hitem : (Frame.blocks (.item width) entry.line false []).InRange := by simp [Frame.InRange]
  have hlist : (Frame.list marker entry.line false []).InRange := by simp [Frame.InRange]
  unfold openItem
  dsimp only
  split
  · have hsettled := settle_inRange true true h
    exact ⟨List.forall_mem_cons.mpr ⟨hitem, hsettled.frames⟩, hsettled.pending, hsettled.leaf⟩
  · have hsettled := settle_inRange false true h
    exact ⟨List.forall_mem_cons.mpr ⟨hitem, List.forall_mem_cons.mpr ⟨hlist, hsettled.frames⟩⟩,
      hsettled.pending, hsettled.leaf⟩

theorem underline_inRange {entry : Entry} {leaf : OpenLeaf} {level : Nat}
    (hleaf : leaf.InRange) (hlevel : 1 ≤ level ∧ level ≤ maxHeadingDepth) (h : entry.InRange) :
    (entry.underline leaf level).InRange := by
  unfold underline
  dsimp only
  split
  · exact ⟨h.frames, h.pending, by simpa [OpenLeaf.InRange] using hleaf⟩
  · refine ⟨h.frames, h.pending, ?_⟩
    simpa [OpenLeaf.InRange] using hlevel

theorem openTable_inRange {entry : Entry} (leaf : OpenLeaf) (header : TableRow)
    (columns : List Alignment) (h : entry.InRange) :
    (entry.openTable leaf header columns).InRange := by
  have hparagraph : ∀ c ∈ (if header.offset == 0 then none else some (Closed.block
      ⟨.leaf (.paragraph (trimBy isSpacing (unescapePipes (leaf.text.take header.offset))))
        ⟨leaf.first, leaf.first + (leaf.text.take header.offset).count '\n' - 1⟩, false⟩)),
      c.InRange := by
    intro c hc
    split at hc
    · simp at hc
    · cases hc
      exact .leaf trivial
  refine ⟨pushOnto_inRange h.frames hparagraph, h.pending, ?_⟩
  simp [openTable, OpenLeaf.InRange]

theorem openRow_inRange {entry : Entry} (leaf : OpenLeaf) (h : entry.InRange) :
    (entry.openRow leaf).InRange := by
  unfold openRow
  dsimp only
  split
  · split
    · exact h
    · split
      · split
        · exact openTable_inRange _ _ _ h
        · exact ⟨h.frames, h.pending, by simp [OpenLeaf.InRange]⟩
      · exact ⟨h.frames, h.pending, by simp [OpenLeaf.InRange]⟩
  · split
    · exact ⟨h.frames, h.pending, by simp [OpenLeaf.InRange]⟩
    · exact h
  · exact h

private theorem underlined?_inRange {entry : Entry} {leaf : OpenLeaf} {level : Nat}
    {text : List Char} (h : entry.InRange)
    (hunderlined : (entry.growingLeaf?.bind fun leaf =>
      if leaf.isParagraph then (underlineLevel? text).map fun level => (leaf, level) else none) =
        some (leaf, level)) : leaf.InRange ∧ 1 ≤ level ∧ level ≤ maxHeadingDepth := by
  obtain ⟨growing, hgrowing, hunderlined⟩ := Option.bind_eq_some_iff.mp hunderlined
  split at hunderlined
  · obtain ⟨found, hfound, heq⟩ := Option.map_eq_some_iff.mp hunderlined
    cases heq
    exact ⟨growingLeaf?_inRange h _ hgrowing, underlineLevel?_inRange hfound⟩
  · cases hunderlined

theorem openBlocks_inRange (fuel depth : Nat) (maybeLazy : Bool) {entry : Entry}
    (h : entry.InRange) : (openBlocks fuel depth maybeLazy entry).InRange := by
  induction fuel generalizing depth maybeLazy entry with
  | zero => exact h
  | succ fuel ih =>
    unfold openBlocks
    dsimp only
    split
    · exact h
    · split
      · split
        · exact h
        · exact openLeaf_inRange _ _ (by simp) h
      · split
        · exact ih _ _ (openFrame_inRange _ (by simp [Frame.InRange]) h)
        · split
          next level rest hheading =>
            refine openLeaf_inRange _ _ (fun l hl => ?_) h
            cases hl
            exact hashHeading?_inRange hheading
          · split
            · exact openLeaf_inRange _ _ (by simp) h
            · split
              · exact openLeaf_inRange _ _ (by simp) h
              · split
                next leaf level hunderline =>
                  obtain ⟨hleaf, hlevel⟩ := underlined?_inRange h hunderline
                  exact underline_inRange hleaf hlevel h
                · split
                  · exact openLeaf_inRange _ _ (by simp) h
                  · split
                    · exact ih _ _ (openItem_inRange _ _ _ h)
                    · split
                      · exact openRow_inRange _ h
                      · exact h

theorem markContainer_inRange {entry : Entry} (blank : Bool) (h : entry.InRange) :
    ∀ frame ∈ markContainer entry blank, frame.InRange := by
  unfold markContainer
  split
  · simp
  next frame outer hframes =>
    have hall := hframes ▸ h.frames
    simp only [List.mem_cons, forall_eq_or_imp, List.mem_map, forall_exists_index, and_imp,
      forall_apply_eq_imp_iff₂] at hall ⊢
    exact ⟨Frame.setBlankEnd_inRange _ hall.1, fun f hf => Frame.setBlankEnd_inRange _ (hall.2 f hf)⟩

theorem markNewest_inRange {entry : Entry} (h : entry.InRange) : (markNewest entry).InRange := by
  unfold markNewest
  split
  next outermost inner hpending =>
    have hall : ∀ frame ∈ outermost :: inner, frame.InRange := by
      intro frame hframe
      rw [← hpending, List.mem_reverse] at hframe
      exact h.pending frame hframe
    simp only [List.mem_cons, forall_eq_or_imp] at hall
    refine ⟨h.frames, ?_, h.leaf⟩
    simp only [List.mem_append, List.mem_reverse, List.mem_singleton]
    rintro frame (hframe | rfl)
    · exact hall.2 frame hframe
    · exact Frame.setBlankEnd_inRange _ hall.1
  next leaf _ hleaf =>
    exact ⟨h.frames, h.pending, by simpa [OpenLeaf.InRange] using h.leaf leaf hleaf⟩
  · split
    next frame outer hframes =>
      have hall := hframes ▸ h.frames
      simp only [List.mem_cons, forall_eq_or_imp] at hall
      exact ⟨List.forall_mem_cons.mpr ⟨Frame.markLastBlank_inRange hall.1, hall.2⟩, h.pending,
        h.leaf⟩
    · exact h

theorem finish_inRange {entry : Entry} (h : entry.InRange) : (finish entry).InRange := by
  refine ⟨fun frame hframe => ?_, h.leaf⟩
  rcases List.mem_append.mp hframe with hframe | hframe
  · exact h.pending frame hframe
  · exact h.frames frame hframe

theorem startParagraph_inRange {entry : Entry} (h : entry.InRange) :
    (startParagraph entry).InRange := by
  have hsettled := settle_inRange false false h
  exact ⟨hsettled.frames, hsettled.pending, by simp [startParagraph, OpenLeaf.InRange]⟩

theorem addToLeaf_inRange {entry : Entry} {leaf : OpenLeaf} (hleaf : leaf.InRange)
    (h : entry.InRange) : (addToLeaf entry leaf).InRange := by
  have hkept (blankEnd : Bool) (lines : List (List Char)) : ({ entry with
      frames := entry.frames.map (Frame.setBlankEnd false)
      leaf := some { leaf with blankEnd, lines } } : Entry).InRange := by
    refine ⟨?_, h.pending, by simpa [OpenLeaf.InRange] using hleaf⟩
    simp only [List.mem_map, forall_exists_index, and_imp, forall_apply_eq_imp_iff₂]
    exact fun frame hframe => Frame.setBlankEnd_inRange _ (h.frames frame hframe)
  unfold addToLeaf
  dsimp only
  split
  · exact finish_inRange (hkept _ _)
  · exact finish_inRange (hkept _ _)
  · split
    · exact finish_inRange (settle_inRange _ _ (hkept _ _))
    · exact finish_inRange (hkept _ _)
  · split
    · exact finish_inRange (hkept _ _)
    · exact finish_inRange (hkept _ _)
  · split
    · exact finish_inRange (hkept _ _)
    · exact finish_inRange (hkept _ _)
  · split
    · exact finish_inRange (hkept _ _)
    · exact finish_inRange (startParagraph_inRange (hkept _ _))
  · split
    · exact finish_inRange (hkept _ _)
    · exact finish_inRange (startParagraph_inRange (hkept _ _))

theorem addText_inRange {entry : Entry} (h : entry.InRange) : (addText entry).InRange := by
  unfold addText
  split
  next leaf hleaf => exact addToLeaf_inRange (growingLeaf?_inRange h leaf hleaf) h
  · have hmarked : ({ entry with
        frames := markContainer entry entry.cursor.isBlank } : Entry).InRange :=
      ⟨markContainer_inRange _ h, h.pending, h.leaf⟩
    dsimp only
    split
    · exact finish_inRange (settle_inRange _ _ (markNewest_inRange hmarked))
    · split
      next leaf hleaf =>
        split
        · refine finish_inRange ⟨hmarked.frames, h.pending, ?_⟩
          simpa [OpenLeaf.InRange, OpenLeaf.addLine] using h.leaf leaf hleaf
        · exact finish_inRange (startParagraph_inRange hmarked)
      · exact finish_inRange (startParagraph_inRange hmarked)

end Entry

namespace BlockChain

theorem continued_inRange (inhabited : Bool) (frames matched : List Frame) (cursor : Cursor)
    (hframes : ∀ frame ∈ frames, frame.InRange) (hmatched : ∀ frame ∈ matched, frame.InRange) :
    (∀ frame ∈ (continued inhabited frames cursor matched).1, frame.InRange) ∧
      ∀ frame ∈ (continued inhabited frames cursor matched).2.1, frame.InRange := by
  induction frames generalizing cursor matched with
  | nil => exact ⟨hmatched, by simp [continued]⟩
  | cons frame inner ih =>
    have hall := List.forall_mem_cons.mp hframes
    unfold continued
    split
    · exact ih _ _ hall.2 (List.forall_mem_cons.mpr ⟨hall.1, hmatched⟩)
    · exact ⟨hmatched, hframes⟩

/-- A line keeps the headings of the chain in range. -/
theorem addLine_inRange {chain : BlockChain} (line : List Char) (h : chain.InRange) :
    (chain.addLine line).InRange := by
  have hcontinued := continued_inRange chain.leaf.isSome chain.frames.reverse [] ⟨line, 0, false⟩
    (fun frame hframe => h.frames frame (List.mem_reverse.mp hframe)) (by simp)
  unfold addLine
  generalize continued chain.leaf.isSome chain.frames.reverse ⟨line, 0, false⟩ [] = result
    at hcontinued ⊢
  obtain ⟨frames, pending, cursor⟩ := result
  dsimp only at hcontinued ⊢
  have hentry (growing : Bool) (cursor : Cursor) : ({
      closing := ⟨chain.lineCount + 1, false⟩, frames, pending := pending.reverse
      leaf := chain.leaf, growing, targets := chain.targets, cursor } : Entry).InRange :=
    ⟨hcontinued.1, by simpa using hcontinued.2, h.leaf⟩
  split
  · split
    · exact Entry.addText_inRange (Entry.openBlocks_inRange _ _ _ (hentry true _))
    · exact Entry.addText_inRange (Entry.openBlocks_inRange _ _ _ (hentry false _))
    · exact Entry.finish_inRange (Entry.settle_inRange _ _ (hentry false _))
  · exact Entry.addText_inRange (Entry.openBlocks_inRange _ _ _ (hentry false _))

theorem close_inRange {chain : BlockChain} (h : chain.InRange) :
    ∀ draft ∈ chain.close.1, draft.InRange := by
  have hentry : Entry.InRange {
      closing := ⟨chain.lineCount, true⟩, frames := chain.frames.drop (chain.frames.length - 1)
      pending := chain.frames.take (chain.frames.length - 1), leaf := chain.leaf, growing := false
      targets := chain.targets, cursor := ⟨[], 0, false⟩ } :=
    ⟨fun frame hframe => h.frames frame (List.mem_of_mem_drop hframe),
      fun frame hframe => h.frames frame (List.mem_of_mem_take hframe), h.leaf⟩
  have hsettled := Entry.settle_inRange true false hentry
  unfold close
  dsimp only
  split
  next children outer hframes =>
    have hall := hsettled.frames _ (hframes ▸ List.mem_cons_self)
    simpa [Frame.InRange] using hall
  · simp

theorem foldl_addLine_inRange {chain : BlockChain} (lines : List (List Char)) (h : chain.InRange) :
    (lines.foldl addLine chain).InRange := by
  induction lines generalizing chain with
  | nil => exact h
  | cons line lines ih => exact ih (addLine_inRange line h)

theorem read_inRange (text : List Char) : ∀ draft ∈ (read text).1, draft.InRange := by
  have hstart : start.InRange := ⟨by simp [start, Frame.InRange], by simp [start]⟩
  exact close_inRange (foldl_addLine_inRange _ hstart)

end BlockChain

mutual

theorem Draft.toBlock_depthsInRange (draft : Draft) (references : References)
    (h : draft.InRange) : DepthsInRange (draft.toBlock references).1.headings := by
  match draft, h with
  | .leaf (.heading level text) span, .leaf h =>
    exact List.forall_mem_singleton.mpr h
  | .leaf (.paragraph text) span, _ => exact depthsInRange_nil
  | .leaf (.code fenced info literal) span, _ => exact depthsInRange_nil
  | .leaf (.html literal) span, _ => exact depthsInRange_nil
  | .leaf .thematicBreak span, _ => exact depthsInRange_nil
  | .leaf (.table columns rows) span, _ => exact depthsInRange_nil
  | .quote children span, _ => exact depthsInRange_nil
  | .list marker tight items span, .list h =>
    exact itemsBlocks_depthsInRange items references h

theorem draftsBlocks_depthsInRange (drafts : List Draft) (references : References)
    (h : ∀ draft ∈ drafts, draft.InRange) :
    DepthsInRange (blockHeadings (draftsBlocks drafts references).1) := by
  match drafts with
  | [] => exact depthsInRange_nil
  | draft :: rest =>
    have hall := List.forall_mem_cons.mp h
    exact depthsInRange_append.mpr ⟨draft.toBlock_depthsInRange references hall.1,
      draftsBlocks_depthsInRange rest _ hall.2⟩

theorem itemsBlocks_depthsInRange (items : List DraftItem) (references : References)
    (h : ∀ item ∈ items, ∀ child ∈ item.children, child.InRange) :
    DepthsInRange (itemHeadings (itemsBlocks items references).1) := by
  match items with
  | [] => exact depthsInRange_nil
  | .mk children span :: rest =>
    have hall := List.forall_mem_cons.mp h
    exact depthsInRange_append.mpr ⟨draftsBlocks_depthsInRange children references hall.1,
      itemsBlocks_depthsInRange rest _ hall.2⟩

end

end Markdown

theorem Document.ofMarkdown_depthsInRange (text : String) :
    DepthsInRange (ofMarkdown text).headings :=
  Markdown.draftsBlocks_depthsInRange _ _ (Markdown.BlockChain.read_inRange text.toList)

/-- Whatever changes are made to the document of a text, in whatever order, all its headings, inside
list items too, have depths that can be written. -/
theorem Document.depthsInRange_of_transform (text : String) (changes : List Transform) :
    ∀ h ∈ ((ofMarkdown text).transform changes).headings, 1 ≤ h.depth ∧ h.depth ≤ 6 :=
  transform_depthsInRange _ changes (ofMarkdown_depthsInRange text)

theorem Document.depthsInRange_of_transform_nested :
    ∃ h ∈ ((ofMarkdown "###### A\n\n- # b\n").transform
        [.format ⟨.depth 1, .increaseFromOne⟩, .headingDepth 1 9 true]).headings,
      1 ≤ h.depth ∧ h.depth ≤ 6 := by
  have hsome : ((ofMarkdown "###### A\n\n- # b\n").transform
      [.format ⟨.depth 1, .increaseFromOne⟩, .headingDepth 1 9 true]).headings.isEmpty =
        false := by decide +kernel
  have hmem := List.head_mem (List.isEmpty_eq_false_iff.mp hsome)
  exact ⟨_, hmem, depthsInRange_of_transform _ _ _ hmem⟩

end MarkdownOutline
