import MarkdownOutline.Proofs.Readings

/-!
# Reading what was written

The lines of a document that sits are read, one block after the other, as the blocks that they were
written from.
-/

namespace MarkdownOutline

open Markdown Text

structure ReadsAs (tail : OpenTail) (block : Block) (alternate : Bool) (first rest : Nat) :
    Prop where
  marker : ∀ m, tail.marker? = some m →
    ∃ l, block = .list l ∧ m = readMarker l.ordered alternate l.start
  paragraph : tail.isParagraph = block.isParagraph
  clears : ∀ reach spaced, block.admits alternate first rest reach spaced = true →
    tail.Clears reach ∨ spaced = true ∧ tail.IsHollow

section

variable {entry : Markdown.Entry} {before : OpenTail} {base : BlockFrame} {outer : List Frame}
  {line : List Char} {indent : Nat}

private theorem Heading.reads {heading : Heading} (h : heading.readsBack = true)
    (hstarts : entry.Starts before base outer heading.toText indent) (hindent : indent ≤ 3)
    (hleaf : ∀ leaf, before.leaf? = some leaf → leaf.isParagraph = false) (fuel depth : Nat)
    (maybeLazy alternate : Bool) (first rest : Nat) :
    ∃ tail, ((entry.openBlocks (fuel + 1) depth maybeLazy).addText).Ends base.kind
        (outer.map Frame.calm) (before.doneIn base) tail ∧
      tail.result = some ((Block.heading heading).reading alternate) ∧
      ReadsAs tail (.heading heading) alternate first rest := by
  have hline : StartsAfter 0 heading.toText := (Heading.lines_of_readsBack h).2.2 _ rfl
  obtain ⟨level, text, hlevel⟩ :
      ∃ level text, hashHeading? (heading.toText ++ ['\n']) = some (level, text) := by
    simp only [readsBack, Bool.and_eq_true] at h
    cases hheading : hashHeading? (heading.toText ++ ['\n']) with
    | none => simp [hheading] at h
    | some found => exact ⟨found.1, found.2, rfl⟩
  rw [hstarts.at_.openBlocks_heading (OpenTail.isParagraph_of_leaf? hleaf)
    (hstarts.indent_eq hline ▸ hindent) (hstarts.text_eq hline ▸ hlevel)]
  obtain ⟨leaf, hyields, hend, hkind, hstands⟩ := hstarts.at_.addText_heading level text
  have hreading : heading.reading = .heading level (headingText text) := by
    simp [Heading.reading, hlevel]
  refine ⟨.leaf leaf, ⟨_, hstands, rfl, rfl, ?_, trivial⟩, ?_, ?_, ?_, fun _ _ _ => .inl ?_⟩
  · exact hstarts.at_.sound.unplaced_push_closed _ base
  · rw [OpenTail.result_leaf hyields, hend, Block.reading, hreading]
  · simp [OpenTail.marker?]
  · simp [OpenTail.isParagraph, OpenLeaf.isParagraph, hkind, Block.isParagraph]
  · simp [OpenTail.Clears, hkind]

private theorem dropWhile_of_restIsBlank_false {l : List Char} (h : restIsBlank l = false) :
    (l ++ ['\n']).dropWhile isSpaceOrTab = paragraphLine l := by
  have hne : (l.dropWhile isSpaceOrTab).isEmpty = false := by
    cases hl : l.dropWhile isSpaceOrTab with
    | nil => simp [restIsBlank, hl] at h
    | cons c s => rfl
  rw [List.dropWhile_append, hne, paragraphLine]
  rfl

private theorem restIsBlank_append_lineEnd {l : List Char} (h : restIsBlank l = false) :
    restIsBlank (l ++ ['\n']) = false := by
  rw [restIsBlank, dropWhile_of_restIsBlank_false h]
  cases hl : l.dropWhile isSpaceOrTab with
  | nil => simp [restIsBlank, hl] at h
  | cons c s => simpa [restIsBlank, hl, paragraphLine] using h

private theorem addIndented_paragraph {chain : BlockChain} {leaf : OpenLeaf}
    (hleaf : chain.leaf = some leaf) (hkind : leaf.kind = .paragraph false)
    (hframes : chain.frames = base.toFrame :: outer) (hend : base.blankEnd = false)
    {tabs rest : Nat} (hctx : Context base.kind outer tabs rest) {lines : List (List Char)}
    (hlines : ∀ l ∈ lines, restIsBlank l = false ∧ opensNothing true (paragraphLine l) = true)
    (hblank : leaf.blankEnd = false) (htargets : chain.targets = []) :
    ∃ last : OpenLeaf, last.kind = .paragraph false ∧ last.blankEnd = false ∧
      last.lines = (lines.map paragraphLine).reverse ++ leaf.lines ∧
      (chain.addIndented tabs lines).leaf = some last ∧
      (chain.addIndented tabs lines).frames = base.toFrame :: outer ∧
      (chain.addIndented tabs lines).targets = [] := by
  induction lines generalizing chain leaf with
  | nil => exact ⟨leaf, hkind, hblank, rfl, hleaf, hframes, htargets⟩
  | cons l lines ih =>
    obtain ⟨hl, hopens⟩ := hlines l (by simp)
    have hne : l ≠ [] := by
      rintro rfl
      simp [restIsBlank] at hl
    have htext := dropWhile_of_restIsBlank_false hl
    have hbehind := hctx.behind_indentLine rfl hne
    have hadd := BlockChain.addLine_paragraph hleaf hkind (hframes ▸ hctx.isPlain rfl) hbehind
      (by rw [hframes]; omega) (restIsBlank_append_lineEnd hl) (htext ▸ hopens)
    have hcalm := hctx.calm_frames hend
    have hstep : chain.addIndented tabs (l :: lines) =
        (chain.addLine (indentLine tabs l ++ ['\n'])).addIndented tabs lines := rfl
    rw [hstep, hadd, htext]
    let next : BlockChain := { chain with
      frames := chain.frames.map Frame.calm
      leaf := some { leaf with lines := paragraphLine l :: leaf.lines, blankEnd := false }
      lineCount := chain.lineCount + 1 }
    have hnext : next.frames = base.toFrame :: outer := by
      rw [← hcalm, ← hframes]
    obtain ⟨last, hlast, hlastEnd, hlastLines, hresult⟩ :=
      ih (show next.leaf = some _ from rfl) hkind hnext
        (fun l' hl' => hlines l' (by simp [hl'])) rfl htargets
    refine ⟨last, hlast, hlastEnd, ?_, hresult⟩
    rw [hlastLines]
    simp

private theorem linkDefinitions_of_none {s : List Char} (h : linkDefinition? s = none) :
    linkDefinitions s = ([], s) := by
  unfold linkDefinitions
  cases hlength : s.length with
  | zero => rfl
  | succ n => simp [definitions, h]

private theorem Paragraph.reads {paragraph : Paragraph} (h : paragraph.readsBack = true)
    {lines : List (List Char)} (hlines : textLines paragraph.toText = line :: lines)
    (hstarts : entry.Starts before base outer line indent) (hindent : indent ≤ 3)
    (hleaf : ∀ leaf, before.leaf? = some leaf → leaf.isParagraph = false) {tabs rest : Nat}
    (hctx : Context base.kind (outer.map Frame.calm) tabs rest) (fuel depth : Nat)
    (maybeLazy alternate : Bool) (first : Nat) :
    ∃ tail, (((entry.openBlocks fuel depth maybeLazy).addText).addIndented tabs lines).Ends
        base.kind (outer.map Frame.calm) (before.doneIn base) tail ∧
      tail.result = some ((Block.paragraph paragraph).reading alternate) ∧
      ReadsAs tail (.paragraph paragraph) alternate first rest := by
  simp only [readsBack, hlines, Bool.and_eq_true, List.all_eq_true, Bool.not_eq_true',
    Option.isNone_iff_eq_none] at h
  obtain ⟨_, ⟨⟨hhead, hopens⟩, hothers⟩, hlink⟩ := h
  have hline : StartsAfter 0 line := .of_isStartChar hhead
  have hgrowing := hstarts.at_.growingLeaf?_eq (OpenTail.isParagraph_of_leaf? hleaf)
  have hin : entry.inParagraph = false := by simp [Entry.inParagraph, hgrowing]
  have htext := hstarts.text_eq hline
  have hopen : entry.openBlocks fuel depth maybeLazy = entry := by
    refine Entry.openBlocks_nothing (.inl ?_) ?_ (.inl hgrowing) fuel depth
    · rw [hstarts.indent_eq hline]
      exact hindent
    · rw [hin, htext]
      exact hopens
  obtain ⟨start, hkind, hstartEnd, hchildren, hadd⟩ :=
    hstarts.at_.addText_paragraph hleaf hstarts.behind.wellPlaced (hstarts.isBlank_eq hline)
  have hfirst : paragraphLine line = line ++ ['\n'] := by
    obtain ⟨c, s, rfl, hspace, _⟩ := hline.exists_eq
    simp [paragraphLine, hspace]
  have hblankText : restIsBlank ((line :: lines).flatMap paragraphLine) = false := by
    obtain ⟨c, s, rfl, hspace, hend⟩ := hline.exists_eq
    rw [List.flatMap_cons, hfirst]
    simp [restIsBlank, hspace, hend]
  let opened : OpenLeaf := {
    kind := .paragraph false, first := entry.line, lines := [entry.cursor.text] }
  let chain : BlockChain := {
    frames := start.toFrame :: outer.map Frame.calm, leaf := some opened, targets := []
    lineCount := entry.line }
  obtain ⟨last, hlast, hlastEnd, hlastLines, hlastLeaf, hframes, htargets⟩ :=
    addIndented_paragraph (show chain.leaf = some opened from rfl) rfl rfl hstartEnd
      (hkind ▸ hctx) hothers rfl rfl
  rw [hopen, hadd]
  have hwhole : last.text = (line :: lines).flatMap paragraphLine := by
    rw [OpenLeaf.text, hlastLines, show opened.lines = [paragraphLine line] by rw [hfirst, ← htext]]
    simp [List.flatMap]
  have hyields : last.Yields paragraph.reading := by
    intro closing
    simp only [OpenLeaf.close, hlast, hwhole, linkDefinitions_of_none hlink, hblankText,
      Bool.false_eq_true, if_false, Paragraph.reading, hlines]
  refine ⟨.leaf last,
    ⟨start, ⟨hframes, hlastLeaf, htargets, .inl (.inl ⟨false, hlast⟩), _, hyields⟩, hkind,
      hstartEnd, hchildren, trivial⟩, ?_, ?_, ?_, fun _ _ _ => .inl ?_⟩
  · rw [OpenTail.result_leaf hyields, hlastEnd, Block.reading]
  · simp [OpenTail.marker?]
  · simp [OpenTail.isParagraph, OpenLeaf.isParagraph, hlast, Block.isParagraph]
  · simp [OpenTail.Clears, hlast]

private theorem code_reads {first rest : Nat} {info literal : String}
    (h : codeSits first rest info literal = true) {fenced : Bool} {lines : List (List Char)}
    (hlines : textLines (markupText (.leaf (.codeBlock fenced info literal))) = line :: lines)
    (hstarts : entry.Starts before base outer line first) (hfirst : first ≤ 3)
    (hleaf : ∀ leaf, before.leaf? = some leaf → leaf.isParagraph = false) {tabs : Nat}
    (hctx : Context base.kind (outer.map Frame.calm) tabs rest) (fuel depth : Nat)
    (span : Option Span) (alternate : Bool) :
    ∃ older tail, (((entry.openBlocks (fuel + 1) depth false).addText).addIndented tabs lines).Ends
        base.kind (outer.map Frame.calm) older tail ∧
      tail.result.toList ++ older =
        ⟨.leaf (codeReading info literal) ⟨0, 0⟩, false⟩ :: before.doneIn base ∧
      ReadsAs tail (.other (.leaf (.codeBlock fenced info literal)) span) alternate first rest := by
  have hcode := isCodeText_of_codeSits h
  have hparagraph := OpenTail.isParagraph_of_leaf? hleaf
  simp only [codeSits, Bool.and_eq_true] at h
  obtain ⟨_, hkeeps⟩ := h
  by_cases hwritten : isWrittenIndented info literal = true
  · simp only [hwritten, if_true, Bool.and_eq_true, Bool.or_eq_true, beq_iff_eq] at hkeeps
    obtain ⟨rfl, hkeeps⟩ := hkeeps
    obtain ⟨leaf, hkind, hresult, hends⟩ :=
      hstarts.indentedCode hcode hwritten hlines hkeeps hparagraph hctx fuel depth
    refine ⟨_, .leaf leaf, hends, ?_, ?_, ?_, fun reach spaced hadmits => .inl fun _ => ?_⟩
    · rw [hresult, codeReading, if_pos hwritten]
      rfl
    · simp [OpenTail.marker?]
    · simp [OpenTail.isParagraph, OpenLeaf.isParagraph, hkind, Block.isParagraph]
    · simpa [Block.admits, Block.lead, Block.code?, Markup.leaf, hwritten] using hadmits
  · have hwritten : isWrittenIndented info literal = false := by simpa using hwritten
    simp only [hwritten, Bool.false_eq_true, if_false, Bool.and_eq_true, Bool.or_eq_true,
      decide_eq_true_eq, beq_iff_eq, List.all_eq_true, List.isEmpty_iff] at hkeeps
    have hends := hstarts.fencedCode hcode hwritten hlines hkeeps.2 hfirst hkeeps.1 hparagraph hctx
      fuel depth false
    refine ⟨_, .nothing, hends, ?_, ?_, rfl, fun _ _ _ => .inl trivial⟩
    · rw [codeReading, if_neg (by simp [hwritten])]
      rfl
    · simp [OpenTail.marker?]

end

namespace Markdown

theorem BlockChain.Ends.outward {chain : BlockChain} {l : ListFrame} {around : BlockFrame}
    {outer : List Frame} {width : Nat} {older : List ClosedBlock} {inside : OpenTail}
    (h : chain.Ends (.item width) ((l.toFrame :: around.toFrame :: outer).map Frame.calm) older
      inside) (hwidth : 0 < width) :
    ∃ i : BlockFrame, i.kind = .item width ∧
      (OpenTail.item { l with blankEnd := false } i inside).itemsDone =
        .ofBlocks (inside.result.toList ++ older) :: l.items.map ClosedItem.unplaced ∧
      chain.Ends around.kind (outer.map Frame.calm) (around.children.map ClosedBlock.unplaced)
        (.item { l with blankEnd := false } i inside) := by
  obtain ⟨i, hstands, hkind, hend, rfl, hlively⟩ := h
  refine ⟨i, hkind, rfl, { around with blankEnd := false }, ⟨?_, hstands.leaf, hstands.targets,
    rfl, ⟨width, hwidth, hkind⟩, ?_, hstands.sound⟩, rfl, rfl, rfl, .inr hlively⟩
  · rw [hstands.frames, OpenTail.frames, List.append_assoc]
    rfl
  · intro hblank
    simp [hend] at hblank

theorem Entry.At.addText_emptyItem {entry : Entry} {l : ListFrame} {around : BlockFrame}
    {outer : List Frame} {width : Nat}
    (h : entry.At .nothing ⟨.item width, entry.line, false, []⟩
      (l.toFrame :: around.toFrame :: outer)) (hwidth : 0 < width)
    (hcursor : entry.cursor.rest = ['\n']) (fuel depth : Nat) (maybeLazy : Bool) :
    ∃ i : BlockFrame, i.kind = .item width ∧ i.children = [] ∧
      (OpenTail.item { l with blankEnd := false } i .nothing).itemsDone =
        .ofBlocks [] :: l.items.map ClosedItem.unplaced ∧
      ((entry.openBlocks fuel depth maybeLazy).addText).Ends around.kind (outer.map Frame.calm)
        (around.children.map ClosedBlock.unplaced)
        (.item { l with blankEnd := false } i .nothing) := by
  have hgrowing : entry.growing = false := by
    by_contra hgrowing
    obtain ⟨leaf, tried, hleaf, _⟩ := h.growing (by simpa using hgrowing)
    cases hleaf
  have hblank : entry.cursor.isBlank = true := by
    rw [Cursor.isBlank, Cursor.text, hcursor]
    rfl
  have hpending : entry.pending = [] := h.pending
  have hleaf : entry.leaf = none := h.leaf
  have hframes : entry.frames = .blocks (.item width) entry.line false [] :: l.toFrame ::
      around.toFrame :: outer := h.frames
  rw [BlockChain.openBlocks_emptyLine hcursor hgrowing]
  have hchain : entry.addText =
      { frames := .blocks (.item width) entry.line false [] ::
          (l.toFrame :: around.toFrame :: outer).map Frame.calm
        leaf := none, targets := [], lineCount := entry.line } := by
    simp [Entry.addText, Entry.growingLeaf?, hgrowing, hblank, Entry.markContainer, hframes,
      Entry.markNewest, hpending, hleaf, Entry.settle, closeChain, Entry.pushOnto, Entry.finish,
      Frame.isEmpty, Frame.markLastBlank, Frame.setBlankEnd, h.targets, Entry.line,
      Frame.listMarker?, Frame.calm]
  refine ⟨⟨.item width, entry.line, false, []⟩, rfl, rfl, rfl, { around with blankEnd := false },
    ⟨?_, ?_, ?_, rfl, ⟨width, hwidth, rfl⟩, by simp, trivial⟩, rfl, rfl, rfl, .inl rfl⟩
  · rw [hchain]
    rfl
  · rw [hchain]
    rfl
  · rw [hchain]

/-- The entry opens an item with the marker, whatever its width and content, in a list with some
items that stands in the context. -/
def Entry.Opens (entry : Entry) (marker : ListMarker) (kind : ContainerKind) (outer : List Frame)
    (older : List ClosedBlock) (list : ListMarker) (items : List ClosedItem) : Prop :=
  ∀ width cursor, ∃ (l : ListFrame) (around : BlockFrame), l.marker = list ∧
    l.items.map ClosedItem.unplaced = items ∧ around.kind = kind ∧
    around.children.map ClosedBlock.unplaced = older ∧
    (entry.openItem marker width cursor).line = entry.line ∧
    (entry.openItem marker width cursor).cursor = cursor ∧
    (entry.openItem marker width cursor).At .nothing ⟨.item width, entry.line, false, []⟩
      (l.toFrame :: around.toFrame :: outer)

theorem Entry.At.opens_new {entry : Entry} {before : OpenTail} {base : BlockFrame}
    {outer : List Frame} (h : entry.At before base outer) {marker : ListMarker}
    (hmarker : ∀ m, before.marker? = some m → m.continuedBy marker = false) :
    entry.Opens marker base.kind outer (before.doneIn base) marker [] := by
  intro width cursor
  obtain ⟨l, around, hl, hitems, hkind, hchildren, hline, hcursor, hat⟩ :=
    h.openItem_new hmarker width cursor
  exact ⟨l, around, hl, by rw [hitems]; rfl, hkind, hchildren, hline, hcursor, hat⟩

theorem Entry.At.opens_next {entry : Entry} {tail before : OpenTail} {base : BlockFrame}
    {outer : List Frame} (h : entry.At before base outer) {older : List ClosedBlock}
    {spaced : Bool} (hprecedes : tail.Precedes older spaced before base) {list marker : ListMarker}
    (hlist : tail.marker? = some list) (hcontinued : list.continuedBy marker = true) :
    entry.Opens marker base.kind outer older list before.itemsDone := by
  intro width cursor
  obtain ⟨l, hl, hitems, hline, hcursor, hat⟩ :=
    h.openItem_next (hprecedes.marker.trans hlist) hcontinued width cursor
  have hchildren := hprecedes.children (by simp [hlist])
  exact ⟨l, base, hl, hitems, rfl, hchildren, hline, hcursor, hat⟩

end Markdown

private theorem eq_nil_of_blocksLines_nil {tight : Bool} {preceding : Preceding}
    {afterParagraph : Bool} {depth first rest : Nat} {blocks : List Block}
    (h : blocksSit tight preceding afterParagraph depth first rest blocks = true)
    (hlines : blocksLines tight preceding blocks = []) : blocks = [] := by
  cases blocks with
  | nil => rfl
  | cons block blocks =>
    simp only [blocksSit, Bool.and_eq_true] at h
    have hne := block.lines_ne_nil_of_sits h.1.1.1
    simp [blocksLines, hne] at hlines

private theorem itemsLines_cons (ordered alternate tight : Bool) (number : Nat)
    (children : List Block) (span : Option Span) (items : List Item) :
    itemsLines ordered alternate tight number (.mk children span :: items) =
      let marker := itemMarker ordered alternate number
      let content := blocksLines tight .nothing children
      (itemLines marker content).headD [] ::
        (content.tail.map (indentLine (itemTabs marker)) ++
          if items.isEmpty then []
          else (if !tight then [[]] else []) ++
            itemsLines ordered alternate tight (number + 1) items) := by
  have hitem (marker : List Char) (lines : List (List Char)) : itemLines marker lines =
      (itemLines marker lines).headD [] :: lines.tail.map (indentLine (itemTabs marker)) := by
    cases lines <;> rfl
  cases items with
  | nil =>
    simp only [itemsLines]
    rw [hitem]
    simp
  | cons next items =>
    rw [itemsLines, hitem]
    cases tight <;> simp

private theorem spacedNewestItem_idem (items : List ClosedItem) :
    spacedNewestItem (spacedNewestItem items) = spacedNewestItem items := by cases items <;> rfl

/-- An item of a list with empty lines reads alike behind a newest item that is spaced already. -/
private theorem itemsReading_spaced (tight : Bool) (done : List ClosedItem) (item : Item)
    (items : List Item) :
    itemsReading tight (if !tight then spacedNewestItem done else done) (item :: items) =
      itemsReading tight done (item :: items) := by
  obtain ⟨children, span⟩ := item
  cases tight <;> simp [itemsReading, spacedNewestItem_idem]

private theorem interrupts_list {ordered tight : Bool} {number : Nat} {children : List Block}
    {itemSpan span : Option Span} {items : List Item}
    (h : (Block.list (.mk ordered number tight (.mk children itemSpan :: items) span)).interrupts =
      true) :
    blocksLines tight .nothing children ≠ [] ∧ (ordered = true → number = 1) := by
  simp only [Block.interrupts, Bool.and_eq_true, Bool.or_eq_true, Bool.not_eq_true', beq_iff_eq,
    List.isEmpty_eq_false_iff] at h
  exact ⟨h.2, fun hordered => h.1.resolve_left (by simp [hordered])⟩

private theorem clears_item {l : ListFrame} {i : BlockFrame} {inside : OpenTail}
    {width reach : Nat} (hkind : i.kind = .item (width + 1)) {content : List (List Char)}
    (hhollow : content = [] → inside = .nothing ∧ i.children = []) {spaced : Bool}
    (h : reach ≤ width ∨ spaced = true ∧ content = []) :
    (OpenTail.item l i inside).Clears reach ∨
      spaced = true ∧ (OpenTail.item l i inside).IsHollow := by
  refine h.imp (fun h => ?_) (And.imp_right hhollow)
  simp only [OpenTail.Clears, BlockFrame.toFrame, hkind, Frame.width]
  omega

private theorem ReadsAs.preceding {tail : OpenTail} {block : Block} {alternate : Bool}
    {first rest : Nat} (h : ReadsAs tail block alternate first rest) (m : ListMarker)
    (hm : tail.marker? = some m) :
    ∃ ordered alternate' number, Preceding.ofBlock alternate block = .list ordered alternate' ∧
      m = readMarker ordered alternate' number := by
  obtain ⟨l, rfl, rfl⟩ := h.marker m hm
  exact ⟨l.ordered, alternate, l.start, rfl, rfl⟩

private theorem ReadsAs.next {tail : OpenTail} {block : Block} {alternate : Bool}
    {first rest reach : Nat} (h : ReadsAs tail block alternate first rest)
    {lines : List (List Char)}
    (hsits : (lines.isEmpty || decide (rest ≤ 3) &&
      block.admits alternate first rest reach (lines.head? == some [])) = true) (hne : lines ≠ []) :
    rest ≤ 3 ∧ (tail.Clears reach ∨ lines.head? = some [] ∧ tail.IsHollow) := by
  simp only [List.isEmpty_eq_false_iff.mpr hne, Bool.false_or, Bool.and_eq_true,
    decide_eq_true_eq] at hsits
  exact ⟨hsits.1, by simpa using h.clears _ _ hsits.2⟩

private theorem separatorLines_following {preceding : Preceding} (h : preceding ≠ .nothing)
    (tight : Bool) (block : Block) :
    separatorLines preceding tight block =
      if !(tight && block.list?.isSome) then [[]] else [] := by
  by_cases hlist : (tight && block.list?.isSome) = true <;> simp [separatorLines, h, hlist]

private theorem alternates_not_continuedBy {ordered alternate : Bool} (l : ListBlock)
    (number : Nat) :
    (readMarker ordered alternate number).continuedBy (readMarker l.ordered
      ((Preceding.list ordered alternate).alternates (.list l)) l.start) = false := by
  refine readMarker_not_continuedBy ?_ number l.start
  rintro rfl
  cases alternate <;> simp [Preceding.alternates]

/-- The lines are read as the blocks wherever they stand alone in an item. -/
private def ReadsInItem (depth rest : Nat) (line : List Char) (lines : List (List Char))
    (blocks : List ClosedBlock) : Prop :=
  ∀ {entry : Markdown.Entry} {base : BlockFrame} {outer : List Frame} {tabs fuel : Nat},
    entry.Starts .nothing base outer line 0 → base.children = [] →
    Context base.kind (outer.map Frame.calm) tabs rest → line.length < fuel →
    ∃ older tail, (((entry.openBlocks fuel (depth + 1) false).addText).addIndented tabs lines).Ends
        base.kind (outer.map Frame.calm) older tail ∧ tail.result.toList ++ older = blocks

section

variable {ordered alternate : Bool} {number depth first rest tabs fuel : Nat} {marker : List Char}
  {entry : Markdown.Entry} {before : OpenTail} {base : BlockFrame} {outer : List Frame}
  {kind : ContainerKind} {older : List ClosedBlock} {list : ListMarker} {done : List ClosedItem}

private theorem reads_emptyItem (hmarker : marker = itemMarker ordered alternate number)
    (hlength : marker.length ≤ 10) (hdepth : depth < Entry.maxListNesting)
    (hbreak : isThematicBreak (marker ++ ['\n']) = false)
    (hstarts : entry.Starts before base outer marker first)
    (hopens : entry.Opens (readMarker ordered alternate number) kind outer older list done)
    (hparagraph : before.isParagraph = false) (hfirst : first ≤ 3) (maybeLazy : Bool) :
    ∃ (l : ListFrame) (i : BlockFrame), l.marker = list ∧
      i.kind = .item (first + marker.length + 1) ∧ i.children = [] ∧
      (OpenTail.item l i .nothing).itemsDone = .ofBlocks [] :: done ∧
      ((entry.openBlocks (fuel + 1) depth maybeLazy).addText).Ends kind (outer.map Frame.calm)
        older (.item l i .nothing) := by
  subst hmarker
  have hmarker : StartsAfter 0 (itemMarker ordered alternate number) :=
    itemLines_startsWithText ordered alternate number [] _ rfl
  have htext := hstarts.text_eq hmarker
  have hindent : entry.cursor.indent = first := hstarts.indent_eq hmarker
  obtain ⟨inner, hitem, hrest, _⟩ :=
    Cursor.itemContent_end (itemMarker_ne_nil ordered alternate number) htext
  obtain ⟨l, around, rfl, rfl, rfl, rfl, hline, hcursor, hat⟩ :=
    hopens (first + (itemMarker ordered alternate number).length + 1) inner
  have hopen := hstarts.at_.openBlocks_item hlength htext rfl (by simp [hparagraph]) hbreak
    (hindent ▸ hfirst) fuel hdepth maybeLazy
  simp only [hitem, hindent] at hopen
  rw [← hline] at hat
  obtain ⟨i, hkind, hchildren, hitems, hends⟩ := hat.addText_emptyItem (Nat.succ_pos _)
    (hcursor.symm ▸ hrest) fuel (depth + 1) false
  rw [hopen]
  exact ⟨{ l with blankEnd := false }, i, rfl, hkind, hchildren, hitems, hends⟩

private theorem reads_filledItem (hmarker : marker = itemMarker ordered alternate number)
    {lead : Nat} {line : List Char} {lines : List (List Char)} (hline : StartsAfter lead line)
    (hlead : lead = 0 ∨ 4 ≤ lead) {blocks : List ClosedBlock}
    (hcontent : ReadsInItem depth (rest - first + 3 - marker.length % 4) line lines blocks)
    (hlength : marker.length ≤ 10) (hdepth : depth < Entry.maxListNesting)
    (hbreak : isThematicBreak (marker ++ ' ' :: (line ++ ['\n'])) = false)
    (hstarts : entry.Starts before base outer (marker ++ ' ' :: line) first)
    (hopens : entry.Opens (readMarker ordered alternate number) kind outer older list done)
    (hparagraph : before.isParagraph = true → ordered = true → number = 1)
    (hctx : Context kind (outer.map Frame.calm) tabs rest) (hfirst : first ≤ 3)
    (hle : first ≤ rest) (hfuel : line.length < fuel) (maybeLazy : Bool) :
    ∃ (l : ListFrame) (i : BlockFrame) (inside : OpenTail), l.marker = list ∧
      i.kind = .item (first + marker.length + 1) ∧
      (OpenTail.item l i inside).itemsDone = .ofBlocks blocks :: done ∧
      (((entry.openBlocks (fuel + 1) depth maybeLazy).addText).addIndented tabs
        (lines.map (indentLine (itemTabs marker)))).Ends kind (outer.map Frame.calm) older
          (.item l i inside) := by
  subst hmarker
  have hne := itemMarker_ne_nil ordered alternate number
  generalize hwidth : first + (itemMarker ordered alternate number).length + 1 = width
  have hmarkerLine : StartsAfter 0 (itemMarker ordered alternate number ++ ' ' :: line) :=
    itemLines_startsWithText ordered alternate number [line] _ rfl
  have hindent : entry.cursor.indent = first := hstarts.indent_eq hmarkerLine
  have htext : entry.cursor.text =
      itemMarker ordered alternate number ++ ' ' :: (line ++ ['\n']) := by
    rw [hstarts.text_eq hmarkerLine, List.append_assoc, List.cons_append]
  obtain ⟨inner, hitem, hbehind⟩ : ∃ inner, Entry.itemContent (entry.cursor.toText.advanceChars
      (itemMarker ordered alternate number).length) = (1, inner) ∧
      Cursor.Behind (line ++ ['\n']) inner 0 := by
    obtain ⟨c, s, hc, hspace, _⟩ := hline.exists_eq
    have hs : line ++ ['\n'] = List.replicate lead ' ' ++ (c :: s ++ ['\n']) := by
      rw [hc, List.append_assoc]
    exact Cursor.itemContent_text hne hlead htext hs (by simp [hspace]) hline.restIsBlank
  obtain ⟨l, around, rfl, rfl, rfl, rfl, hopened, hcursor, hat⟩ := hopens width inner
  have hopen := hstarts.at_.openBlocks_item hlength htext rfl
    (fun hp => ⟨hline.restIsBlank, hparagraph hp⟩) hbreak (hindent ▸ hfirst) fuel hdepth maybeLazy
  simp only [hitem, hindent, hwidth] at hopen
  have hinner : (entry.openItem (readMarker ordered alternate number) width inner).Starts
      .nothing ⟨.item width, entry.line, false, []⟩ (l.toFrame :: around.toFrame :: outer)
      line 0 := ⟨hat, hcursor.symm ▸ hbehind⟩
  have hitemCtx := hctx.item (rfl : around.kind = around.kind) l
    (itemMarker ordered alternate number) hle
  have hcalm : (l.toFrame :: around.toFrame :: outer.map Frame.calm).map Frame.calm =
      (l.toFrame :: around.toFrame :: outer).map Frame.calm := by simp [Frame.calm_calm]
  rw [hwidth, hcalm] at hitemCtx
  obtain ⟨older, inside, hends, rfl⟩ := hcontent hinner rfl hitemCtx hfuel
  obtain ⟨i, hkind, hitems, houter⟩ := hends.outward (by omega)
  rw [hopen, BlockChain.addIndented_map]
  exact ⟨{ l with blankEnd := false }, i, inside, rfl, hkind, hitems, houter⟩

private theorem reads_item (hmarker : marker = itemMarker ordered alternate number)
    {content : List (List Char)} {lead : Nat} (hstart : StartsWithText lead content)
    (hlead : lead = 0 ∨ 4 ≤ lead) {blocks : List ClosedBlock}
    (hcontent : ∀ {line lines}, content = line :: lines →
      ReadsInItem depth (rest - first + 3 - marker.length % 4) line lines blocks)
    (hempty : content = [] → blocks = []) (hlength : marker.length ≤ 10)
    (hdepth : depth < Entry.maxListNesting)
    (hbreak : isThematicBreak ((itemLines marker content).headD [] ++ ['\n']) = false)
    (hstarts : entry.Starts before base outer ((itemLines marker content).headD []) first)
    (hopens : entry.Opens (readMarker ordered alternate number) kind outer older list done)
    (hparagraph : before.isParagraph = true → content ≠ [] ∧ (ordered = true → number = 1))
    (hctx : Context kind (outer.map Frame.calm) tabs rest) (hfirst : first ≤ 3)
    (hle : first ≤ rest) (hfuel : ((itemLines marker content).headD []).length < fuel)
    (maybeLazy : Bool) :
    ∃ (l : ListFrame) (i : BlockFrame) (inside : OpenTail), l.marker = list ∧
      i.kind = .item (first + marker.length + 1) ∧
      (content = [] → inside = .nothing ∧ i.children = []) ∧
      (OpenTail.item l i inside).itemsDone = .ofBlocks blocks :: done ∧
      (((entry.openBlocks fuel depth maybeLazy).addText).addIndented tabs
        (content.tail.map (indentLine (itemTabs marker)))).Ends kind (outer.map Frame.calm) older
          (.item l i inside) := by
  obtain ⟨fuel, rfl⟩ : ∃ n, fuel = n + 1 := ⟨fuel - 1, by omega⟩
  cases content with
  | nil =>
    have hnotParagraph : before.isParagraph = false :=
      Bool.eq_false_iff.mpr fun hp => (hparagraph hp).1 rfl
    obtain ⟨l, i, hlist, hkind, hchildren, hitems, hends⟩ := reads_emptyItem
      hmarker hlength hdepth hbreak hstarts hopens hnotParagraph hfirst maybeLazy
    rw [hempty rfl]
    exact ⟨l, i, .nothing, hlist, hkind, fun _ => ⟨rfl, hchildren⟩, hitems, hends⟩
  | cons line lines =>
    have hshort : line.length < fuel := by
      simp [itemLines] at hfuel
      omega
    obtain ⟨l, i, inside, hlist, hkind, hitems, hends⟩ := reads_filledItem hmarker
      (hstart line rfl) hlead (hcontent rfl) hlength hdepth (by simpa [itemLines] using hbreak)
      hstarts hopens (fun hp => (hparagraph hp).2) hctx hfirst hle hshort maybeLazy
    exact ⟨l, i, inside, hlist, hkind, by simp, hitems, hends⟩

end

mutual

/-- The lines of a block are read as the block. -/
theorem Block.reads (block : Block) {alternate : Bool} {depth first rest : Nat}
    (h : block.sits alternate depth first rest = true) {line : List Char}
    {lines : List (List Char)} (hlines : block.lines alternate = line :: lines)
    {entry : Markdown.Entry} {before : OpenTail} {base : BlockFrame} {outer : List Frame}
    (hstarts : entry.Starts before base outer line first)
    (hparagraph : before.isParagraph = true → block.interrupts = true)
    (hleaf : block.list? = none →
      ∀ leaf, before.leaf? = some leaf → leaf.isParagraph = false)
    (hmarker : ∀ l, block = .list l → ∀ m, before.marker? = some m →
      m.continuedBy (readMarker l.ordered alternate l.start) = false)
    {tabs : Nat} (hctx : Context base.kind (outer.map Frame.calm) tabs rest) (hfirst : first ≤ 3)
    (hle : first ≤ rest) {fuel : Nat} (hfuel : line.length < fuel) {maybeLazy : Bool}
    (hlazy : block.list? = none → maybeLazy = false) :
    ∃ older tail, (((entry.openBlocks fuel depth maybeLazy).addText).addIndented tabs lines).Ends
        base.kind (outer.map Frame.calm) older tail ∧
      tail.result.toList ++ older = block.reading alternate :: before.doneIn base ∧
      ReadsAs tail block alternate first rest := by
  cases block with
  | heading heading =>
    obtain ⟨fuel, rfl⟩ : ∃ n, fuel = n + 1 := ⟨fuel - 1, by omega⟩
    obtain ⟨hsingle, _⟩ := Heading.lines_of_readsBack h
    rw [Block.lines, hsingle] at hlines
    obtain ⟨rfl, rfl⟩ : heading.toText = line ∧ [] = lines := by simpa using hlines
    obtain ⟨tail, hends, hresult, hreads⟩ :=
      Heading.reads h hstarts hfirst (hleaf rfl) fuel depth maybeLazy alternate first rest
    exact ⟨_, tail, hends, by rw [hresult]; rfl, hreads⟩
  | paragraph paragraph =>
    obtain ⟨tail, hends, hresult, hreads⟩ :=
      Paragraph.reads h hlines hstarts hfirst (hleaf rfl) hctx fuel depth maybeLazy alternate first
    exact ⟨_, tail, hends, by rw [hresult]; rfl, hreads⟩
  | list list =>
    obtain ⟨ordered, start, tight, items, span⟩ := list
    have hopens := hstarts.at_.opens_new (hmarker _ rfl)
    simp only [Block.sits, Bool.and_eq_true] at h
    obtain ⟨tail, hends, hm, hitems, hclears⟩ := reads_items items h.2 hlines hstarts hopens
      (fun n => readMarker_continuedBy ordered alternate start n) (fun _ => rfl) span hparagraph
      hctx hfirst hle hfuel maybeLazy
    refine ⟨_, tail, hends, ?_, ⟨?_, ?_, hclears⟩⟩
    · obtain ⟨b, hstands, _⟩ := hends
      rw [hstands.sound.result_of_marker hm, hitems, Block.reading]
      rfl
    · intro m hm'
      exact ⟨_, rfl, Option.some.inj (hm'.symm.trans hm)⟩
    · cases tail <;> simp [OpenTail.marker?, OpenTail.isParagraph, Block.isParagraph] at hm ⊢
  | other m span =>
    obtain ⟨fuel, rfl⟩ : ∃ n, fuel = n + 1 := ⟨fuel - 1, by omega⟩
    obtain ⟨fenced, info, literal, rfl, hcode⟩ := Block.sits_other h
    rw [hlazy rfl]
    exact code_reads hcode hlines hstarts hfirst (hleaf rfl) hctx fuel depth span alternate

theorem reads_items (items : List Item) {ordered alternate tight : Bool}
    {number depth first rest : Nat}
    (h : itemsSit ordered alternate tight number depth first rest items = true) {line : List Char}
    {lines : List (List Char)}
    (hlines : itemsLines ordered alternate tight number items = line :: lines)
    {entry : Markdown.Entry} {before : OpenTail} {base : BlockFrame} {outer : List Frame}
    (hstarts : entry.Starts before base outer line first) {kind : ContainerKind}
    {older : List ClosedBlock} {list : ListMarker} {done : List ClosedItem}
    (hopens : entry.Opens (readMarker ordered alternate number) kind outer older list done)
    (hlist : ∀ n, list.continuedBy (readMarker ordered alternate n) = true)
    (hdone : tight = false → spacedNewestItem done = done) (span : Option Span)
    (hparagraph : before.isParagraph = true →
      (Block.list (.mk ordered number tight items span)).interrupts = true)
    {tabs : Nat} (hctx : Context kind (outer.map Frame.calm) tabs rest) (hfirst : first ≤ 3)
    (hle : first ≤ rest) {fuel : Nat} (hfuel : line.length < fuel) (maybeLazy : Bool) :
    ∃ tail, (((entry.openBlocks fuel depth maybeLazy).addText).addIndented tabs lines).Ends kind
        (outer.map Frame.calm) older tail ∧ tail.marker? = some list ∧
      tail.itemsDone = itemsReading tight done items ∧
      ∀ reach spaced,
        itemsAdmit ordered alternate tight number first rest reach spaced items = true →
          tail.Clears reach ∨ spaced = true ∧ tail.IsHollow := by
  cases items with
  | nil => simp [itemsLines] at hlines
  | cons item items =>
    obtain ⟨children, itemSpan⟩ := item
    simp only [itemsSit, Bool.and_eq_true, decide_eq_true_eq, Bool.not_eq_true'] at h
    obtain ⟨⟨⟨⟨⟨hlength, hdepth⟩, hbreak⟩, hchildren⟩, hroom⟩, hitems⟩ := h
    rw [itemsLines_cons] at hlines
    obtain ⟨rfl, rfl⟩ := List.cons.inj hlines
    obtain ⟨l, i, inside, rfl, hkind, hhollow, hitem, hends⟩ := reads_item rfl
      ((writeBlocks_of_blocksSit children hchildren).2.2 rfl) (blocksLead_cases children)
      (fun hcontent _ _ _ _ _ hstarts hnil hctx hfuel =>
        reads_blocks children hchildren hcontent hstarts hnil hctx (by omega) (Nat.zero_le _) hfuel)
      (fun hnil => by rw [eq_nil_of_blocksLines_nil hchildren hnil]; rfl) hlength hdepth hbreak
      hstarts hopens (fun hp => interrupts_list (hparagraph hp)) hctx hfirst hle hfuel maybeLazy
    have hbefore : (if tight = true then done else spacedNewestItem done) = done := by
      cases tight with
      | true => rfl
      | false => exact hdone rfl
    rw [itemsReading, hbefore]
    cases items with
    | nil =>
      refine ⟨.item l i inside, by simpa using hends, rfl, hitem, fun reach spaced hadmits => ?_⟩
      exact clears_item hkind hhollow (by simpa [itemsAdmit] using hadmits)
    | cons next items =>
      simp only [List.isEmpty_cons, Bool.false_or, Bool.and_eq_true, Bool.or_eq_true,
        decide_eq_true_eq, Bool.not_eq_true', List.isEmpty_iff] at hroom
      obtain ⟨hrest, hroom⟩ := hroom
      obtain ⟨line, lines, hnext⟩ := List.exists_cons_of_ne_nil
        (itemsLines_ne_nil ordered alternate tight (number + 1) (List.cons_ne_nil next items))
      have hnextStart := (writeItems_of_itemsSit (next :: items) hitems).2.2
      rw [hnext] at hnextStart
      obtain ⟨entry', before', base', fuel', hadd, hstarts', hfuel', rfl, hprecedes⟩ :=
        hends.next hctx (!tight) (hnextStart line rfl)
          (clears_item hkind hhollow (hroom.imp_right (And.imp_left fun h => by simp [h])))
      have hopens' := hstarts'.at_.opens_next hprecedes rfl (hlist (number + 1))
      have hdone' : tight = false → spacedNewestItem before'.itemsDone = before'.itemsDone := by
        rintro rfl
        rw [hprecedes.items, Bool.not_false, if_pos rfl, spacedNewestItem_idem]
      have hnotParagraph : before'.isParagraph = true → False := fun hp => by
        simpa [OpenTail.isParagraph] using (hprecedes.paragraph hp).2
      obtain ⟨tail, htail, hmarker, hread, htailClears⟩ := reads_items (next :: items) hitems hnext
        hstarts' hopens' hlist hdone' span (fun hp => (hnotParagraph hp).elim)
        (hctx.calm.symm ▸ hctx) hrest (Nat.le_refl _) hfuel' _
      rw [hctx.calm] at htail
      refine ⟨tail, ?_, hmarker, ?_, fun reach spaced hadmits => ?_⟩
      · rw [if_neg (by simp), hnext, List.append_cons, BlockChain.addIndented_append,
          BlockChain.addIndented_append, hadd]
        exact htail
      · rw [hread, hprecedes.items, hitem, itemsReading_spaced]
      · exact htailClears reach spaced hadmits

theorem reads_blocks (blocks : List Block) {tight : Bool} {depth first rest : Nat}
    (h : blocksSit tight .nothing false depth first rest blocks = true) {line : List Char}
    {lines : List (List Char)} (hlines : blocksLines tight .nothing blocks = line :: lines)
    {entry : Markdown.Entry} {base : BlockFrame} {outer : List Frame}
    (hstarts : entry.Starts .nothing base outer line first) (hchildren : base.children = [])
    {tabs : Nat} (hctx : Context base.kind (outer.map Frame.calm) tabs rest) (hfirst : first ≤ 3)
    (hle : first ≤ rest) {fuel : Nat} (hfuel : line.length < fuel) :
    ∃ older tail, (((entry.openBlocks fuel depth false).addText).addIndented tabs lines).Ends
        base.kind (outer.map Frame.calm) older tail ∧
      tail.result.toList ++ older = blocksReading tight .nothing [] blocks := by
  cases blocks with
  | nil => simp [blocksLines] at hlines
  | cons block blocks =>
    simp only [blocksSit, Bool.and_eq_true] at h
    obtain ⟨⟨⟨hblock, _⟩, hroom⟩, hblocks⟩ := h
    obtain ⟨next, others, hown⟩ := List.exists_cons_of_ne_nil (block.lines_ne_nil_of_sits hblock)
    have hseparator : separatorLines .nothing tight block = [] := by simp [separatorLines]
    rw [blocksLines, if_neg (by simp [hown]), hseparator, hown, List.nil_append,
      List.cons_append] at hlines
    obtain ⟨rfl, rfl⟩ := List.cons.inj hlines
    obtain ⟨older, tail, hends, hresult, hreads⟩ := block.reads hblock hown hstarts
      (by simp [OpenTail.isParagraph]) (by simp [OpenTail.leaf?]) (by simp [OpenTail.marker?]) hctx
      hfirst hle hfuel (fun _ => rfl)
    obtain ⟨older', tail', hends', hread⟩ := reads_following blocks hblocks
      (Preceding.ofBlock_ne_nothing _ block) hends hreads.preceding
      (fun hp => hreads.paragraph ▸ hp) hctx (hreads.next hroom)
    refine ⟨older', tail', BlockChain.addIndented_append .. ▸ hends', ?_⟩
    rw [hread, hresult, OpenTail.doneIn, hchildren, blocksReading, hseparator]
    rfl

theorem reads_following (blocks : List Block) {tight : Bool} {preceding : Preceding}
    {afterParagraph : Bool} {rest : Nat}
    (h : blocksSit tight preceding afterParagraph 1 rest rest blocks = true)
    (hpreceding : preceding ≠ .nothing) {chain : BlockChain} {kind : ContainerKind}
    {outer : List Frame} {older : List ClosedBlock} {tail : OpenTail}
    (hends : chain.Ends kind outer older tail)
    (hmarker : ∀ m, tail.marker? = some m → ∃ ordered alternate number,
      preceding = .list ordered alternate ∧ m = readMarker ordered alternate number)
    (hparagraph : tail.isParagraph = true → afterParagraph = true) {tabs : Nat}
    (hctx : Context kind outer tabs rest)
    (hnext : blocksLines tight preceding blocks ≠ [] →
      rest ≤ 3 ∧ (tail.Clears (rest + blocksLead blocks) ∨
        (blocksLines tight preceding blocks).head? = some [] ∧ tail.IsHollow)) :
    ∃ older' tail', (chain.addIndented tabs (blocksLines tight preceding blocks)).Ends kind outer
        older' tail' ∧
      tail'.result.toList ++ older' =
        blocksReading tight preceding (tail.result.toList ++ older) blocks := by
  cases blocks with
  | nil => exact ⟨older, tail, hends, rfl⟩
  | cons block blocks =>
    simp only [blocksSit, Bool.and_eq_true] at h
    obtain ⟨⟨⟨hblock, hinterrupts⟩, hroom⟩, hblocks⟩ := h
    obtain ⟨line, others, hown⟩ := List.exists_cons_of_ne_nil (block.lines_ne_nil_of_sits hblock)
    have hstart := (block.writeBlock_of_sits hblock).2.2
    rw [hown] at hstart
    rw [blocksLines, if_neg (by simp [hown]), hown] at hnext ⊢
    rw [blocksReading]
    have hlineStart := hstart line rfl
    obtain ⟨spaced, hspaced⟩ : ∃ spaced, spaced = !(tight && block.list?.isSome) := ⟨_, rfl⟩
    rw [separatorLines_following hpreceding, ← hspaced] at hnext ⊢
    obtain ⟨hrest, hclears⟩ := hnext (by simp)
    have hclears' : tail.Clears (rest + block.lead) ∨ spaced = true ∧ tail.IsHollow := by
      refine hclears.imp_right (And.imp_left fun hhead => ?_)
      cases spaced with
      | true => rfl
      | false => exact absurd (by simpa using hhead) hlineStart.ne_nil
    obtain ⟨entry, before, base, fuel, hadd, hstarts, hfuel, rfl, hprecedes⟩ :=
      hends.next hctx spaced hlineStart hclears'
    have hnotParagraph : before.isParagraph = true → block.interrupts = true := by
      intro hp
      obtain ⟨rfl, hp⟩ := hprecedes.paragraph hp
      have htight : tight = true := by
        cases tight with
        | true => rfl
        | false => simp at hspaced
      simpa [htight, hparagraph hp] using hinterrupts
    have hleaf : block.list? = none →
        ∀ leaf, before.leaf? = some leaf → leaf.isParagraph = false :=
      fun hlist => hprecedes.leaf (by simp [hspaced, hlist])
    have hlazy : block.list? = none → before.leaf?.any (·.isParagraph) = false :=
      fun hlist => (Option.any_eq_false _ _).mpr (hleaf hlist)
    have hother : ∀ l, block = .list l → ∀ m, before.marker? = some m →
        m.continuedBy (readMarker l.ordered (preceding.alternates block) l.start) = false := by
      rintro l rfl m hm
      obtain ⟨ordered, alternate, number, rfl, rfl⟩ := hmarker m (hprecedes.marker ▸ hm)
      exact alternates_not_continuedBy l number
    obtain ⟨older', tail', hends', hresult, hreads⟩ := block.reads hblock hown hstarts
      hnotParagraph hleaf hother (hctx.calm.symm ▸ hctx) hrest (Nat.le_refl _) hfuel hlazy
    rw [hctx.calm] at hends'
    obtain ⟨older'', tail'', hends'', hread⟩ := reads_following blocks hblocks
      (Preceding.ofBlock_ne_nothing _ block) hends' hreads.preceding
      (fun hp => hreads.paragraph ▸ hp) hctx (hreads.next hroom)
    refine ⟨older'', tail'', ?_, ?_⟩
    · have hlines (rest : List (List Char)) : (if spaced then [[]] else []) ++ line :: others ++
          rest = ((if spaced then [[]] else []) ++ [line]) ++ (others ++ rest) := by simp
      rw [hlines, BlockChain.addIndented_append, hadd, BlockChain.addIndented_append]
      exact hends''
    · rw [hread, hresult, hprecedes.done]
      cases spaced <;> rfl

end

namespace Markdown

theorem BlockChain.Ends.close {chain : BlockChain} {older : List ClosedBlock} {tail : OpenTail}
    (h : chain.Ends .document [] older tail) :
    chain.close.1.map Draft.unplaced =
        ((tail.result.toList ++ older).map (·.draft)).reverse ∧
      chain.close.2 = [] := by
  obtain ⟨base, hstands, hkind, _, rfl, _⟩ := h
  let closing : Closing := ⟨chain.lineCount, true⟩
  have hdrop : chain.frames.drop (chain.frames.length - 1) = [base.toFrame] := by
    simp [hstands.frames]
  have htake : chain.frames.take (chain.frames.length - 1) = tail.frames := by
    simp [hstands.frames]
  have hclose : chain.close =
      ((base.push (tail.closed closing)).children.reverse.map (·.draft), []) := by
    have hfound := hstands.sound.leaf_targets closing
    have hclosed := hstands.sound.closeChain_frames closing
    unfold leafClosed at hclosed
    unfold BlockChain.close Entry.settle
    simp only [hdrop, htake, hstands.leaf, hstands.targets, hfound, hclosed, closing,
      Bool.false_and, Bool.not_true]
    cases tail.closed ⟨chain.lineCount, true⟩ <;> rfl
  have hdone : (base.push (tail.closed closing)).children.map ClosedBlock.unplaced =
      tail.result.toList ++ base.children.map ClosedBlock.unplaced := by
    rw [BlockFrame.unplaced_push, hstands.sound.unplaced_closed]
  rw [hclose, ← hdone]
  refine ⟨?_, rfl⟩
  simp [List.map_reverse, ClosedBlock.unplaced]

private theorem exists_joinLines_append (line : List Char) (lines : List (List Char)) :
    ∃ s, joinLines (line :: lines) = line ++ s := by
  cases lines with
  | nil => exact ⟨[], by simp [joinLines]⟩
  | cons next lines => exact ⟨_, joinLines_cons (by simp)⟩

private theorem mem_joinLines {lines : List (List Char)}
    (h : ∀ line ∈ lines, ∀ c ∈ line, isLineChar c = true) :
    ∀ c ∈ joinLines lines, c = '\n' ∨ isLineChar c = true := by
  induction lines with
  | nil => simp [joinLines]
  | cons line lines ih =>
    intro c hc
    cases lines with
    | nil => exact .inr (h line (by simp) c (by simpa [joinLines] using hc))
    | cons next lines =>
      rw [joinLines_cons (by simp), List.mem_append, List.mem_cons] at hc
      rcases hc with hc | hc | hc
      · exact .inr (h line (by simp) c hc)
      · exact .inl hc
      · exact ih (fun l hl => h l (by simp [hl])) c hc

/-- A text of clean lines is read line by line. -/
theorem BlockChain.read_joinLines {line : List Char} {lines : List (List Char)}
    (hlines : ∀ l ∈ line :: lines, ∀ c ∈ l, isLineChar c = true)
    {lead : Nat} (hline : StartsAfter lead line) :
    read (joinLines (line :: lines) ++ ['\n']) = (start.addIndented 0 (line :: lines)).close := by
  have hnull : (joinLines (line :: lines) ++ ['\n']).map
      (fun c => if c == '\x00' then '\ufffd' else c) = joinLines (line :: lines) ++ ['\n'] := by
    refine (List.map_congr_left fun c hc => ?_).trans (List.map_id _)
    have hne : c ≠ '\x00' := by
      rintro rfl
      rcases List.mem_append.mp hc with hc | hc
      · rcases mem_joinLines hlines _ hc with hc | hc
        · exact absurd hc (by decide)
        · exact absurd hc (by decide)
      · simp at hc
    simp [hne]
  obtain ⟨s, hs⟩ := exists_joinLines_append line lines
  have hmark : ((joinLines (line :: lines) ++ ['\n']).head? == some '\ufeff') = false := by
    obtain ⟨c, text, rfl⟩ := List.exists_cons_of_ne_nil hline.ne_nil
    have hne : c ≠ '\ufeff' := by simpa using hline.mark
    simp [hs, hne]
  have hindent (l : List Char) : indentLine 0 l = l := by cases l <;> rfl
  unfold read
  simp only [hnull, hmark, Bool.false_eq_true, if_false]
  rw [splitLines_joinLines (List.cons_ne_nil _ _) hlines, List.foldl_map]
  simp only [addIndented, hindent]

theorem BlockChain.start_stands : start.Stands .nothing ⟨.document, 1, false, []⟩ [] :=
  ⟨rfl, rfl, rfl, trivial⟩

end Markdown

/-- What a document that sits is written as reads as its blocks, and defines no links. -/
theorem Document.read_toMarkdown {document : Document} (h : document.sits = true) :
    (BlockChain.read document.toMarkdown.toList).1.map Draft.unplaced = document.reading ∧
      (BlockChain.read document.toMarkdown.toList).2 = [] := by
  obtain ⟨hwritten, hclean, hstart⟩ := writeBlocks_of_blocksSit document h
  simp only [decide_true, Bool.true_or, if_true, List.nil_append] at hwritten
  unfold toMarkdown
  simp only [hwritten]
  cases hlines : blocksLines false .nothing document with
  | nil =>
    rw [eq_nil_of_blocksLines_nil h hlines]
    exact ⟨rfl, rfl⟩
  | cons line lines =>
    rw [hlines] at hclean hstart
    have hline := hstart rfl line rfl
    have hbody : (joinLines (line :: lines)).isEmpty = false :=
      List.isEmpty_eq_false_iff.mpr (joinLines_ne_nil (hstart rfl) (by simp))
    have hctx : Context .document [] 0 0 := ⟨trivial, by simp, rfl, rfl⟩
    obtain ⟨entry, fuel, hadd, hstarts, hfuel⟩ :=
      BlockChain.start_stands.next hctx hline trivial
    obtain ⟨older, tail, hends, hread⟩ := reads_blocks document h hlines hstarts rfl hctx
      (Nat.zero_le _) (Nat.le_refl _) hfuel
    have hlazy : OpenTail.nothing.leaf?.any (·.isParagraph) = false := rfl
    rw [hlazy] at hadd
    rw [← hadd, ← BlockChain.addIndented_append] at hends
    obtain ⟨hblocks, htargets⟩ := hends.close
    rw [hbody, if_neg (by simp), String.toList_ofList,
      BlockChain.read_joinLines hclean.lineChars hline]
    exact ⟨by rw [reading, blocksDrafts, ← hread]; exact hblocks, htargets⟩

end MarkdownOutline
