import MarkdownOutline.Proofs.LineSteps

/-!
# Blank lines

A blank line closes the leaf that is open, or an item in which nothing stands yet, and tells the
block that it ends. It leaves lists open for further items, and indented code for further lines.
-/

namespace MarkdownOutline.Markdown

open Text

def spacedNewest : List ClosedBlock → List ClosedBlock
  | [] => []
  | block :: rest => block.spaced :: rest

theorem OpenLeaf.Yields.spaced {leaf : OpenLeaf} {content : DraftLeaf} (h : leaf.Yields content)
    (hkind : leaf.EndsAtBlank) (blankEnd : Bool) :
    OpenLeaf.Yields { leaf with blankEnd } content := by
  intro closing
  have hclose := h closing
  rcases hkind with ⟨tried, hkind⟩ | ⟨level, hkind⟩
  · simp only [close, hkind, text, Prod.mk.injEq] at hclose ⊢
    obtain ⟨hblock, htargets⟩ := hclose
    refine ⟨?_, htargets⟩
    by_cases hrest : restIsBlank (linkDefinitions leaf.lines.reverse.flatten).2 = true
    · simp [hrest] at hblock
    · simpa [hrest] using hblock
  · simp only [close, hkind, text, Prod.mk.injEq, Option.some.injEq, ClosedBlock.mk.injEq,
      and_true] at hclose ⊢
    exact hclose

theorem OpenLeaf.Yields.blank {leaf : OpenLeaf} {content : DraftLeaf} (h : leaf.Yields content)
    (hkind : leaf.kind = .indentedCode) :
    OpenLeaf.Yields { leaf with lines := ['\n'] :: leaf.lines, blankEnd := true } content := by
  intro closing
  have hclose := h closing
  obtain ⟨kind, first, lines, rows, blankEnd⟩ := leaf
  subst hkind
  simp only [close, Prod.mk.injEq, Option.some.injEq, ClosedBlock.mk.injEq, Draft.leaf.injEq,
    and_true] at hclose
  rw [← hclose]
  rfl

namespace BlockChain

theorem openBlocks_emptyLine {entry : Entry} (hcursor : entry.cursor.rest = ['\n'])
    (hgrowing : entry.growing = false) (fuel depth : Nat) (maybeLazy : Bool) :
    entry.openBlocks fuel depth maybeLazy = entry := by
  cases fuel with
  | zero => rfl
  | succ fuel =>
    have hleaf : entry.growingLeaf? = none := by simp [Entry.growingLeaf?, hgrowing]
    have htext : entry.cursor.text = ['\n'] := by
      rw [Cursor.text, hcursor]
      rfl
    have hmarker : listMarker? entry.inParagraph ['\n'] = none := rfl
    have hhtml : Html.opening? entry.inParagraph ['\n'] = none := rfl
    have hheading : hashHeading? ['\n'] = none := by decide
    have hfence : openingFence? ['\n'] = none := by decide
    have hbreak : isThematicBreak ['\n'] = false := by decide
    have hindent : entry.cursor.isIndented = false := by
      rw [Cursor.isIndented, Cursor.indent, hcursor]
      rfl
    simp [Entry.openBlocks, hleaf, htext, hmarker, hhtml, hheading, hfence, hbreak,
      hindent]

theorem addLine_blank_leaf {chain : BlockChain} {leaf : OpenLeaf} (hleaf : chain.leaf = some leaf)
    (hkind : leaf.EndsAtBlank) {content : DraftLeaf} (hyields : leaf.Yields content)
    {base : BlockFrame} {outer : List Frame} (hframes : chain.frames = base.toFrame :: outer)
    (hplain : ∀ frame ∈ base.toFrame :: outer, frame.IsPlain) (htargets : chain.targets = []) :
    chain.addLine ['\n'] =
      { frames := { base with
          blankEnd := true
          children := ⟨.leaf content ⟨leaf.first, chain.lineCount⟩, true⟩ ::
            base.children : BlockFrame }.toFrame :: outer.map Frame.calm
        leaf := none, targets := [], lineCount := chain.lineCount + 1 } := by
  have hreverse : ∀ frame ∈ chain.frames.reverse, frame.IsPlain :=
    fun frame hframe => hplain frame (hframes ▸ List.mem_reverse.mp hframe)
  have hcontinued := continued_emptyLine hreverse true [] (.inl rfl) []
  rw [List.append_nil, List.append_nil, List.reverse_reverse] at hcontinued
  have hfate : leaf.fate emptyLine = .left := by
    rcases hkind with ⟨tried, hkind⟩ | ⟨level, hkind⟩
    · simp only [OpenLeaf.fate, hkind]
      rfl
    · simp only [OpenLeaf.fate, hkind]
  have hclose := hyields.spaced hkind true
  unfold addLine
  simp only [hleaf, Option.isSome_some]
  rw [show (⟨['\n'], 0, false⟩ : Cursor) = emptyLine from rfl, hcontinued]
  simp only [continued, hfate]
  rw [openBlocks_emptyLine rfl rfl]
  obtain ⟨kind, first, blankEnd, children⟩ := base
  have hblank : emptyLine.isBlank = true := rfl
  cases kind with
  | quote => exact (hplain _ List.mem_cons_self).elim
  | document =>
    simp [Entry.addText, Entry.growingLeaf?, hblank, Entry.markContainer, hframes,
      BlockFrame.toFrame, Entry.markNewest, Entry.settle, hclose _, closeChain, Entry.pushOnto,
      Frame.push, Entry.finish, Frame.setBlankEnd, htargets, Entry.line, Closing.lastLine,
      Frame.calm]
  | item width =>
    simp [Entry.addText, Entry.growingLeaf?, hblank, Entry.markContainer, hframes,
      BlockFrame.toFrame, Entry.markNewest, Entry.settle, hclose _, closeChain, Entry.pushOnto,
      Frame.push, Entry.finish, Frame.setBlankEnd, htargets, Entry.line, Closing.lastLine,
      Frame.calm]

theorem addLine_blank_item {chain : BlockChain} (hleaf : chain.leaf = none) {width : Nat}
    {first : Nat} {blankEnd : Bool} {list : ListFrame} {outer : List Frame}
    (hframes : chain.frames =
      .blocks (.item width) first blankEnd [] :: list.toFrame :: outer)
    (hwidth : 0 < width) (hplain : ∀ frame ∈ outer, frame.IsPlain)
    (htargets : chain.targets = []) :
    chain.addLine ['\n'] =
      { frames := { list with
          blankEnd := true
          items := ⟨.mk [] ⟨first, chain.lineCount⟩, true, false⟩ ::
            list.items : ListFrame }.toFrame :: outer.map Frame.calm
        leaf := none, targets := [], lineCount := chain.lineCount + 1 } := by
  have hlist : ∀ frame ∈ (list.toFrame :: outer).reverse, frame.IsPlain := by
    intro frame hframe
    rcases List.mem_cons.mp (List.mem_reverse.mp hframe) with rfl | hframe
    · trivial
    · exact hplain frame hframe
  have hreverse : chain.frames.reverse =
      (list.toFrame :: outer).reverse ++ [.blocks (.item width) first blankEnd []] := by
    rw [hframes, List.reverse_cons]
  have hcontinued := continued_emptyLine hlist false [.blocks (.item width) first blankEnd []]
    (.inr (by simp)) []
  rw [List.reverse_reverse, List.append_nil] at hcontinued
  have hshort : ¬ width ≤ emptyLine.indent := by
    simp [emptyLine, Cursor.indent, Cursor.leadingColumns]
    omega
  have hstop : continued false [.blocks (.item width) first blankEnd []] emptyLine
      (list.toFrame :: outer) =
      (list.toFrame :: outer, [.blocks (.item width) first blankEnd []], emptyLine) := by
    simp [continued, Frame.continue?, hshort]
  unfold addLine
  simp only [hleaf, Option.isSome_none]
  rw [show (⟨['\n'], 0, false⟩ : Cursor) = emptyLine from rfl, hreverse, hcontinued, hstop]
  simp only
  rw [openBlocks_emptyLine rfl rfl]
  have hblank : emptyLine.isBlank = true := rfl
  simp [Entry.addText, Entry.growingLeaf?, hblank, Entry.markContainer, ListFrame.toFrame,
    Entry.markNewest, Entry.settle, closeChain, Entry.pushOnto, Frame.push, Entry.finish,
    Frame.setBlankEnd, htargets, Entry.line, Closing.lastLine, Frame.calm, Frame.close]

theorem addLine_blank_code {chain : BlockChain} {leaf : OpenLeaf} (hleaf : chain.leaf = some leaf)
    (hkind : leaf.kind = .indentedCode) (hplain : ∀ frame ∈ chain.frames, frame.IsPlain) :
    chain.addLine ['\n'] =
      { chain with
        frames := chain.frames.map Frame.calm
        leaf := some { leaf with lines := ['\n'] :: leaf.lines, blankEnd := true }
        lineCount := chain.lineCount + 1 } := by
  have hreverse : ∀ frame ∈ chain.frames.reverse, frame.IsPlain :=
    fun frame hframe => hplain frame (List.mem_reverse.mp hframe)
  have hcontinued := continued_emptyLine hreverse true [] (.inl rfl) []
  rw [List.append_nil, List.append_nil, List.reverse_reverse] at hcontinued
  have hfate : leaf.fate emptyLine = .continued emptyLine := by
    simp only [OpenLeaf.fate, hkind]
    rfl
  have hblank : emptyLine.isBlank = true := rfl
  have hcontent : emptyLine.content = ['\n'] := rfl
  have hcalm : chain.frames.map (Frame.setBlankEnd false) = chain.frames.map Frame.calm := rfl
  unfold addLine
  simp only [hleaf, Option.isSome_some]
  rw [show (⟨['\n'], 0, false⟩ : Cursor) = emptyLine from rfl, hcontinued]
  simp only [continued, hfate, List.reverse_nil]
  simp [Entry.openBlocks, Entry.growingLeaf?, OpenLeaf.isVerbatim, hkind, Entry.addText,
    Entry.addToLeaf, hblank, OpenLeaf.marksBlank, OpenLeaf.addLine, Entry.finish, Entry.line,
    hcontent, hcalm]

theorem addLine_blank_closed {chain : BlockChain} (hleaf : chain.leaf = none) {base : BlockFrame}
    {outer : List Frame} (hframes : chain.frames = base.toFrame :: outer) {last : ClosedBlock}
    {older : List ClosedBlock} (hchildren : base.children = last :: older)
    (hplain : ∀ frame ∈ base.toFrame :: outer, frame.IsPlain) :
    chain.addLine ['\n'] =
      { chain with
        frames := { base with
          blankEnd := true, children := last.spaced :: older : BlockFrame }.toFrame ::
            outer.map Frame.calm
        lineCount := chain.lineCount + 1 } := by
  have hreverse : ∀ frame ∈ outer.reverse, frame.IsPlain :=
    fun frame hframe => hplain frame (List.mem_cons_of_mem _ (List.mem_reverse.mp hframe))
  have hcontinued := continued_emptyLine hreverse false [base.toFrame] (.inr (by simp)) []
  rw [List.reverse_reverse, List.append_nil] at hcontinued
  have hbase : continued false [base.toFrame] emptyLine outer =
      (base.toFrame :: outer, [], emptyLine) := by
    obtain ⟨kind, first, blankEnd, children⟩ := base
    subst hchildren
    cases kind with
    | document => rfl
    | quote => exact (hplain _ List.mem_cons_self).elim
    | item width =>
      have hwidth : 0 < width := hplain _ List.mem_cons_self
      have hshort : ¬ width ≤ emptyLine.indent := by
        simp [emptyLine, Cursor.indent, Cursor.leadingColumns]
        omega
      have hblank : emptyLine.isBlank = true := rfl
      simp [continued, BlockFrame.toFrame, Frame.continue?, hshort, hblank]
      rfl
  unfold addLine
  simp only [hleaf, Option.isSome_none]
  rw [show (⟨['\n'], 0, false⟩ : Cursor) = emptyLine from rfl, hframes, List.reverse_cons,
    hcontinued, hbase]
  simp only
  rw [openBlocks_emptyLine rfl rfl]
  have hblank : emptyLine.isBlank = true := rfl
  obtain ⟨kind, first, blankEnd, children⟩ := base
  subst hchildren
  cases kind with
  | quote => exact (hplain _ List.mem_cons_self).elim
  | document =>
    simp [Entry.addText, Entry.growingLeaf?, hblank, Entry.markContainer, BlockFrame.toFrame,
      Entry.markNewest, Entry.settle, closeChain, Entry.pushOnto, Frame.markLastBlank, Entry.finish,
      Frame.setBlankEnd, Entry.line, Frame.calm, ClosedBlock.spaced]
  | item width =>
    simp [Entry.addText, Entry.growingLeaf?, hblank, Entry.markContainer, BlockFrame.toFrame,
      Entry.markNewest, Entry.settle, closeChain, Entry.pushOnto, Frame.markLastBlank, Entry.finish,
      Frame.setBlankEnd, Entry.line, Frame.calm, ClosedBlock.spaced, Frame.isEmpty]

end BlockChain

/-- The tail ends with a block, open or closed, or with the marker of an item. -/
def OpenTail.Lively : OpenTail → BlockFrame → Prop
  | .nothing, base => base.children ≠ []
  | .list _, _ => False
  | .leaf _, _ => True
  | .item _ i inside, _ => inside = .nothing ∨ inside.Lively i

theorem OpenTail.Lively.doneIn_ne_nil {tail : OpenTail} {base : BlockFrame} (h : tail.Lively base)
    (hsound : tail.Sound) : tail.doneIn base ≠ [] := by
  cases tail with
  | nothing =>
    have hchildren : base.children ≠ [] := h
    simp [OpenTail.doneIn, OpenTail.result, OpenTail.closed, hchildren]
  | list l => exact h.elim
  | leaf l =>
    obtain ⟨_, content, hyields⟩ := hsound
    simp [OpenTail.doneIn, OpenTail.result_leaf hyields]
  | item l i inside => simp [OpenTail.doneIn, hsound.result_item]

theorem ClosedItem.ofBlocks_spacedNewest {blocks : List ClosedBlock} (h : blocks ≠ []) :
    ofBlocks (spacedNewest blocks) = (ofBlocks blocks).spaced := by
  cases blocks with
  | nil => exact absurd rfl h
  | cons block rest => simp [ofBlocks, spacedNewest, spaced, ClosedBlock.spaced]

theorem ClosedBlock.ofItems_spaced (marker : ListMarker) (item : ClosedItem)
    (items : List ClosedItem) :
    ofItems marker (item.spaced :: items) = (ofItems marker (item :: items)).spaced := by
  simp [ofItems, spaced, ClosedItem.spaced, Frame.isTight]

def spacedNewestItem : List ClosedItem → List ClosedItem
  | [] => []
  | item :: rest => item.spaced :: rest

/-- Nothing stands behind the marker of the item that is open in the tail. -/
def OpenTail.IsHollow : OpenTail → Prop
  | .item _ i inside => inside = .nothing ∧ i.children = []
  | _ => False

/-- What a blank line makes of a tail. -/
structure OpenTail.SpacedInto (tail : OpenTail) (base : BlockFrame) (rested : OpenTail)
    (spaced : BlockFrame) : Prop where
  kind : spaced.kind = base.kind
  leaf : ∀ leaf, rested.leaf? = some leaf → leaf.isParagraph = false
  marker : rested.marker? = tail.marker?
  clears : ∀ indent, tail.Clears indent ∨ tail.IsHollow → rested.Clears indent
  items : rested.itemsDone = spacedNewestItem tail.itemsDone
  children : tail.marker?.isSome = true → spaced.children = base.children
  done : rested.doneIn spaced = spacedNewest (tail.doneIn base)
  blankEnd : spaced.blankEnd = true →
    rested = .nothing ∧ spaced.children.head?.any (·.blankEnd) = true

section

variable {chain : BlockChain} {base : BlockFrame} {outer : List Frame}

private theorem addLine_blank_nothing (h : chain.Stands .nothing base outer)
    (hlively : base.children ≠ []) (hplain : ∀ frame ∈ base.toFrame :: outer, frame.IsPlain) :
    ∃ rested spaced, (chain.addLine ['\n']).Stands rested spaced (outer.map Frame.calm) ∧
      OpenTail.nothing.SpacedInto base rested spaced := by
  obtain ⟨last, older, hchildren⟩ := List.exists_cons_of_ne_nil hlively
  have hline := BlockChain.addLine_blank_closed h.leaf h.frames hchildren hplain
  refine ⟨.nothing, { base with blankEnd := true, children := last.spaced :: older },
    ⟨?_, ?_, ?_, trivial⟩, ⟨rfl, ?_, rfl, fun _ _ => trivial, rfl, ?_, ?_, fun _ => ⟨rfl, rfl⟩⟩⟩
  · rw [hline]; rfl
  · rw [hline]; exact h.leaf
  · rw [hline]; exact h.targets
  · simp [OpenTail.leaf?]
  · simp [OpenTail.marker?]
  · simp only [OpenTail.doneIn, hchildren]
    rfl

private theorem addLine_blank_open {leaf : OpenLeaf} (h : chain.Stands (.leaf leaf) base outer)
    (hkind : leaf.EndsAtBlank) (hplain : ∀ frame ∈ base.toFrame :: outer, frame.IsPlain) :
    ∃ rested spaced, (chain.addLine ['\n']).Stands rested spaced (outer.map Frame.calm) ∧
      (OpenTail.leaf leaf).SpacedInto base rested spaced := by
  obtain ⟨_, content, hyields⟩ := h.sound
  have hline := BlockChain.addLine_blank_leaf h.leaf hkind hyields h.frames hplain h.targets
  refine ⟨.nothing, { base with
    blankEnd := true
    children := ⟨.leaf content ⟨leaf.first, chain.lineCount⟩, true⟩ :: base.children },
    ⟨?_, ?_, ?_, trivial⟩, ⟨rfl, ?_, rfl, fun _ _ => trivial, rfl, ?_, ?_, fun _ => ⟨rfl, rfl⟩⟩⟩
  · rw [hline]; rfl
  · rw [hline]; rfl
  · rw [hline]
  · simp [OpenTail.leaf?]
  · simp [OpenTail.marker?]
  · rw [OpenTail.doneIn, OpenTail.doneIn, OpenTail.result_leaf hyields]
    rfl

private theorem addLine_blank_indented {leaf : OpenLeaf} (h : chain.Stands (.leaf leaf) base outer)
    (hkind : leaf.kind = .indentedCode) (hplain : ∀ frame ∈ base.toFrame :: outer, frame.IsPlain) :
    ∃ rested spaced, (chain.addLine ['\n']).Stands rested spaced (outer.map Frame.calm) ∧
      (OpenTail.leaf leaf).SpacedInto base rested spaced := by
  obtain ⟨_, content, hyields⟩ := h.sound
  have hline := BlockChain.addLine_blank_code h.leaf hkind (h.frames ▸ hplain)
  have hblank := hyields.blank hkind
  refine ⟨.leaf { leaf with lines := ['\n'] :: leaf.lines, blankEnd := true },
    { base with blankEnd := false }, ⟨?_, ?_, ?_, .inr hkind, content, hblank⟩,
    ⟨rfl, ?_, rfl, ?_, rfl, fun _ => rfl, ?_, by simp⟩⟩
  · rw [hline, h.frames]
    rfl
  · rw [hline]
    rfl
  · rw [hline]
    exact h.targets
  · intro l hl
    rw [← Option.some.inj hl]
    simp [OpenLeaf.isParagraph, hkind]
  · rintro indent (hclears | hhollow)
    · exact hclears
    · exact hhollow.elim
  · rw [OpenTail.doneIn, OpenTail.doneIn, OpenTail.result_leaf hyields, OpenTail.result_leaf hblank]
    rfl

private theorem addLine_blank_hollow {l : ListFrame} {i : BlockFrame}
    (h : chain.Stands (.item l i .nothing) base outer) (hchildren : i.children = [])
    (hplain : ∀ frame ∈ base.toFrame :: outer, frame.IsPlain) :
    ∃ rested spaced, (chain.addLine ['\n']).Stands rested spaced (outer.map Frame.calm) ∧
      (OpenTail.item l i .nothing).SpacedInto base rested spaced := by
  obtain ⟨hcalm, ⟨width, hwidth, hkind⟩, hend, _⟩ := h.sound
  have hframes : chain.frames = .blocks (.item width) i.first i.blankEnd [] :: l.toFrame ::
      base.toFrame :: outer := by
    rw [h.frames, ← hkind, ← hchildren]
    rfl
  have hline := BlockChain.addLine_blank_item h.leaf hframes hwidth hplain h.targets
  have hempty : OpenTail.nothing.doneIn i = [] := by
    rw [OpenTail.doneIn, hchildren]
    rfl
  refine ⟨.list { l with
      blankEnd := true
      items := ⟨.mk [] ⟨i.first, chain.lineCount⟩, true, false⟩ :: l.items },
    { base with blankEnd := false }, ⟨?_, ?_, ?_, fun _ => rfl⟩,
    ⟨rfl, ?_, rfl, fun _ _ => trivial, ?_, fun _ => rfl, ?_, by simp⟩⟩
  · rw [hline]; rfl
  · rw [hline]; rfl
  · rw [hline]
  · simp [OpenTail.leaf?]
  · rw [OpenTail.itemsDone, OpenTail.itemsDone, hempty]
    rfl
  · have hspaced := ClosedBlock.ofItems_spaced l.marker (.ofBlocks [])
      (l.items.map ClosedItem.unplaced)
    rw [OpenTail.doneIn, OpenTail.doneIn, h.sound.result_item, OpenTail.Sound.result_list
      (fun _ => rfl), hempty, Option.toList_some, Option.toList_some, List.singleton_append,
      List.singleton_append, spacedNewest, ← hspaced]
    rfl

private theorem addLine_blank_filled {l : ListFrame} {i : BlockFrame} {inside : OpenTail}
    (hsound : (OpenTail.item l i inside).Sound) (hlively : inside.Lively i)
    (hfilled : ¬ (OpenTail.item l i inside).IsHollow) {rested : OpenTail} {spaced : BlockFrame}
    (hstands : (chain.addLine ['\n']).Stands rested spaced
      ((l.toFrame :: base.toFrame :: outer).map Frame.calm))
    (hinto : inside.SpacedInto i rested spaced) :
    ∃ rested spaced, (chain.addLine ['\n']).Stands rested spaced (outer.map Frame.calm) ∧
      (OpenTail.item l i inside).SpacedInto base rested spaced := by
  have ⟨_, ⟨width, hwidth, hkind⟩, _, hinside⟩ := hsound
  have hrested : (OpenTail.item { l with blankEnd := false } spaced rested).Sound :=
    ⟨rfl, ⟨width, hwidth, hinto.kind.trans hkind⟩, hinto.blankEnd, hstands.sound⟩
  have hdone : ClosedItem.ofBlocks (rested.doneIn spaced) =
      (ClosedItem.ofBlocks (inside.doneIn i)).spaced := by
    rw [hinto.done, ClosedItem.ofBlocks_spacedNewest (hlively.doneIn_ne_nil hinside)]
  refine ⟨.item { l with blankEnd := false } spaced rested, { base with blankEnd := false },
    ⟨?_, ?_, hstands.targets, hrested⟩, ⟨rfl, hinto.leaf, rfl, ?_, ?_, fun _ => rfl, ?_, by simp⟩⟩
  · rw [hstands.frames, OpenTail.frames, List.append_assoc]
    rfl
  · rw [hstands.leaf]
    rfl
  · intro indent hclears
    have hclears : (OpenTail.item l i inside).Clears indent := hclears.resolve_right hfilled
    have hwidth : spaced.toFrame.width = i.toFrame.width := by
      simp only [BlockFrame.toFrame, hinto.kind]
      cases i.kind <;> rfl
    simpa only [OpenTail.Clears, hwidth] using hclears
  · rw [OpenTail.itemsDone, OpenTail.itemsDone, hdone]
    rfl
  · rw [OpenTail.doneIn, OpenTail.doneIn, hsound.result_item, hrested.result_item, hdone,
      ClosedBlock.ofItems_spaced]
    rfl

end

/-- A blank line marks the end of the tail, and closes what it does not belong to. -/
theorem BlockChain.Stands.addLine_blank {chain : BlockChain} {tail : OpenTail} {base : BlockFrame}
    {outer : List Frame} (h : chain.Stands tail base outer) (hlively : tail.Lively base)
    (hplain : ∀ frame ∈ base.toFrame :: outer, frame.IsPlain) :
    ∃ rested spaced, (chain.addLine ['\n']).Stands rested spaced (outer.map Frame.calm) ∧
      tail.SpacedInto base rested spaced := by
  induction tail generalizing base outer with
  | nothing => exact addLine_blank_nothing h hlively hplain
  | list l => exact hlively.elim
  | leaf l =>
    rcases h.sound.1 with hkind | hkind
    · exact addLine_blank_open h hkind hplain
    · exact addLine_blank_indented h hkind hplain
  | item l i inside ih =>
    obtain ⟨_, ⟨width, hwidth, hkind⟩, _, hinside⟩ := h.sound
    by_cases hhollow : inside = .nothing ∧ i.children = []
    · obtain ⟨rfl, hchildren⟩ := hhollow
      exact addLine_blank_hollow h hchildren hplain
    · have hlively : inside.Lively i := by
        rcases hlively with rfl | hlively
        · exact fun hchildren => hhollow ⟨rfl, hchildren⟩
        · exact hlively
      have hinner : chain.Stands inside i (l.toFrame :: base.toFrame :: outer) := by
        refine ⟨?_, h.leaf, h.targets, hinside⟩
        rw [h.frames, OpenTail.frames, List.append_assoc]
        rfl
      have hiplain : ∀ frame ∈ i.toFrame :: l.toFrame :: base.toFrame :: outer,
          frame.IsPlain := by
        intro frame hframe
        simp only [List.mem_cons] at hframe
        rcases hframe with rfl | rfl | hframe
        · rw [BlockFrame.toFrame, hkind]
          exact hwidth
        · trivial
        · exact hplain frame (by simpa using hframe)
      obtain ⟨rested, spaced, hstands, hinto⟩ := ih hinner hlively hiplain
      exact addLine_blank_filled h.sound hlively hhollow hstands hinto

end MarkdownOutline.Markdown
