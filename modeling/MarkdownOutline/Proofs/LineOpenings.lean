import MarkdownOutline.Proofs.BlankLines

/-!
# Lines that open blocks

A line of hash signs opens a heading, a line that opens nothing starts or continues a paragraph,
and a marker opens an item, in the list that stands there if the marker continues it.
-/

namespace MarkdownOutline.Markdown

open Text

/-- The text starts no block; in a paragraph it is no underline and no row of a table either. -/
def opensNothing (inParagraph : Bool) (s : List Char) : Bool :=
  s.head? != some '>' && (hashHeading? s).isNone && (openingFence? s).isNone &&
    (Html.opening? inParagraph s).isNone && !isThematicBreak s &&
    (listMarker? inParagraph s).isNone &&
    (!inParagraph || (underlineLevel? s).isNone && (columnAlignments? s).isNone)

theorem Entry.openBlocks_nothing {entry : Entry} {maybeLazy : Bool}
    (hindent : entry.cursor.indent ≤ 3 ∨ maybeLazy = true)
    (htext : opensNothing entry.inParagraph entry.cursor.text = true)
    (hleaf : entry.growingLeaf? = none ∨ ∃ leaf, entry.growingLeaf? = some leaf ∧
      leaf.kind = .paragraph false) (fuel depth : Nat) :
    entry.openBlocks fuel depth maybeLazy = entry := by
  cases fuel with
  | zero => rfl
  | succ fuel =>
    have hverbatim : entry.growingLeaf?.any (·.isVerbatim) = false := by
      rcases hleaf with hleaf | ⟨leaf, hleaf, hkind⟩
      · simp [hleaf]
      · simp [hleaf, OpenLeaf.isVerbatim, hkind]
    simp only [opensNothing, Bool.and_eq_true, bne_iff_ne, ne_eq, Bool.not_eq_true',
      Option.isNone_iff_eq_none] at htext
    obtain ⟨⟨⟨⟨⟨⟨hquote, hheading⟩, hfence⟩, hhtml⟩, hbreak⟩, hmarker⟩, hrest⟩ := htext
    by_cases hcode : entry.cursor.isIndented = true
    · have hlazy : maybeLazy = true := by
        rcases hindent with hindent | hlazy
        · simp only [Cursor.isIndented, decide_eq_true_eq] at hcode
          omega
        · exact hlazy
      simp [openBlocks, hverbatim, hcode, hlazy]
    · rcases hleaf with hleaf | ⟨leaf, hleaf, hkind⟩
      · simp [openBlocks, hcode, hquote, hheading, hfence, hhtml, hbreak, hmarker, hleaf]
      · have hparagraph : entry.inParagraph = true := by
          simp [inParagraph, hleaf, OpenLeaf.isParagraph, hkind]
        simp only [hparagraph, Bool.not_true, Bool.false_or, Bool.and_eq_true,
          Option.isNone_iff_eq_none] at hrest
        have hrow : openRow entry leaf = entry := by simp [openRow, hkind, hrest.2]
        simp [openBlocks, hcode, hquote, hheading, hfence, hhtml, hbreak, hmarker, hleaf, hrest.1,
          hrow]

namespace Entry.At

variable {entry : Entry} {tail : OpenTail} {base : BlockFrame} {outer : List Frame}

theorem eq_of_growingLeaf? (h : entry.At tail base outer) {leaf : OpenLeaf}
    (hleaf : entry.growingLeaf? = some leaf) :
    tail = .leaf leaf ∧ ∃ tried, leaf.kind = .paragraph tried := by
  have hgrowing : entry.growing = true := by
    cases hgrowing : entry.growing with
    | true => rfl
    | false => simp [growingLeaf?, hgrowing] at hleaf
  obtain ⟨l, tried, rfl, hkind⟩ := h.growing hgrowing
  obtain rfl : l = leaf := by
    rw [growingLeaf?, if_pos hgrowing, h.leaf] at hleaf
    exact Option.some.inj hleaf
  exact ⟨rfl, tried, hkind⟩

theorem growingLeaf?_eq (h : entry.At tail base outer) (hparagraph : tail.isParagraph = false) :
    entry.growingLeaf? = none := by
  refine Option.eq_none_iff_forall_ne_some.mpr fun leaf hleaf => ?_
  obtain ⟨rfl, tried, hkind⟩ := h.eq_of_growingLeaf? hleaf
  simp [OpenTail.isParagraph, OpenLeaf.isParagraph, hkind] at hparagraph

theorem openBlocks_heading (h : entry.At tail base outer) (hparagraph : tail.isParagraph = false)
    (hindent : entry.cursor.indent ≤ 3) {level : Nat} {rest : List Char}
    (htext : hashHeading? entry.cursor.text = some (level, rest)) (fuel depth : Nat)
    (maybeLazy : Bool) :
    entry.openBlocks (fuel + 1) depth maybeLazy =
      entry.openLeaf (.heading level) ⟨dropClosingHashes rest, 0, false⟩ := by
  have hleaf := h.growingLeaf?_eq hparagraph
  have hcode : entry.cursor.isIndented = false := by
    simp only [Cursor.isIndented, decide_eq_false_iff_not]
    omega
  have hquote : entry.cursor.text.head? ≠ some '>' := by
    intro hquote
    obtain ⟨s, hs⟩ := List.head?_eq_some_iff.mp hquote
    rw [hs] at htext
    simp [hashHeading?] at htext
  simp [openBlocks, hleaf, hcode, hquote, htext]

end Entry.At

def headingText (rest : List Char) : List Char :=
  let text : Cursor := ⟨dropClosingHashes rest, 0, false⟩
  if text.isBlank then [] else text.text

/-- The container without a blank line at its end and with one more closed block, if there is
one. -/
def BlockFrame.settled (base : BlockFrame) (block : Option ClosedBlock) : BlockFrame :=
  { base.push block with blankEnd := false }

theorem BlockFrame.calm_push (base : BlockFrame) (block : Option ClosedBlock) :
    (base.push block).toFrame.setBlankEnd false = (base.settled block).toFrame := rfl

theorem map_setBlankEnd_false (frames : List Frame) :
    frames.map (Frame.setBlankEnd false) = frames.map Frame.calm := rfl

namespace Entry.At

variable {entry : Entry} {tail : OpenTail} {base : BlockFrame} {outer : List Frame}

theorem addText_heading (h : entry.At tail base outer) (level : Nat) (rest : List Char) :
    ∃ leaf, leaf.Yields (.heading level (headingText rest)) ∧ leaf.blankEnd = false ∧
      leaf.kind = .heading level ∧
      ((entry.openLeaf (.heading level) ⟨dropClosingHashes rest, 0, false⟩).addText).Stands
        (.leaf leaf) (base.settled (tail.closed entry.closing)) (outer.map Frame.calm) := by
  have hplaced : (⟨dropClosingHashes rest, 0, false⟩ : Cursor).WellPlaced :=
    Cursor.wellPlaced_of_whole rfl
  have hcontent := hplaced.content_toText
  let lines := if (⟨dropClosingHashes rest, 0, false⟩ : Cursor).isBlank then []
    else [(⟨dropClosingHashes rest, 0, false⟩ : Cursor).text]
  let leaf : OpenLeaf := { kind := .heading level, first := entry.line, lines }
  have hchain : (entry.openLeaf (.heading level) ⟨dropClosingHashes rest, 0, false⟩).addText =
      { frames := (base.settled (tail.closed entry.closing)).toFrame :: outer.map Frame.calm
        leaf := some leaf, targets := [], lineCount := entry.line } := by
    unfold Entry.openLeaf
    rw [h.settle true]
    by_cases hblank : (⟨dropClosingHashes rest, 0, false⟩ : Cursor).isBlank = true <;>
      simp [addText, addToLeaf, Entry.growingLeaf?, finish, OpenLeaf.marksBlank,
        OpenLeaf.addLine, hcontent, hblank, Entry.line, BlockFrame.calm_push,
        map_setBlankEnd_false, leaf, lines]
  have hyields : leaf.Yields (.heading level (headingText rest)) := by
    intro closing
    by_cases hblank : (⟨dropClosingHashes rest, 0, false⟩ : Cursor).isBlank = true <;>
      simp [OpenLeaf.close, OpenLeaf.text, headingText, hblank, leaf, lines]
  rw [hchain]
  exact ⟨leaf, hyields, rfl, rfl, ⟨rfl, rfl, rfl, .inl (.inr ⟨level, rfl⟩), _, hyields⟩⟩

theorem calm (h : entry.At tail base outer) (hparagraph : tail.isParagraph = false) :
    ∃ calmed : OpenTail, calmed.result = tail.result ∧
      ({ entry with frames := entry.frames.map Frame.calm } : Entry).At calmed
        { base with blankEnd := false } (outer.map Frame.calm) := by
  have hgrowing : entry.growing = true → False := by
    intro hgrowing
    obtain ⟨leaf, tried, rfl, hkind⟩ := h.growing hgrowing
    simp [OpenTail.isParagraph, OpenLeaf.isParagraph, hkind] at hparagraph
  have hframes := h.frames
  cases tail with
  | nothing =>
    refine ⟨.nothing, rfl, ⟨?_, h.pending, h.leaf, h.targets, trivial, fun hg => (hgrowing hg).elim⟩⟩
    simp [hframes]
    rfl
  | leaf l =>
    refine ⟨.leaf l, rfl, ⟨?_, h.pending, h.leaf, h.targets, h.sound, fun hg => (hgrowing hg).elim⟩⟩
    simp [hframes]
    rfl
  | list l =>
    have hsound : (OpenTail.list { l with blankEnd := false }).Sound := fun hend => by simp at hend
    refine ⟨.list { l with blankEnd := false }, ?_,
      ⟨?_, h.pending, h.leaf, h.targets, hsound, fun hg => (hgrowing hg).elim⟩⟩
    · rw [hsound.result_list, OpenTail.Sound.result_list h.sound]
    · simp [hframes]
      rfl
  | item l i inside =>
    obtain ⟨hcalm, hitem⟩ := h.sound
    have hsound : (OpenTail.item { l with blankEnd := false } i inside).Sound := ⟨rfl, hitem⟩
    refine ⟨.item { l with blankEnd := false } i inside, ?_,
      ⟨?_, h.pending, h.leaf, h.targets, hsound, fun hg => (hgrowing hg).elim⟩⟩
    · rw [hsound.result_item, OpenTail.Sound.result_item h.sound]
    · simp [hframes]
      rfl

theorem addText_paragraph (h : entry.At tail base outer)
    (hleaf : ∀ leaf, tail.leaf? = some leaf → leaf.isParagraph = false)
    (hplaced : entry.cursor.WellPlaced) (hblank : entry.cursor.isBlank = false) :
    ∃ start : BlockFrame, start.kind = base.kind ∧ start.blankEnd = false ∧
      start.children.map ClosedBlock.unplaced = tail.doneIn base ∧
      entry.addText =
        { frames := start.toFrame :: outer.map Frame.calm
          leaf := some {
            kind := .paragraph false, first := entry.line, lines := [entry.cursor.text] }
          targets := [], lineCount := entry.line } := by
  have hparagraph := OpenTail.isParagraph_of_leaf? hleaf
  obtain ⟨calmed, hresult, hcalmed⟩ := h.calm hparagraph
  refine ⟨{ base with blankEnd := false }.push (calmed.closed entry.closing), rfl, rfl, ?_, ?_⟩
  · rw [BlockFrame.unplaced_push, hcalmed.sound.unplaced_closed, hresult]
    rfl
  · have hgrowing := h.growingLeaf?_eq hparagraph
    have hmark : entry.markContainer false = entry.frames.map Frame.calm := by
      unfold markContainer
      cases entry.frames <;> rfl
    have hlazy : ∀ leaf, entry.leaf = some leaf → leaf.isParagraph = false := by
      intro leaf hsome
      exact hleaf leaf (h.leaf ▸ hsome)
    have hadd : entry.addText =
        finish ({ entry with frames := entry.frames.map Frame.calm } : Entry).startParagraph := by
      cases hsome : entry.leaf with
      | none =>
        simp only [addText, hgrowing, hblank, hmark, hsome, Bool.false_eq_true, if_false]
      | some leaf =>
        simp only [addText, hgrowing, hblank, hmark, hsome, hlazy leaf hsome, Bool.and_false,
          Bool.false_eq_true, if_false]
    have hsettle := hcalmed.settle false
    rw [hadd]
    simp only [startParagraph, hsettle, hplaced.content_toText]
    rfl

end Entry.At

/-- A line that opens nothing is one more line of the paragraph. -/
theorem BlockChain.addLine_paragraph {chain : BlockChain} {leaf : OpenLeaf}
    (hleaf : chain.leaf = some leaf) (hkind : leaf.kind = .paragraph false)
    (hplain : ∀ frame ∈ chain.frames, frame.IsPlain) {line s : List Char} {left : Nat}
    (hline : Cursor.Behind s ⟨line, 0, false⟩ left) (hwidth : totalWidth chain.frames ≤ left)
    (hblank : restIsBlank s = false)
    (htext : opensNothing true (s.dropWhile isSpaceOrTab) = true) :
    chain.addLine line =
      { chain with
        frames := chain.frames.map Frame.calm
        leaf := some { leaf with
          lines := s.dropWhile isSpaceOrTab :: leaf.lines, blankEnd := false }
        lineCount := chain.lineCount + 1 } := by
  have htotal := totalWidth_reverse chain.frames
  have hreverse : ∀ frame ∈ chain.frames.reverse, frame.IsPlain :=
    fun frame hframe => hplain frame (List.mem_reverse.mp hframe)
  obtain ⟨cursor, hcursor, hpassed⟩ :=
    continued_of_behind hreverse hline (by omega) chain.leaf.isSome [] []
  rw [List.append_nil, List.append_nil, List.reverse_reverse] at hpassed
  have htext' := hcursor.text
  have hblank' : cursor.isBlank = false := hcursor.isBlank.trans hblank
  have hfate : leaf.fate cursor = .continued cursor := by simp [OpenLeaf.fate, hkind, hblank']
  have hparagraph : leaf.isParagraph = true := by simp [OpenLeaf.isParagraph, hkind]
  let entry : Entry := {
    closing := ⟨chain.lineCount + 1, false⟩, frames := chain.frames, pending := []
    leaf := some leaf, growing := true, targets := chain.targets, cursor }
  have hopen : entry.openBlocks (line.length + 1) 1 true = entry := by
    refine Entry.openBlocks_nothing (.inr rfl) ?_ (.inr ⟨leaf, rfl, hkind⟩) _ _
    have hin : entry.inParagraph = true := hparagraph
    rw [hin]
    exact htext' ▸ htext
  unfold addLine
  rw [hpassed]
  simp only [continued, hleaf, hfate, Option.any_some, hparagraph, List.reverse_nil]
  rw [show ({
    closing := ⟨chain.lineCount + 1, false⟩, frames := chain.frames, pending := []
    leaf := some leaf, growing := true, targets := chain.targets, cursor } : Entry) = entry from
    rfl, hopen]
  simp only [entry, Entry.addText, Entry.growingLeaf?, if_true, Entry.addToLeaf, hkind, hblank',
    Bool.false_and, Bool.false_eq_true, if_false, hcursor.wellPlaced.content_toText,
    OpenLeaf.addLine, htext']
  rfl

end MarkdownOutline.Markdown
