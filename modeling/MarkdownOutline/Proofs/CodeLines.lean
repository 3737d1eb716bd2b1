import MarkdownOutline.Proofs.LineOpenings

/-!
# Lines of code

A fence or four columns of indentation open a code block. Its lines are taken as they stand, but
for the columns that the block itself takes off them, until its fence is closed or a line is not
indented far enough.
-/

namespace MarkdownOutline.Markdown

open Text

namespace Entry.At

variable {entry : Entry} {tail : OpenTail} {base : BlockFrame} {outer : List Frame}

private theorem openingFence?_mark {s rest : List Char} {fence : Char} {length : Nat}
    (h : openingFence? s = some (fence, length, rest)) :
    s.head? = some fence ∧ (fence = '~' ∨ fence = '\x60') := by
  unfold openingFence? at h
  cases s with
  | nil => simp at h
  | cons c s =>
    simp only at h
    split at h
    · simp at h
    · split at h
      next hmark =>
        simp only [Option.some.injEq, Prod.mk.injEq] at h
        obtain ⟨rfl, _⟩ := h
        refine ⟨rfl, ?_⟩
        simp only [Bool.or_eq_true, beq_iff_eq, Bool.and_eq_true] at hmark
        exact hmark.imp_right And.left
      · simp at h

theorem openBlocks_fence (h : entry.At tail base outer) (hparagraph : tail.isParagraph = false)
    (hindent : entry.cursor.indent ≤ 3) {fence : Char} {length : Nat} {rest : List Char}
    (htext : openingFence? entry.cursor.text = some (fence, length, rest)) (fuel depth : Nat)
    (maybeLazy : Bool) :
    entry.openBlocks (fuel + 1) depth maybeLazy =
      entry.openLeaf (.fencedCode fence length entry.cursor.indentChars) ⟨rest, 0, false⟩ := by
  have hleaf := h.growingLeaf?_eq hparagraph
  have hcode : entry.cursor.isIndented = false := by
    simp only [Cursor.isIndented, decide_eq_false_iff_not]
    omega
  obtain ⟨hhead, hmark⟩ := openingFence?_mark htext
  have hquote : entry.cursor.text.head? ≠ some '>' := by
    rw [hhead]
    rcases hmark with rfl | rfl <;> decide
  have hheading : hashHeading? entry.cursor.text = none := by
    obtain ⟨s, hs⟩ := List.head?_eq_some_iff.mp hhead
    rw [hs]
    rcases hmark with rfl | rfl <;> simp [hashHeading?]
  simp [openBlocks, hleaf, hcode, hquote, hheading, htext]

theorem openBlocks_indented (h : entry.At tail base outer) (hparagraph : tail.isParagraph = false)
    (hindent : 4 ≤ entry.cursor.indent) (hblank : entry.cursor.isBlank = false) (fuel depth : Nat) :
    entry.openBlocks (fuel + 1) depth false =
      entry.openLeaf .indentedCode (entry.cursor.advanceColumns 4) := by
  have hleaf := h.growingLeaf?_eq hparagraph
  have hcode : entry.cursor.isIndented = true := by simpa [Cursor.isIndented] using hindent
  simp [openBlocks, hleaf, hcode, hblank]

theorem addText_code (h : entry.At tail base outer) {kind : OpenLeafKind} {cursor : Cursor}
    (hkind : (∃ fence length offset, kind = .fencedCode fence length offset) ∨
      kind = .indentedCode ∧ cursor.isBlank = false) :
    (entry.openLeaf kind cursor).addText =
      { frames := (base.settled (tail.closed entry.closing)).toFrame :: outer.map Frame.calm
        leaf := some { kind, first := entry.line, lines := [cursor.content] }
        targets := [], lineCount := entry.line } := by
  unfold Entry.openLeaf
  rw [h.settle true]
  rcases hkind with ⟨fence, length, offset, rfl⟩ | ⟨rfl, hblank⟩ <;>
    simp [addText, addToLeaf, Entry.growingLeaf?, finish, OpenLeaf.marksBlank, OpenLeaf.addLine,
      Entry.line, BlockFrame.calm_push, map_setBlankEnd_false, *]

end Entry.At

def OpenLeaf.IsCode (leaf : OpenLeaf) : Prop :=
  (∃ fence length offset, leaf.kind = .fencedCode fence length offset) ∨ leaf.kind = .indentedCode

namespace BlockChain

variable {chain : BlockChain} {leaf : OpenLeaf}

private theorem addLine_code (hleaf : chain.leaf = some leaf) (hcode : leaf.IsCode)
    {line : List Char} {cursor next : Cursor}
    (hpassed : continued true chain.frames.reverse ⟨line, 0, false⟩ [] =
      (chain.frames, [], cursor))
    (hfate : leaf.fate cursor = .continued next) :
    chain.addLine line =
      { chain with
        frames := chain.frames.map Frame.calm
        leaf := some { leaf with
          lines := next.content :: leaf.lines, blankEnd := next.isBlank && leaf.marksBlank }
        lineCount := chain.lineCount + 1 } := by
  have hcalm : chain.frames.map (Frame.setBlankEnd false) = chain.frames.map Frame.calm := rfl
  unfold addLine
  simp only [hleaf, Option.isSome_some]
  rw [hpassed]
  simp only [List.reverse_nil, hfate]
  rcases hcode with ⟨fence, length, offset, hkind⟩ | hkind <;>
    simp [Entry.openBlocks, Entry.growingLeaf?, OpenLeaf.isVerbatim, Entry.addText,
      Entry.addToLeaf, OpenLeaf.addLine, Entry.finish, Entry.line, hkind, hcalm]

private theorem continued_line (hplain : ∀ frame ∈ chain.frames, frame.IsPlain)
    {line s : List Char} {left : Nat}
    (hline : Cursor.Behind s ⟨line, 0, false⟩ (totalWidth chain.frames + left)) :
    ∃ cursor, Cursor.Behind s cursor left ∧
      continued true chain.frames.reverse ⟨line, 0, false⟩ [] = (chain.frames, [], cursor) := by
  have hreverse : ∀ frame ∈ chain.frames.reverse, frame.IsPlain :=
    fun frame hframe => hplain frame (List.mem_reverse.mp hframe)
  have htotal := totalWidth_reverse chain.frames
  obtain ⟨cursor, hcursor, hpassed⟩ :=
    continued_of_behind hreverse hline (by omega) true [] []
  rw [htotal, Nat.add_sub_cancel_left] at hcursor
  rw [List.append_nil, List.append_nil, List.reverse_reverse] at hpassed
  exact ⟨cursor, hcursor, hpassed⟩

/-- A line behind a fence that does not close it is taken as it stands, if its tabs reach no further
than the fence. -/
theorem addLine_fencedCode (hleaf : chain.leaf = some leaf) {fence : Char} {length left : Nat}
    (hkind : leaf.kind = .fencedCode fence length left) (hleft : left ≤ 1)
    (hplain : ∀ frame ∈ chain.frames, frame.IsPlain) {line s : List Char}
    (hline : Cursor.Behind s ⟨line, 0, false⟩ (totalWidth chain.frames + left))
    (hclosing : isClosingFence fence length (s.dropWhile isSpaceOrTab) = false) :
    chain.addLine line =
      { chain with
        frames := chain.frames.map Frame.calm
        leaf := some { leaf with lines := s :: leaf.lines, blankEnd := false }
        lineCount := chain.lineCount + 1 } := by
  obtain ⟨cursor, hcursor, hpassed⟩ := continued_line hplain hline
  have hfate : leaf.fate cursor = .continued (cursor.skipColumns left) := by
    simp [OpenLeaf.fate, hkind, hcursor.text, hclosing]
  rw [addLine_code hleaf (.inl ⟨_, _, _, hkind⟩) hpassed hfate,
    (hcursor.skipColumns hleft).content]
  simp [OpenLeaf.marksBlank, hkind]

theorem addLine_fencedCode_empty (hleaf : chain.leaf = some leaf) {fence : Char}
    {length offset : Nat} (hkind : leaf.kind = .fencedCode fence length offset)
    (hplain : ∀ frame ∈ chain.frames, frame.IsPlain)
    (hclosing : isClosingFence fence length ['\n'] = false) :
    chain.addLine ['\n'] =
      { chain with
        frames := chain.frames.map Frame.calm
        leaf := some { leaf with lines := ['\n'] :: leaf.lines, blankEnd := false }
        lineCount := chain.lineCount + 1 } := by
  have hreverse : ∀ frame ∈ chain.frames.reverse, frame.IsPlain :=
    fun frame hframe => hplain frame (List.mem_reverse.mp hframe)
  have hpassed := continued_emptyLine hreverse true [] (.inl rfl) []
  rw [List.append_nil, List.append_nil, List.reverse_reverse] at hpassed
  have hskip (count : Nat) : emptyLine.skipColumns count = emptyLine := by
    induction count with
    | zero => rfl
    | succ count ih => exact ih
  have hfate : leaf.fate emptyLine = .continued emptyLine := by
    have htext : emptyLine.text = ['\n'] := rfl
    simp [OpenLeaf.fate, hkind, htext, hclosing, hskip]
  have hcontent : emptyLine.content = ['\n'] := rfl
  have hadd := addLine_code hleaf (.inl ⟨_, _, _, hkind⟩) hpassed hfate
  simpa [OpenLeaf.marksBlank, hkind, hcontent] using hadd

theorem addLine_indentedCode (hleaf : chain.leaf = some leaf) (hkind : leaf.kind = .indentedCode)
    (hplain : ∀ frame ∈ chain.frames, frame.IsPlain) {line s : List Char}
    (hline : Cursor.Behind ("    ".toList ++ s) ⟨line, 0, false⟩ (totalWidth chain.frames)) :
    chain.addLine line =
      { chain with
        frames := chain.frames.map Frame.calm
        leaf := some { leaf with lines := s :: leaf.lines, blankEnd := restIsBlank s }
        lineCount := chain.lineCount + 1 } := by
  have hline : Cursor.Behind ("    ".toList ++ s) ⟨line, 0, false⟩ (totalWidth chain.frames + 0) :=
    hline
  obtain ⟨cursor, hcursor, hpassed⟩ := continued_line hplain hline
  have hnext := hcursor.advanceColumns_spaces
  have hindent : cursor.isIndented = true := by
    obtain ⟨column, hindent⟩ := hcursor.exists_indent
    have hspaces : Cursor.leadingColumns ("    ".toList ++ s) column =
        Cursor.leadingColumns s (column + 4) + 4 := rfl
    simp only [Cursor.isIndented, decide_eq_true_eq]
    omega
  have hfate : leaf.fate cursor = .continued (cursor.advanceColumns 4) := by
    simp [OpenLeaf.fate, hkind, hindent]
  rw [addLine_code hleaf (.inr hkind) hpassed hfate, hnext.content, hnext.isBlank]
  simp [OpenLeaf.marksBlank, hkind]

theorem addLine_closingFence (hleaf : chain.leaf = some leaf) {fence : Char} {length offset : Nat}
    (hkind : leaf.kind = .fencedCode fence length offset) {info : List Char}
    {lines : List (List Char)} (hlines : leaf.lines = (info :: lines).reverse)
    (hblank : leaf.blankEnd = false) {base : BlockFrame} {outer : List Frame}
    (hframes : chain.frames = base.toFrame :: outer)
    (hplain : ∀ frame ∈ chain.frames, frame.IsPlain) {line s : List Char} {left : Nat}
    (hline : Cursor.Behind s ⟨line, 0, false⟩ (totalWidth chain.frames + left)) (hleft : left ≤ 3)
    (hhead : s.head?.all (!isSpaceOrTab ·)) (hclosing : isClosingFence fence length s = true) :
    chain.addLine line =
      { chain with
        frames := (base.push (some ⟨.leaf (.code true (OpenLeaf.fenceInfo info) lines.flatten)
          ⟨leaf.first, chain.lineCount + 1⟩, false⟩)).toFrame :: outer
        leaf := none
        lineCount := chain.lineCount + 1 } := by
  obtain ⟨cursor, hcursor, hpassed⟩ := continued_line hplain hline
  have hindent : cursor.indent = left :=
    hcursor.indent (show s = List.replicate 0 ' ' ++ s from rfl) hhead
  have hfate : leaf.fate cursor = .completed := by
    simp [OpenLeaf.fate, hkind, hcursor.text, Cursor.dropWhile_of_head hhead, hclosing, hindent,
      hleft]
  have hclose := OpenLeaf.close_fencedCode hkind hlines
  unfold addLine
  simp only [hleaf, Option.isSome_some]
  rw [hpassed]
  simp only [hfate]
  simp [Entry.settle, Entry.finish, hclose, hframes, closeChain, Entry.pushOnto, BlockFrame.push,
    BlockFrame.toFrame, Frame.push, hblank, Entry.line]

end BlockChain

end MarkdownOutline.Markdown
