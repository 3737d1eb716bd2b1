import MarkdownOutline.Proofs.Indentation
import MarkdownOutline.Proofs.OpenTail

/-!
# What a line does to a chain

A line that is indented as far as a container passes everything around the container, leaves the
items that are indented further, and opens its blocks there.
-/

namespace MarkdownOutline.Markdown

open Text

/-- The line has passed the containers `outer` and `base` and stands next to the tail in it, as
part of the leaf only if that is a paragraph. -/
structure Entry.At (entry : Entry) (tail : OpenTail) (base : BlockFrame) (outer : List Frame) :
    Prop where
  frames : entry.frames = tail.kept ++ base.toFrame :: outer
  pending : entry.pending = tail.left
  leaf : entry.leaf = tail.leaf?
  targets : entry.targets = []
  sound : tail.Sound
  growing : entry.growing = true → ∃ leaf tried, tail = .leaf leaf ∧ leaf.kind = .paragraph tried

namespace Entry.At

variable {entry : Entry} {tail : OpenTail} {base : BlockFrame} {outer : List Frame}

/-- The tail is closed into the container around it. -/
theorem settle (h : entry.At tail base outer) (early : Bool) :
    entry.settle false early =
      { entry with
        frames := (base.push (tail.closed entry.closing)).toFrame :: outer
        pending := [], leaf := none, growing := false, opened := true, targets := [] } := by
  have htargets := h.sound.leaf_targets entry.closing
  have hvanished := h.sound.leaf_stays entry.closing
  rw [← h.leaf] at htargets hvanished
  unfold Entry.settle
  generalize hresult : (entry.leaf.map (·.close entry.closing)).getD (none, []) = result at *
  obtain ⟨leafBlock, found⟩ := result
  have hclosed : leafBlock.map Closed.block = leafClosed entry.closing tail.leaf? := by
    rw [← h.leaf, leafClosed, hresult]
  simp only at htargets hvanished
  simp only [hvanished, Bool.and_false, Bool.false_and, h.pending, hclosed, h.targets, htargets,
    h.frames]
  cases tail with
  | nothing => rfl
  | leaf l =>
    have hinner := h.sound.closeChain_frames entry.closing
    simp only [OpenTail.frames, OpenTail.leaf?] at hinner
    simp only [OpenTail.left, OpenTail.kept, OpenTail.leaf?, hinner]
    cases (OpenTail.leaf l).closed entry.closing <;> rfl
  | list l => rfl
  | item l i inside =>
    have hinner := h.sound.closeChain_left entry.closing
    simp only [OpenTail.leaf?, hinner]
    rfl

theorem settle_item {l : ListFrame} {i : BlockFrame} {inside : OpenTail}
    (h : entry.At (.item l i inside) base outer) (early : Bool) :
    entry.settle true early =
      { entry with
        frames := (l.push (i.closeItem entry.closing (inside.closed entry.closing))).toFrame ::
          base.toFrame :: outer
        pending := [], leaf := none, growing := false, opened := true, targets := [] } := by
  have htargets := h.sound.leaf_targets entry.closing
  rw [← h.leaf] at htargets
  have hinner := h.sound.closeChain_left entry.closing
  unfold Entry.settle
  generalize hresult : (entry.leaf.map (·.close entry.closing)).getD (none, []) = result at *
  obtain ⟨leafBlock, found⟩ := result
  have hclosed : leafBlock.map Closed.block = leafClosed entry.closing inside.leaf? := by
    rw [show inside.leaf? = entry.leaf from h.leaf.symm, leafClosed, hresult]
  simp only at htargets
  simp only [Bool.not_true, Bool.and_false, Bool.false_and, h.pending, hclosed, h.targets,
    htargets, h.frames, hinner]
  rfl

theorem settle_list {l : ListFrame} (h : entry.At (.list l) base outer) (early : Bool) :
    entry.settle true early =
      { entry with
        frames := l.toFrame :: base.toFrame :: outer
        pending := [], leaf := none, growing := false, opened := true, targets := [] } := by
  have hleaf : entry.leaf = none := h.leaf
  unfold Entry.settle
  simp only [hleaf, h.pending, h.frames, h.targets]
  rfl

end Entry.At

theorem Cursor.Behind.isBlank {cursor : Cursor} {s : List Char} {left : Nat}
    (h : Cursor.Behind s cursor left) : cursor.isBlank = restIsBlank s := by
  rw [Cursor.isBlank, h.text]
  rfl

def Frame.width : Frame → Nat
  | .blocks (.item width) .. => width
  | _ => 0

def totalWidth : List Frame → Nat
  | [] => 0
  | frame :: frames => frame.width + totalWidth frames

theorem totalWidth_append (first second : List Frame) :
    totalWidth (first ++ second) = totalWidth first + totalWidth second := by
  induction first with
  | nil => simp [totalWidth]
  | cons frame first ih => simp [totalWidth, ih, Nat.add_assoc]

theorem totalWidth_reverse (frames : List Frame) :
    totalWidth frames.reverse = totalWidth frames := by
  induction frames with
  | nil => rfl
  | cons frame frames ih =>
    simp [totalWidth, totalWidth_append, ih, Nat.add_comm]

/-- The container is the document, a list, or an item that takes columns. -/
def Frame.IsPlain : Frame → Prop
  | .blocks .quote .. => False
  | .blocks (.item width) .. => 0 < width
  | _ => True

theorem Frame.continue?_of_behind {frame : Frame} (h : frame.IsPlain) {cursor : Cursor}
    {s : List Char} {left : Nat} (hcursor : Cursor.Behind s cursor left) (hwidth : frame.width ≤ left)
    (inhabited : Bool) :
    ∃ next : Cursor, frame.continue? inhabited cursor = some next ∧
      Cursor.Behind s next (left - frame.width) := by
  cases frame with
  | list marker first blankEnd items => exact ⟨cursor, rfl, hcursor⟩
  | blocks kind first blankEnd children =>
    cases kind with
    | document => exact ⟨cursor, rfl, hcursor⟩
    | quote => exact h.elim
    | item width =>
      have hindent : width ≤ cursor.indent := by
        obtain ⟨column, hindent⟩ := hcursor.exists_indent
        have hwidth : width ≤ left := hwidth
        omega
      refine ⟨cursor.advanceColumns width, ?_, hcursor.advanceColumns hwidth⟩
      simp [continue?, hindent]

theorem BlockChain.continued_of_behind {frames : List Frame} (h : ∀ frame ∈ frames, frame.IsPlain)
    {cursor : Cursor} {s : List Char} {left : Nat} (hcursor : Cursor.Behind s cursor left)
    (hwidth : totalWidth frames ≤ left) (inhabited : Bool) (inner matched : List Frame) :
    ∃ next : Cursor, Cursor.Behind s next (left - totalWidth frames) ∧
      continued inhabited (frames ++ inner) cursor matched =
        continued inhabited inner next (frames.reverse ++ matched) := by
  induction frames generalizing cursor left matched with
  | nil => exact ⟨cursor, hcursor, rfl⟩
  | cons frame frames ih =>
    have htotal : totalWidth (frame :: frames) = frame.width + totalWidth frames := rfl
    rw [htotal] at hwidth
    obtain ⟨middle, hmiddle, hbehind⟩ := Frame.continue?_of_behind
      (h frame (by simp)) hcursor (by omega) (!(frames ++ inner).isEmpty || inhabited)
    obtain ⟨next, hnext, hcontinued⟩ :=
      ih (fun f hf => h f (by simp [hf])) hbehind (by omega) (frame :: matched)
    refine ⟨next, ?_, ?_⟩
    · rw [htotal, ← Nat.sub_sub]
      exact hnext
    · simp only [List.cons_append, continued, hmiddle, hcontinued, List.reverse_cons,
        List.append_assoc, List.nil_append]

def emptyLine : Cursor := ⟨['\n'], 0, false⟩

theorem BlockChain.continued_emptyLine {frames : List Frame}
    (h : ∀ frame ∈ frames, frame.IsPlain) (inhabited : Bool) (inner : List Frame)
    (hinner : inhabited = true ∨ inner ≠ []) (matched : List Frame) :
    continued inhabited (frames ++ inner) emptyLine matched =
      continued inhabited inner emptyLine (frames.reverse ++ matched) := by
  induction frames generalizing matched with
  | nil => rfl
  | cons frame frames ih =>
    have hsome : (!(frames ++ inner).isEmpty || inhabited) = true := by
      rcases hinner with hinner | hinner
      · simp [hinner]
      · cases frames <;> simp [hinner]
    have hnext : frame.continue? (!(frames ++ inner).isEmpty || inhabited) emptyLine =
        some emptyLine := by
      rw [hsome]
      cases frame with
      | list marker first blankEnd items => rfl
      | blocks kind first blankEnd children =>
        cases kind with
        | document => rfl
        | quote => exact (h _ List.mem_cons_self).elim
        | item width =>
          have hwidth : 0 < width := h _ List.mem_cons_self
          have hshort : ¬ width ≤ emptyLine.indent := by
            simp [emptyLine, Cursor.indent, Cursor.leadingColumns]
            omega
          simp only [Frame.continue?, ge_iff_le, hshort, if_false, Bool.true_or, Bool.and_true]
          rfl
    have hrest := ih (fun f hf => h f (List.mem_cons_of_mem _ hf)) (frame :: matched)
    simp only [List.cons_append, continued, hnext, hrest, List.reverse_cons, List.append_assoc,
      List.nil_append]

/-- The tail is open in the container `base` of the chain. -/
structure BlockChain.Stands (chain : BlockChain) (tail : OpenTail) (base : BlockFrame)
    (outer : List Frame) : Prop where
  frames : chain.frames = tail.frames ++ base.toFrame :: outer
  leaf : chain.leaf = tail.leaf?
  targets : chain.targets = []
  sound : tail.Sound

/-- Lines with the indentation do not reach the item that is open in the tail, nor are they part of
its indented code. -/
def OpenTail.Clears (indent : Nat) : OpenTail → Prop
  | .item _ i _ => indent < i.toFrame.width
  | .leaf l => l.kind = .indentedCode → indent ≤ 3
  | _ => True

def OpenTail.isParagraph : OpenTail → Bool
  | .leaf l => l.isParagraph
  | _ => false

theorem OpenTail.isParagraph_of_leaf? {tail : OpenTail}
    (h : ∀ leaf, tail.leaf? = some leaf → leaf.isParagraph = false) : tail.isParagraph = false := by
  cases tail with
  | leaf l => exact h l rfl
  | _ => rfl

theorem OpenTail.Sound.continued {tail : OpenTail} (h : tail.Sound) {cursor : Cursor}
    (hclears : tail.Clears cursor.indent) (hblank : cursor.isBlank = false) (inhabited : Bool)
    (matched : List Frame) :
    BlockChain.continued inhabited tail.frames.reverse cursor matched =
      (tail.kept ++ matched, tail.left.reverse, cursor) := by
  cases tail with
  | nothing => rfl
  | leaf l => rfl
  | list l => rfl
  | item l i inside =>
    obtain ⟨_, ⟨width, _, hkind⟩, _⟩ := h
    obtain ⟨kind, first, blankEnd, children⟩ := i
    subst hkind
    have hwide : ¬ width ≤ cursor.indent := Nat.not_le.mpr hclears
    simp only [frames, kept, left, List.reverse_append, List.reverse_cons, List.reverse_nil,
      List.nil_append, List.cons_append, BlockChain.continued, ListFrame.toFrame,
      BlockFrame.toFrame, Frame.continue?, ge_iff_le, hwide, hblank, if_false, Bool.false_and,
      Bool.false_eq_true]

theorem OpenLeaf.IsKnown.fate {leaf : OpenLeaf} (h : leaf.IsKnown) {cursor : Cursor}
    (hblank : cursor.isBlank = false) (hindent : leaf.kind = .indentedCode → cursor.indent ≤ 3) :
    leaf.fate cursor = if leaf.isParagraph then .continued cursor else .left := by
  rcases h with (⟨tried, hkind⟩ | ⟨level, hkind⟩) | hkind
  · simp [OpenLeaf.fate, isParagraph, hkind, hblank]
  · simp [OpenLeaf.fate, isParagraph, hkind]
  · have hcode : cursor.isIndented = false := by
      have hshort := hindent hkind
      simp only [Cursor.isIndented, decide_eq_false_iff_not]
      omega
    simp [OpenLeaf.fate, isParagraph, hkind, hblank, hcode]

/-- A line with text comes to stand next to the tail. -/
theorem BlockChain.Stands.addLine {chain : BlockChain} {tail : OpenTail} {base : BlockFrame}
    {outer : List Frame} (h : chain.Stands tail base outer)
    (hplain : ∀ frame ∈ base.toFrame :: outer, frame.IsPlain) {line s : List Char} {left : Nat}
    (hline : Cursor.Behind s ⟨line, 0, false⟩ (totalWidth (base.toFrame :: outer) + left))
    (hblank : restIsBlank s = false)
    (hclears : ∀ cursor, Cursor.Behind s cursor left → tail.Clears cursor.indent) :
    ∃ entry : Entry, entry.At tail base outer ∧ Cursor.Behind s entry.cursor left ∧
      entry.growing = tail.isParagraph ∧
      chain.addLine line =
        (entry.openBlocks (line.length + 1) 1 (chain.leaf.any (·.isParagraph))).addText := by
  have hreverse : chain.frames.reverse = (base.toFrame :: outer).reverse ++ tail.frames.reverse := by
    rw [h.frames, List.reverse_append]
  have hwidth := totalWidth_reverse (base.toFrame :: outer)
  have hplain' : ∀ frame ∈ (base.toFrame :: outer).reverse, frame.IsPlain :=
    fun frame hframe => hplain frame (List.mem_reverse.mp hframe)
  obtain ⟨cursor, hcursor, hpassed⟩ := continued_of_behind
    hplain' hline (by omega) chain.leaf.isSome tail.frames.reverse []
  rw [hwidth, Nat.add_sub_cancel_left] at hcursor
  have hblank' : cursor.isBlank = false := hcursor.isBlank.trans hblank
  have hclears' := hclears cursor hcursor
  have hcontinued : continued chain.leaf.isSome chain.frames.reverse ⟨line, 0, false⟩ [] =
      (tail.kept ++ base.toFrame :: outer, tail.left.reverse, cursor) := by
    rw [hreverse, hpassed, h.sound.continued hclears' hblank', List.reverse_reverse,
      List.append_nil]
  refine ⟨{
    closing := ⟨chain.lineCount + 1, false⟩, frames := tail.kept ++ base.toFrame :: outer
    pending := tail.left, leaf := chain.leaf, growing := tail.isParagraph
    targets := chain.targets, cursor }, ⟨rfl, rfl, h.leaf, h.targets, h.sound, ?_⟩, hcursor, rfl, ?_⟩
  · intro hgrowing
    cases tail with
    | leaf l =>
      refine ⟨l, ?_⟩
      rcases h.sound.1 with (⟨tried, hkind⟩ | ⟨level, hkind⟩) | hkind
      · exact ⟨tried, rfl, hkind⟩
      · simp [OpenTail.isParagraph, OpenLeaf.isParagraph, hkind] at hgrowing
      · simp [OpenTail.isParagraph, OpenLeaf.isParagraph, hkind] at hgrowing
    | _ => simp [OpenTail.isParagraph] at hgrowing
  · unfold BlockChain.addLine
    rw [hcontinued]
    cases tail with
    | nothing =>
      have hleaf : chain.leaf = none := h.leaf
      simp [OpenTail.left, OpenTail.isParagraph, hleaf]
    | leaf l =>
      have hleaf : chain.leaf = some l := h.leaf
      have hfate := OpenLeaf.IsKnown.fate h.sound.1 hblank' hclears'
      by_cases hparagraph : l.isParagraph = true
      · simp [OpenTail.left, OpenTail.isParagraph, hleaf, hfate, hparagraph]
      · simp [OpenTail.left, OpenTail.isParagraph, hleaf, hfate, hparagraph]
    | list l =>
      have hleaf : chain.leaf = none := h.leaf
      simp [OpenTail.left, OpenTail.isParagraph, hleaf]
    | item l i inside =>
      simp [OpenTail.left, OpenTail.isParagraph]

end MarkdownOutline.Markdown
