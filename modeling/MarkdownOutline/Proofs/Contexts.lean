import MarkdownOutline.Proofs.LineOpenings
import MarkdownOutline.Proofs.WrittenLines

/-!
# Lines behind tabs

The lines of a block stand behind the tabs of the items around it. They reach the container that the
block is written in, with some columns of the last tab left over.
-/

namespace MarkdownOutline

open Markdown Text

namespace Markdown

def BlockChain.addIndented (chain : BlockChain) (tabs : Nat) (lines : List (List Char)) :
    BlockChain :=
  lines.foldl (fun chain line => chain.addLine (indentLine tabs line ++ ['\n'])) chain

theorem BlockChain.addIndented_append (chain : BlockChain) (tabs : Nat)
    (first second : List (List Char)) :
    chain.addIndented tabs (first ++ second) =
      (chain.addIndented tabs first).addIndented tabs second := List.foldl_append

theorem indentLine_of_ne_nil {line : List Char} (h : line ≠ []) (tabs : Nat) :
    indentLine tabs line ++ ['\n'] = List.replicate tabs '\t' ++ (line ++ ['\n']) := by
  simp [indentLine, h]

private theorem indentLine_indentLine (tabs inner : Nat) (line : List Char) :
    indentLine tabs (indentLine inner line) = indentLine (tabs + inner) line := by
  unfold indentLine
  by_cases hline : line.isEmpty = true
  · simp [hline]
  · have hinner : (List.replicate inner '\t' ++ line).isEmpty = false := by
      cases inner <;> simp_all [List.replicate_succ]
    rw [if_neg hline, if_neg (by simp [hinner]), if_neg hline, ← List.append_assoc,
      List.replicate_append_replicate]

theorem BlockChain.addIndented_map (chain : BlockChain) (tabs inner : Nat)
    (lines : List (List Char)) :
    chain.addIndented tabs (lines.map (indentLine inner)) =
      chain.addIndented (tabs + inner) lines := by
  simp only [addIndented, List.foldl_map, indentLine_indentLine]

theorem Frame.calm_calm (frame : Frame) : frame.calm.calm = frame.calm := by cases frame <;> rfl

theorem Frame.isPlain_calm {frame : Frame} : frame.calm.IsPlain ↔ frame.IsPlain := by
  cases frame with
  | list marker first blankEnd items => rfl
  | blocks kind first blankEnd children => cases kind <;> rfl

theorem Frame.width_calm (frame : Frame) : frame.calm.width = frame.width := by
  cases frame with
  | list marker first blankEnd items => rfl
  | blocks kind first blankEnd children => cases kind <;> rfl

theorem totalWidth_calm (frames : List Frame) :
    totalWidth (frames.map Frame.calm) = totalWidth frames := by
  induction frames with
  | nil => rfl
  | cons frame frames ih => simp only [List.map_cons, totalWidth, Frame.width_calm, ih]

/-- Lines behind `tabs` reach a container of the kind inside the containers `outer`, and `rest`
columns of the tabs are left over there. -/
structure Context (kind : ContainerKind) (outer : List Frame) (tabs rest : Nat) : Prop where
  base : (Frame.blocks kind 0 false []).IsPlain
  plain : ∀ frame ∈ outer, frame.IsPlain
  calm : outer.map Frame.calm = outer
  width : 4 * tabs = (Frame.blocks kind 0 false []).width + totalWidth outer + rest

namespace Context

variable {kind : ContainerKind} {outer : List Frame} {tabs rest : Nat}

theorem isPlain (h : Context kind outer tabs rest) {base : BlockFrame} (hkind : base.kind = kind) :
    ∀ frame ∈ base.toFrame :: outer, frame.IsPlain := by
  intro frame hframe
  rcases List.mem_cons.mp hframe with rfl | hframe
  · have hbase := h.base
    obtain ⟨k, first, blankEnd, children⟩ := base
    subst hkind
    cases k <;> exact hbase
  · exact h.plain frame hframe

theorem totalWidth_eq (h : Context kind outer tabs rest) {base : BlockFrame}
    (hkind : base.kind = kind) : totalWidth (base.toFrame :: outer) + rest = 4 * tabs := by
  have hwidth : base.toFrame.width = (Frame.blocks kind 0 false []).width := by
    obtain ⟨k, first, blankEnd, children⟩ := base
    subst hkind
    cases k <;> rfl
  have htotal : totalWidth (base.toFrame :: outer) = base.toFrame.width + totalWidth outer := rfl
  rw [htotal, hwidth, h.width]

theorem behind_indentLine (h : Context kind outer tabs rest) {base : BlockFrame}
    (hkind : base.kind = kind) {line : List Char} (hline : line ≠ []) :
    Cursor.Behind (line ++ ['\n']) ⟨indentLine tabs line ++ ['\n'], 0, false⟩
      (totalWidth (base.toFrame :: outer) + rest) := by
  rw [indentLine_of_ne_nil hline, h.totalWidth_eq hkind]
  exact Cursor.behind_start tabs _

theorem calm_frames (h : Context kind outer tabs rest) {base : BlockFrame}
    (hend : base.blankEnd = false) :
    (base.toFrame :: outer).map Frame.calm = base.toFrame :: outer := by
  rw [List.map_cons, h.calm]
  obtain ⟨kind, first, blankEnd, children⟩ := base
  subst hend
  rfl

theorem item (h : Context kind outer tabs rest) {base : BlockFrame} (hkind : base.kind = kind)
    (l : ListFrame) {first : Nat} (marker : List Char) (hfirst : first ≤ rest) :
    Context (.item (first + marker.length + 1))
      ((l.toFrame :: base.toFrame :: outer).map Frame.calm) (tabs + itemTabs marker)
      (rest - first + 3 - marker.length % 4) where
  base := Nat.succ_pos _
  plain := by
    intro frame hframe
    obtain ⟨f, hf, rfl⟩ := List.mem_map.mp hframe
    rw [Frame.isPlain_calm]
    rcases List.mem_cons.mp hf with rfl | hf
    · trivial
    · exact h.isPlain hkind f hf
  calm := by simp [Frame.calm_calm]
  width := by
    have hwidth := h.totalWidth_eq hkind
    have htotal : totalWidth (l.toFrame :: base.toFrame :: outer) =
        totalWidth (base.toFrame :: outer) := by
      simp only [totalWidth]
      exact Nat.zero_add _
    have hitem : (Frame.blocks (.item (first + marker.length + 1)) 0 false []).width =
        first + marker.length + 1 := rfl
    rw [totalWidth_calm, htotal, hitem, itemTabs]
    omega

end Context

/-- The line comes to stand next to the tail, behind some columns of tabs. -/
structure Entry.Starts (entry : Entry) (before : OpenTail) (base : BlockFrame)
    (outer : List Frame) (line : List Char) (indent : Nat) : Prop where
  at_ : entry.At before base outer
  behind : Cursor.Behind (line ++ ['\n']) entry.cursor indent

namespace Entry.Starts

variable {entry : Entry} {before : OpenTail} {base : BlockFrame} {outer : List Frame}
  {line : List Char} {indent lead : Nat}

theorem indent_eq (h : entry.Starts before base outer line indent) (hline : StartsAfter lead line) :
    entry.cursor.indent = indent + lead := by
  obtain ⟨c, s, rfl, hspace, _⟩ := hline.exists_eq
  exact h.behind.indent (List.append_assoc ..) (by simp [hspace])

theorem text_eq (h : entry.Starts before base outer line indent) (hline : StartsAfter 0 line) :
    entry.cursor.text = line ++ ['\n'] := by
  obtain ⟨c, s, rfl, hspace, _⟩ := hline.exists_eq
  rw [h.behind.text]
  exact Cursor.dropWhile_of_head (by simp [hspace])

theorem isBlank_eq (h : entry.Starts before base outer line indent)
    (hline : StartsAfter lead line) : entry.cursor.isBlank = false :=
  h.behind.isBlank.trans hline.restIsBlank

end Entry.Starts

/-- A line with text behind tabs comes to stand in the container that the tabs reach. -/
theorem BlockChain.Stands.next {chain : BlockChain} {before : OpenTail} {base : BlockFrame}
    {outer : List Frame} (h : chain.Stands before base outer) {tabs rest : Nat}
    (hctx : Context base.kind outer tabs rest) {line : List Char} {lead : Nat}
    (hline : StartsAfter lead line) (hclears : before.Clears (rest + lead)) :
    ∃ (entry : Entry) (fuel : Nat),
      chain.addIndented tabs [line] =
          (entry.openBlocks fuel 1 (before.leaf?.any (·.isParagraph))).addText ∧
        entry.Starts before base outer line rest ∧ line.length < fuel := by
  have hindented := indentLine_of_ne_nil hline.ne_nil tabs
  have hbehind := hctx.behind_indentLine rfl hline.ne_nil
  have hclears (cursor : Cursor) (hcursor : Cursor.Behind (line ++ ['\n']) cursor rest) :
      before.Clears cursor.indent := by
    obtain ⟨c, s, rfl, hspace, _⟩ := hline.exists_eq
    rw [hcursor.indent (List.append_assoc ..) (by simp [hspace])]
    exact hclears
  obtain ⟨entry, hat, hcursor, _, hadd⟩ :=
    h.addLine (hctx.isPlain rfl) hbehind hline.restIsBlank hclears
  rw [h.leaf] at hadd
  refine ⟨entry, _, hadd, ⟨hat, hcursor⟩, ?_⟩
  rw [hindented]
  simp
  omega

/-- After some lines the tail is open in the container of the context, behind older blocks. -/
def BlockChain.Ends (chain : BlockChain) (kind : ContainerKind) (outer : List Frame)
    (older : List ClosedBlock) (tail : OpenTail) : Prop :=
  ∃ base : BlockFrame, chain.Stands tail base outer ∧ base.kind = kind ∧ base.blankEnd = false ∧
    base.children.map ClosedBlock.unplaced = older ∧ tail.Lively base

/-- What a tail is to a line after it, which an empty line may precede. -/
structure OpenTail.Precedes (tail : OpenTail) (older : List ClosedBlock) (spaced : Bool)
    (before : OpenTail) (base : BlockFrame) : Prop where
  marker : before.marker? = tail.marker?
  leaf : spaced = true → ∀ leaf, before.leaf? = some leaf → leaf.isParagraph = false
  paragraph : before.isParagraph = true → spaced = false ∧ tail.isParagraph = true
  done : before.doneIn base =
    if spaced then spacedNewest (tail.result.toList ++ older) else tail.result.toList ++ older
  items : before.itemsDone =
    if spaced then spacedNewestItem tail.itemsDone else tail.itemsDone
  children : tail.marker?.isSome = true → base.children.map ClosedBlock.unplaced = older

theorem BlockChain.Ends.next {chain : BlockChain} {kind : ContainerKind} {outer : List Frame}
    {older : List ClosedBlock} {tail : OpenTail} (h : chain.Ends kind outer older tail)
    {tabs rest : Nat} (hctx : Context kind outer tabs rest) (spaced : Bool) {line : List Char}
    {lead : Nat} (hline : StartsAfter lead line)
    (hclears : tail.Clears (rest + lead) ∨ spaced = true ∧ tail.IsHollow) :
    ∃ (entry : Entry) (before : OpenTail) (base : BlockFrame) (fuel : Nat),
      chain.addIndented tabs ((if spaced then [[]] else []) ++ [line]) =
          (entry.openBlocks fuel 1 (before.leaf?.any (·.isParagraph))).addText ∧
        entry.Starts before base outer line rest ∧ line.length < fuel ∧ base.kind = kind ∧
        tail.Precedes older spaced before base := by
  obtain ⟨base, hstands, rfl, _, rfl, hlively⟩ := h
  cases spaced with
  | false =>
    have hclears : tail.Clears (rest + lead) := by simpa using hclears
    obtain ⟨entry, fuel, hadd, hstarts, hfuel⟩ := hstands.next hctx hline hclears
    exact ⟨entry, tail, base, fuel, hadd, hstarts, hfuel, rfl,
      ⟨rfl, by simp, fun hp => ⟨rfl, hp⟩, rfl, rfl, fun _ => rfl⟩⟩
  | true =>
    obtain ⟨rested, spaced, hrested, hinto⟩ := hstands.addLine_blank hlively (hctx.isPlain rfl)
    rw [hctx.calm] at hrested
    have hclears : rested.Clears (rest + lead) := hinto.clears _ (by simpa using hclears)
    obtain ⟨entry, fuel, hadd, hstarts, hfuel⟩ :=
      hrested.next (hinto.kind ▸ hctx) hline hclears
    refine ⟨entry, rested, spaced, fuel, hadd, hstarts, hfuel, hinto.kind,
      ⟨hinto.marker, fun _ => hinto.leaf, ?_, hinto.done, hinto.items, ?_⟩⟩
    · intro hp
      rw [OpenTail.isParagraph_of_leaf? hinto.leaf] at hp
      simp at hp
    · intro hmarker
      rw [hinto.children hmarker]

end Markdown

end MarkdownOutline
