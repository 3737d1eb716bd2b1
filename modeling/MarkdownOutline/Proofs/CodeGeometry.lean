import MarkdownOutline.Proofs.CodeBlocks
import MarkdownOutline.Proofs.ListGeometry

/-!
# The geometry of written code

Where a document holds code, the columns that are left over around it stay in its lines, and the
four spaces in front of indented code reach into an item before it. A document of headings,
paragraphs, lists and code sits if neither happens and its other blocks fit.
-/

namespace MarkdownOutline

open Markdown Text

/-- The info string and the literal of the block, if it is a code block. -/
def Block.code? : Block → Option (String × String)
  | .other (.node (.codeBlock _ info literal) []) _ => some (info, literal)
  | _ => none

/-- The code keeps its literal where its first line is indented by `first` columns and its other
lines by `rest`: no column is left over in front of indented code, and one at most in front of a
fence and of all the lines behind it. -/
def codeSits (first rest : Nat) (info literal : String) : Bool :=
  let lines := lineContents literal.toList
  literal.toList == lines.flatMap (· ++ ['\n']) && lines.all (·.all isLineChar) &&
    info.toList.all isLineChar &&
    if isWrittenIndented info literal then first == 0 && (rest == 0 || lines.length == 1)
    else decide (rest ≤ 3) && (first == rest && decide (rest ≤ 1) || lines.all (·.isEmpty))

def Block.lead (block : Block) : Nat :=
  if block.code?.any fun (info, literal) => isWrittenIndented info literal then 4 else 0

def blocksLead (blocks : List Block) : Nat := (blocks.head?.map Block.lead).getD 0

theorem blocksLead_cases (blocks : List Block) : blocksLead blocks = 0 ∨ 4 ≤ blocksLead blocks := by
  cases blocks with
  | nil => exact .inl rfl
  | cons block blocks =>
    simp only [blocksLead, Block.lead, List.head?_cons, Option.map_some, Option.getD_some]
    split <;> simp

/-- A line that is indented by `reach` columns can follow the items, whose first line is indented by
`first` columns and the others by `rest`: it does not reach into the last of them, or that one is
empty and a blank line has ended it. -/
def itemsAdmit (ordered alternate tight : Bool) (number first rest reach : Nat) (spaced : Bool) :
    List Item → Bool
  | [] => true
  | [.mk children _] =>
    decide (reach ≤ first + (itemMarker ordered alternate number).length) ||
      spaced && (blocksLines tight .nothing children).isEmpty
  | _ :: items => itemsAdmit ordered alternate tight (number + 1) rest rest reach spaced items

/-- A line that is indented by `reach` columns can follow the block: it reaches into no item at the
end of the block, and is no more of its indented code. -/
def Block.admits (alternate : Bool) (first rest reach : Nat) (spaced : Bool) : Block → Bool
  | .list (.mk ordered start tight items _) =>
    itemsAdmit ordered alternate tight start first rest reach spaced items
  | block => block.lead == 0 || decide (reach ≤ 3)

mutual

/-- The block reads back where its first line is indented by `first` columns, its other lines by
`rest`, and `depth` blocks are open on its first line. -/
def Block.sits (alternate : Bool) (depth first rest : Nat) : Block → Bool
  | .heading h => h.readsBack
  | .paragraph p => p.readsBack
  | .list (.mk ordered start tight items _) =>
    !items.isEmpty && itemsSit ordered alternate tight start depth first rest items
  | .other m span =>
    (Block.other m span).code?.any fun (info, literal) => codeSits first rest info literal

/-- The items of a list read back: their numbers are short, their first lines are no thematic
breaks, and no line reaches into the item before it. -/
def itemsSit (ordered alternate tight : Bool) (number depth first rest : Nat) :
    List Item → Bool
  | [] => true
  | .mk children _ :: items =>
    let marker := itemMarker ordered alternate number
    let lines := blocksLines tight .nothing children
    decide (marker.length ≤ maxNumberLength + 1) && decide (depth < Entry.maxListNesting) &&
      !isThematicBreak ((itemLines marker lines).headD [] ++ ['\n']) &&
      blocksSit tight .nothing false (depth + 1) 0 (rest - first + 3 - marker.length % 4)
        children &&
      (items.isEmpty || decide (rest ≤ 3) &&
        (decide (rest ≤ first + marker.length) || !tight && lines.isEmpty)) &&
      itemsSit ordered alternate tight (number + 1) 1 rest rest items

/-- The blocks read back: each of them does, a list on the line after a paragraph is told from
it, and no line reaches into the block before it. -/
def blocksSit (tight : Bool) (preceding : Preceding) (afterParagraph : Bool)
    (depth first rest : Nat) : List Block → Bool
  | [] => true
  | block :: blocks =>
    let alternate := preceding.alternates block
    let following := Preceding.ofBlock alternate block
    let lines := blocksLines tight following blocks
    block.sits alternate depth first rest &&
      (!(tight && afterParagraph) || block.interrupts) &&
      (lines.isEmpty || decide (rest ≤ 3) &&
        block.admits alternate first rest (rest + blocksLead blocks) (lines.head? == some [])) &&
      blocksSit tight following block.isParagraph 1 rest rest blocks

end

def Document.sits (document : Document) : Bool := blocksSit false .nothing false 1 0 0 document

private theorem Block.lead_of_fits {alternate : Bool} {depth first rest : Nat} {block : Block}
    (h : block.fits alternate depth first rest = true) : block.lead = 0 := by
  cases block with
  | other m span => simp [fits] at h
  | _ => rfl

private theorem blocksLead_of_blocksFit {tight : Bool} {preceding : Preceding}
    {afterParagraph : Bool} {depth first rest : Nat} {blocks : List Block}
    (h : blocksFit tight preceding afterParagraph depth first rest blocks = true) :
    blocksLead blocks = 0 := by
  cases blocks with
  | nil => rfl
  | cons block blocks =>
    simp only [blocksFit, Bool.and_eq_true] at h
    exact Block.lead_of_fits h.1.1.1

theorem itemsAdmit_self (ordered alternate tight : Bool) (number rest : Nat) (spaced : Bool)
    (items : List Item) :
    itemsAdmit ordered alternate tight number rest rest rest spaced items = true := by
  induction items generalizing number with
  | nil => rfl
  | cons item items ih =>
    obtain ⟨children, span⟩ := item
    cases items with
    | nil => simp [itemsAdmit]
    | cons next items => exact ih (number + 1)

private theorem Block.admits_of_clears {alternate : Bool} {depth first rest : Nat} {block : Block}
    (h : block.fits alternate depth first rest = true) {spaced : Bool}
    (hclears : block.clears alternate first rest spaced = true) :
    block.admits alternate first rest rest spaced = true := by
  cases block with
  | list list =>
    obtain ⟨ordered, start, tight, items, span⟩ := list
    rcases items with _ | ⟨⟨children, itemSpan⟩, _ | ⟨next, items⟩⟩
    · rfl
    · exact hclears
    · exact itemsAdmit_self ordered alternate tight (start + 1) rest spaced (next :: items)
  | _ => simp [admits, lead_of_fits h]

mutual

private theorem Block.sits_of_fits (block : Block) {alternate : Bool} {depth first rest : Nat}
    (h : block.fits alternate depth first rest = true) :
    block.sits alternate depth first rest = true := by
  cases block with
  | heading heading => exact h
  | paragraph paragraph => exact h
  | list list =>
    obtain ⟨ordered, start, tight, items, span⟩ := list
    simp only [Block.fits, Bool.and_eq_true] at h
    simp only [Block.sits, h.1, itemsSit_of_itemsFit items h.2, Bool.and_self]
  | other m span => simp [Block.fits] at h

private theorem itemsSit_of_itemsFit (items : List Item) {ordered alternate tight : Bool}
    {number depth first rest : Nat}
    (h : itemsFit ordered alternate tight number depth first rest items = true) :
    itemsSit ordered alternate tight number depth first rest items = true := by
  cases items with
  | nil => rfl
  | cons item items =>
    obtain ⟨children, span⟩ := item
    simp only [itemsFit, Bool.and_eq_true] at h
    obtain ⟨⟨⟨hmarker, hchildren⟩, hroom⟩, hitems⟩ := h
    simp only [itemsSit, Bool.and_eq_true]
    exact ⟨⟨⟨hmarker, blocksSit_of_blocksFit children hchildren⟩, hroom⟩,
      itemsSit_of_itemsFit items hitems⟩

private theorem blocksSit_of_blocksFit (blocks : List Block) {tight : Bool} {preceding : Preceding}
    {afterParagraph : Bool} {depth first rest : Nat}
    (h : blocksFit tight preceding afterParagraph depth first rest blocks = true) :
    blocksSit tight preceding afterParagraph depth first rest blocks = true := by
  cases blocks with
  | nil => rfl
  | cons block blocks =>
    simp only [blocksFit, Bool.and_eq_true] at h
    obtain ⟨⟨⟨hblock, hinterrupts⟩, hroom⟩, hblocks⟩ := h
    simp only [blocksSit, Bool.and_eq_true]
    refine ⟨⟨⟨block.sits_of_fits hblock, hinterrupts⟩, ?_⟩, blocksSit_of_blocksFit blocks hblocks⟩
    rw [blocksLead_of_blocksFit hblocks, Nat.add_zero]
    simp only [Bool.or_eq_true, Bool.and_eq_true] at hroom ⊢
    exact hroom.imp_right (And.imp_right (Block.admits_of_clears hblock))

end

/-- A document of headings, paragraphs and lists that fits sits. -/
theorem Document.sits_of_fits {document : Document} (h : document.fits = true) :
    document.sits = true := blocksSit_of_blocksFit document h

theorem isCodeText_of_codeSits {first rest : Nat} {info literal : String}
    (h : codeSits first rest info literal = true) :
    IsCodeText info literal (lineContents literal.toList) := by
  simp only [codeSits, Bool.and_eq_true, beq_iff_eq, List.all_eq_true] at h
  obtain ⟨⟨⟨hliteral, hchars⟩, hinfo⟩, _⟩ := h
  exact ⟨hliteral, hchars, hinfo⟩

private theorem IsCodeText.clean_indented {info literal : String} {lines : List (List Char)}
    (h : IsCodeText info literal lines) (hwritten : isWrittenIndented info literal = true) :
    Clean (lines.map ("    ".toList ++ ·)) ∧
      StartsWithText 4 (lines.map ("    ".toList ++ ·)) := by
  obtain ⟨c, s, others, rfl, hc⟩ := h.indented_head hwritten
  refine ⟨⟨?_, ?_⟩, ?_⟩
  · intro line hline d hd
    obtain ⟨own, hown, rfl⟩ := List.mem_map.mp hline
    rcases List.mem_append.mp hd with hd | hd
    · rw [List.eq_of_mem_replicate (show d ∈ List.replicate 4 ' ' from hd)]
      decide
    · exact h.chars own hown d hd
  · intro hlast
    obtain ⟨own, _, hown⟩ := List.mem_map.mp (List.mem_of_getLast? hlast)
    simp at hown
  · intro line hline
    obtain rfl := Option.some.inj hline
    exact ⟨⟨c :: s, rfl, by simp [hc]⟩, by simp⟩

private theorem IsCodeText.clean_fenced {info literal : String} {lines : List (List Char)}
    (h : IsCodeText info literal lines) {mark : Char} (hmark : mark = '~' ∨ mark = '\x60')
    {count : Nat} (hcount : 3 ≤ count) :
    Clean ((List.replicate count mark ++ if info = "" then [] else ' ' :: info.toList) :: lines ++
        [List.replicate count mark]) ∧
      StartsWithText 0 ((List.replicate count mark ++
        if info = "" then [] else ' ' :: info.toList) :: lines ++ [List.replicate count mark]) := by
  have hmarks : ∀ d ∈ List.replicate count mark, isLineChar d = true := by
    intro d hd
    rw [List.eq_of_mem_replicate hd]
    rcases hmark with rfl | rfl <;> decide
  refine ⟨⟨?_, ?_⟩, ?_⟩
  · intro line hline d hd
    rcases List.mem_append.mp hline with hline | hline
    · rcases List.mem_cons.mp hline with rfl | hline
      · rcases List.mem_append.mp hd with hd | hd
        · exact hmarks d hd
        · split at hd
          · simp at hd
          · rcases List.mem_cons.mp hd with rfl | hd
            · decide
            · exact h.info d hd
      · exact h.chars line hline d hd
    · obtain rfl : line = List.replicate count mark := by simpa using hline
      exact hmarks d hd
  · have hpos : count ≠ 0 := by omega
    rw [List.getLast?_append]
    simp [hpos]
  · intro line hline
    obtain rfl := Option.some.inj hline
    obtain ⟨n, rfl⟩ : ∃ n, count = n + 1 := ⟨count - 1, by omega⟩
    refine .of_isStartChar ?_
    rcases hmark with rfl | rfl <;> rfl

theorem codeLines_of_codeSits {first rest : Nat} {info literal : String}
    (h : codeSits first rest info literal = true) (fenced : Bool) :
    textLines (markupText (.leaf (.codeBlock fenced info literal))) ≠ [] ∧
      Clean (textLines (markupText (.leaf (.codeBlock fenced info literal)))) ∧
      StartsWithText (if isWrittenIndented info literal then 4 else 0)
        (textLines (markupText (.leaf (.codeBlock fenced info literal)))) := by
  have hcode := isCodeText_of_codeSits h
  by_cases hwritten : isWrittenIndented info literal = true
  · obtain ⟨c, s, others, hlines, _⟩ := hcode.indented_head hwritten
    rw [hcode.textLines_indented hwritten, if_pos hwritten]
    exact ⟨by simp [hlines], hcode.clean_indented hwritten⟩
  · rw [Bool.not_eq_true] at hwritten
    obtain ⟨mark, count, hcount, hmark, _, hlines⟩ :=
      hcode.exists_textLines_fenced hwritten fenced
    rw [hlines, hwritten]
    exact ⟨by simp, hcode.clean_fenced (hmark.imp_right And.left) hcount⟩

theorem Block.sits_other {alternate : Bool} {depth first rest : Nat} {m : Markup}
    {span : Option Span} (h : (Block.other m span).sits alternate depth first rest = true) :
    ∃ fenced info literal, m = .leaf (.codeBlock fenced info literal) ∧
      codeSits first rest info literal = true := by
  rw [sits] at h
  cases hcode : (Block.other m span).code? with
  | none => simp [hcode] at h
  | some code =>
    obtain ⟨info, literal⟩ := code
    rw [hcode] at h
    unfold code? at hcode
    split at hcode
    next fenced info' literal' span' heq =>
      obtain ⟨rfl, rfl⟩ := Prod.mk.inj (Option.some.inj hcode)
      obtain ⟨rfl, rfl⟩ := Block.other.inj heq
      exact ⟨fenced, info', literal', rfl, h⟩
    next => simp at hcode

theorem Block.lines_ne_nil_of_sits {alternate : Bool} {depth first rest : Nat} (block : Block)
    (h : block.sits alternate depth first rest = true) : block.lines alternate ≠ [] := by
  cases block with
  | heading heading => simp [Block.lines, (Heading.lines_of_readsBack h).1]
  | paragraph paragraph => exact (Paragraph.lines_of_readsBack h).1
  | list list =>
    obtain ⟨ordered, start, tight, items, span⟩ := list
    simp only [Block.sits, Bool.and_eq_true, Bool.not_eq_true', List.isEmpty_eq_false_iff] at h
    exact itemsLines_ne_nil _ _ _ _ h.1
  | other m span =>
    obtain ⟨fenced, info, literal, rfl, hcode⟩ := Block.sits_other h
    exact (codeLines_of_codeSits hcode fenced).1

private theorem blockSeparator_append_joinLines (preceding : Preceding) (tight : Bool)
    (block : Block) {lines : List (List Char)} (hne : lines ≠ []) :
    blockSeparator preceding tight block ++ joinLines lines =
      (if preceding = .nothing then [] else ['\n']) ++
        joinLines (separatorLines preceding tight block ++ lines) := by
  by_cases hnothing : preceding = .nothing
  · simp [blockSeparator, separatorLines, hnothing]
  · by_cases hlist : (tight && block.list?.isSome) = true
    · simp [blockSeparator, separatorLines, hnothing, hlist]
    · have hseparator : separatorLines preceding tight block = [[]] := by
        simp [separatorLines, hnothing, hlist]
      rw [hseparator, List.singleton_append, joinLines_cons hne]
      simp [blockSeparator, hnothing, hlist]

private theorem Clean.separatorLines_append {lines : List (List Char)} (h : Clean lines)
    (hne : lines ≠ []) (preceding : Preceding) (tight : Bool) (block : Block) :
    Clean (separatorLines preceding tight block ++ lines) := by
  unfold separatorLines
  split
  · exact h
  · exact h.cons_nil hne

mutual

/-- A block that sits is written as its lines. -/
theorem Block.writeBlock_of_sits {alternate : Bool} {depth first rest : Nat} (block : Block)
    (h : block.sits alternate depth first rest = true) :
    writeBlock alternate block = joinLines (block.lines alternate) ∧
      Clean (block.lines alternate) ∧ StartsWithText block.lead (block.lines alternate) := by
  cases block with
  | heading heading =>
    obtain ⟨hlines, hclean, hstart⟩ := Heading.lines_of_readsBack h
    rw [Block.lines, joinLines_textLines, hlines]
    exact ⟨rfl, hclean, hstart⟩
  | paragraph paragraph =>
    obtain ⟨_, hclean, hstart⟩ := Paragraph.lines_of_readsBack h
    rw [Block.lines, joinLines_textLines]
    exact ⟨rfl, hclean, hstart⟩
  | list list =>
    obtain ⟨ordered, start, tight, items, span⟩ := list
    simp only [Block.sits, Bool.and_eq_true] at h
    exact writeItems_of_itemsSit items h.2
  | other m span =>
    obtain ⟨fenced, info, literal, rfl, hcode⟩ := Block.sits_other h
    obtain ⟨_, hclean, hstart⟩ := codeLines_of_codeSits hcode fenced
    rw [Block.lines, joinLines_textLines]
    exact ⟨rfl, hclean, hstart⟩

theorem writeItems_of_itemsSit {ordered alternate tight : Bool} {number depth first rest : Nat}
    (items : List Item)
    (h : itemsSit ordered alternate tight number depth first rest items = true) :
    writeItems ordered alternate tight number items =
        joinLines (itemsLines ordered alternate tight number items) ∧
      Clean (itemsLines ordered alternate tight number items) ∧
      StartsWithText 0 (itemsLines ordered alternate tight number items) := by
  cases items with
  | nil => exact ⟨rfl, clean_nil, by simp [itemsLines, StartsWithText]⟩
  | cons item items =>
    obtain ⟨children, span⟩ := item
    simp only [itemsSit, Bool.and_eq_true] at h
    obtain ⟨⟨⟨_, hchildren⟩, _⟩, hitems⟩ := h
    obtain ⟨hwritten, hclean, _⟩ := writeBlocks_of_blocksSit children hchildren
    simp only [decide_true, Bool.true_or, if_true, List.nil_append] at hwritten
    have hitem := writeItem_joinLines (itemMarker ordered alternate number) hclean
    have hitemClean := itemLines_clean ordered alternate number hclean
    have hstart := itemLines_startsWithText ordered alternate number
      (blocksLines tight .nothing children)
    have hne := itemLines_ne_nil (itemMarker ordered alternate number)
      (blocksLines tight .nothing children)
    cases items with
    | nil =>
      simp only [writeItems, itemsLines, hwritten]
      exact ⟨hitem, hitemClean, hstart⟩
    | cons next items =>
      obtain ⟨hrest, hrestClean, _⟩ := writeItems_of_itemsSit (next :: items) hitems
      have hrestNe := itemsLines_ne_nil ordered alternate tight (number + 1)
        (List.cons_ne_nil next items)
      cases tight with
      | true =>
        simp only [writeItems, itemsLines, hwritten, hitem, hrest, if_true, List.append_nil]
        refine ⟨?_, hitemClean.append hrestClean, hstart.append hne⟩
        rw [joinLines_append hne hrestNe, List.append_assoc]
        rfl
      | false =>
        simp only [writeItems, itemsLines, hwritten, hitem, hrest, Bool.false_eq_true, if_false]
        refine ⟨?_, ?_, ?_⟩
        · rw [joinLines_separated hne hrestNe]
        · rw [List.append_assoc]
          exact hitemClean.append (hrestClean.cons_nil hrestNe)
        · rw [List.append_assoc]
          exact hstart.append hne

theorem writeBlocks_of_blocksSit {tight : Bool} {preceding : Preceding} {afterParagraph : Bool}
    {depth first rest : Nat} (blocks : List Block)
    (h : blocksSit tight preceding afterParagraph depth first rest blocks = true) :
    writeBlocks tight preceding blocks =
        (if preceding = .nothing || (blocksLines tight preceding blocks).isEmpty then []
          else ['\n']) ++ joinLines (blocksLines tight preceding blocks) ∧
      Clean (blocksLines tight preceding blocks) ∧
      (preceding = .nothing →
        StartsWithText (blocksLead blocks) (blocksLines tight preceding blocks)) := by
  cases blocks with
  | nil => simp [writeBlocks, blocksLines, joinLines, StartsWithText, clean_nil]
  | cons block blocks =>
    simp only [blocksSit, Bool.and_eq_true] at h
    obtain ⟨⟨⟨hblock, _⟩, _⟩, hblocks⟩ := h
    cases hlines : block.lines (preceding.alternates block) with
    | nil => exact absurd hlines (block.lines_ne_nil_of_sits hblock)
    | cons line lines =>
      obtain ⟨htext, hclean, hstart⟩ := block.writeBlock_of_sits hblock
      obtain ⟨hrest, hrestClean, _⟩ := writeBlocks_of_blocksSit blocks hblocks
      rw [hlines] at htext hclean hstart
      have hfollowing : Preceding.ofBlock (preceding.alternates block) block ≠ .nothing := by
        cases block <;> simp [Preceding.ofBlock]
      have htextNe := joinLines_ne_nil hstart (by simp)
      have hbody : joinLines (line :: lines) ++
          writeBlocks tight (.ofBlock (preceding.alternates block) block) blocks =
          joinLines (line :: lines ++
            blocksLines tight (.ofBlock (preceding.alternates block) block) blocks) := by
        rw [hrest]
        cases hempty : blocksLines tight (.ofBlock (preceding.alternates block) block) blocks with
        | nil => simp [joinLines]
        | cons next others =>
          rw [joinLines_append (by simp) (by simp)]
          simp [hfollowing]
      simp only [writeBlocks, blocksLines, htext, hlines, List.isEmpty_cons, Bool.false_eq_true,
        if_false, List.isEmpty_iff, htextNe, List.append_assoc]
      rw [hbody, blockSeparator_append_joinLines _ _ _ (by simp)]
      refine ⟨by simp, (hclean.append hrestClean).separatorLines_append (by simp) .., ?_⟩
      rintro rfl
      exact hstart.append (by simp)

end

end MarkdownOutline
