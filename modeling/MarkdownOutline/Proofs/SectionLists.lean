import MarkdownOutline.Outline.Session
import MarkdownOutline.Proofs.EmptyLists
import MarkdownOutline.Proofs.SectionRuns
import Mathlib.Algebra.Group.Nat.Defs

/-!
# Sections written as lists

A section that was turned into a list is read back as that list if its titles and the labels of its
lists read as paragraphs, and each list can stand on the line under its label. The converter puts
lists there without looking, so a list that starts with another number than 1 reads as a part of its
label.
-/

namespace MarkdownOutline

open Markdown

/-- The blocks under a heading with a title, after a number of lists, read back as items: the titles
and the labels of the lists read as paragraphs, each list can stand under its label, and no code is
indented. -/
def isListable (title : String) (lists : Nat) : List Block → Bool
  | [] => true
  | .heading h :: rest =>
    (Paragraph.ofText h.plainTitle).readsBack && isListable h.plainTitle 0 rest
  | .paragraph _ :: rest => isListable title lists rest
  | .list l :: rest =>
    (listLabel title (lists + 1)).readsBack && (Block.list l).interrupts &&
      (Block.list l).sits false 1 0 0 && isListable title (lists + 1) rest
  | .other m span :: rest => (Block.other m span).lead == 0 && isListable title lists rest

private theorem isListable_append {title : String} {lists : Nat} {first second : List Block}
    (h : isListable title lists (first ++ second) = true)
    (hsecond : ∀ block ∈ second.head?, block.heading?.isSome = true) (title' : String)
    (lists' : Nat) :
    isListable title lists first = true ∧ isListable title' lists' second = true := by
  induction first generalizing title lists with
  | nil =>
    refine ⟨rfl, ?_⟩
    cases second with
    | nil => rfl
    | cons block rest =>
      cases block with
      | heading g => exact h
      | _ => simp [Block.heading?] at hsecond
  | cons block first ih =>
    cases block with
    | heading g =>
      simp only [List.cons_append, isListable, Bool.and_eq_true] at h ⊢
      exact ⟨⟨h.1, (ih h.2).1⟩, (ih h.2).2⟩
    | paragraph p => exact ih h
    | list l =>
      simp only [List.cons_append, isListable, Bool.and_eq_true] at h ⊢
      exact ⟨⟨h.1, (ih h.2).1⟩, (ih h.2).2⟩
    | other m span =>
      simp only [List.cons_append, isListable, Bool.and_eq_true] at h ⊢
      exact ⟨⟨h.1, (ih h.2).1⟩, (ih h.2).2⟩

private theorem isThematicBreak_itemMarker {alternate : Bool} {number : Nat} (after : List Char) :
    isThematicBreak (itemMarker true alternate number ++ after) = false := by
  obtain ⟨c, s, hmarker, hc⟩ := itemMarker_eq_cons true alternate number
  have hdigit : c.isDigit = true := by simpa using hc
  have hne : ∀ d : Char, d.isDigit = false → c ≠ d := by
    rintro d hd rfl
    simp [hdigit] at hd
  simp [hmarker, isThematicBreak, hne _ (rfl : '*'.isDigit = false),
    hne _ (rfl : '_'.isDigit = false), hne _ (rfl : '-'.isDigit = false)]

private theorem length_itemMarker {number : Nat} (h : number < 10 ^ maxNumberLength)
    (alternate : Bool) : (itemMarker true alternate number).length ≤ maxNumberLength + 1 := by
  have hdigits : (Nat.toDigits 10 number).length ≤ maxNumberLength :=
    (Nat.length_toDigits_le_iff (by decide) (by decide)).mpr h
  cases alternate <;> simp [itemMarker, hdigits]

private theorem itemsSit_cons_numbered {alternate : Bool} {number rest : Nat}
    {children : List Block} {span : Option Span} {items : List Item}
    (hnumber : number < 10 ^ maxNumberLength) (hrest : rest ≤ 3)
    (hchildren : ∀ inner ≤ 3, blocksSit true .nothing false 2 0 inner children = true)
    (hitems : itemsSit true alternate true (number + 1) 1 rest rest items = true) :
    itemsSit true alternate true number 1 rest rest (.mk children span :: items) = true := by
  have hlength := length_itemMarker hnumber alternate
  have hbreak : isThematicBreak ((itemLines (itemMarker true alternate number)
      (blocksLines true .nothing children)).headD [] ++ ['\n']) = false := by
    cases blocksLines true .nothing children with
    | nil => exact isThematicBreak_itemMarker ['\n']
    | cons line lines =>
      have hline : (itemLines (itemMarker true alternate number) (line :: lines)).headD [] ++
          ['\n'] = itemMarker true alternate number ++ ' ' :: (line ++ ['\n']) := by
        simp [itemLines]
      rw [hline]
      exact isThematicBreak_itemMarker _
  have hinner := hchildren (rest - rest + 3 - (itemMarker true alternate number).length % 4)
    (by omega)
  simp only [itemsSit, Bool.and_eq_true, Bool.or_eq_true, Bool.not_eq_true', decide_eq_true_eq]
  exact ⟨⟨⟨⟨⟨hlength, by decide⟩, hbreak⟩, hinner⟩, .inr ⟨hrest, .inl (Nat.le_add_right ..)⟩⟩,
    hitems⟩

private theorem itemsSit_of_zero {ordered alternate tight : Bool} {number rest : Nat}
    {items : List Item} (hrest : rest ≤ 3)
    (h : itemsSit ordered alternate tight number 1 0 0 items = true) :
    itemsSit ordered alternate tight number 1 rest rest items = true := by
  induction items generalizing number with
  | nil => rfl
  | cons item items ih =>
    obtain ⟨children, span⟩ := item
    simp only [itemsSit, Bool.and_eq_true, Bool.or_eq_true, decide_eq_true_eq, Nat.sub_self] at h ⊢
    obtain ⟨⟨hown, _⟩, hitems⟩ := h
    exact ⟨⟨hown, .inr ⟨hrest, .inl (Nat.le_add_right ..)⟩⟩, ih hitems⟩

private theorem blocksSit_paragraph {p : Paragraph} (hp : p.readsBack = true) {rest : Nat}
    (hrest : rest ≤ 3) {blocks : List Block}
    (hblocks : blocksSit true .other true 1 rest rest blocks = true) :
    blocksSit true .nothing false 2 0 rest (.paragraph p :: blocks) = true := by
  have hlead : (Block.paragraph p).lead = 0 := rfl
  simp only [blocksSit, Bool.and_eq_true, Bool.or_eq_true, decide_eq_true_eq, Block.sits,
    Block.admits, hlead]
  exact ⟨⟨⟨hp, .inl (by simp)⟩, .inr ⟨hrest, by simp⟩⟩, hblocks⟩

private theorem blocksSit_list {list : ListBlock}
    (hinterrupts : (Block.list list).interrupts = true) {rest : Nat}
    (hsits : (Block.list list).sits false 1 rest rest = true) :
    blocksSit true .other true 1 rest rest [.list list] = true := by
  have hfirst : Preceding.other.alternates (.list list) = false := rfl
  simp [blocksSit, hinterrupts, hfirst, hsits, blocksLines]

def Item.IsLabelled (item : Item) : Prop :=
  ∃ p others, item.children = .paragraph p :: others ∧ p.readsBack = true

private theorem interrupts_numbered {item : Item} (h : item.IsLabelled) (items : List Item) :
    (Block.list (.numbered (itemsWithoutEmptyLists (item :: items)))).interrupts = true := by
  obtain ⟨children, span⟩ := item
  obtain ⟨p, others, rfl, hp⟩ := h
  have hlines := (Paragraph.lines_of_readsBack hp).1
  have hempty : (Block.paragraph p).isEmptyList = false := rfl
  have hsame : (Block.paragraph p).withoutEmptyLists = .paragraph p := rfl
  simp [itemsWithoutEmptyLists, blocksWithoutEmptyLists, hempty, hsame, ListBlock.numbered,
    Block.interrupts, blocksLines, Block.lines, hlines]

private theorem Block.sits_list_of_zero {list : ListBlock} {rest : Nat} (hrest : rest ≤ 3)
    (h : (Block.list list).sits false 1 0 0 = true) :
    (Block.list list).sits false 1 rest rest = true := by
  obtain ⟨ordered, start, tight, items, span⟩ := list
  simp only [Block.sits, Bool.and_eq_true] at h ⊢
  exact ⟨h.1, itemsSit_of_zero hrest h.2⟩

private theorem headingItem_sits {title : String}
    (htitle : (Paragraph.ofText title).readsBack = true) {inner : List Item}
    (hlabels : ∀ item ∈ inner, item.IsLabelled)
    (hsits : ∀ rest ≤ 3,
      itemsSit true false true 1 1 rest rest (itemsWithoutEmptyLists inner) = true)
    {rest : Nat} (hrest : rest ≤ 3) :
    blocksSit true .nothing false 2 0 rest
      (blocksWithoutEmptyLists [.paragraph (.ofText title), .list (.numbered inner)]) = true := by
  cases inner with
  | nil => exact blocksSit_paragraph htitle hrest rfl
  | cons item items =>
    have hlist : (Block.list (.numbered (itemsWithoutEmptyLists (item :: items)))).sits
        false 1 rest rest = true := by
      have hitems := hsits rest hrest
      obtain ⟨children, span⟩ := item
      simpa [Block.sits, ListBlock.numbered, itemsWithoutEmptyLists] using hitems
    exact blocksSit_paragraph htitle hrest
      (blocksSit_list (interrupts_numbered (hlabels item List.mem_cons_self) items) hlist)

/-- The parts of a section's list: its items are labelled and sit, and its tail stays out of it. -/
theorem flattenBlocks_sits (title : String) (lists : Nat) (blocks : List Block)
    (hlistable : isListable title lists blocks = true)
    (hparagraphs : ∀ p, .paragraph p ∈ blocks → p.readsBack = true) :
    (∀ item ∈ (flattenBlocks title lists blocks).1, item.IsLabelled) ∧
      ∀ {alternate : Bool} {number rest : Nat}, number + blocks.length ≤ 10 ^ maxNumberLength →
        rest ≤ 3 → itemsSit true alternate true number 1 rest rest
          (itemsWithoutEmptyLists (flattenBlocks title lists blocks).1) = true := by
  fun_induction flattenBlocks title lists blocks with
  | case1 => exact ⟨by simp, fun _ _ => rfl⟩
  | case2 title lists h rest inner innerTail hinner items tail hitems ihinner ihitems =>
    simp only [hinner] at ihinner
    simp only [hitems] at ihitems
    simp only [isListable, Bool.and_eq_true] at hlistable
    obtain ⟨htitle, hrest⟩ := hlistable
    have hsplit := List.takeWhile_append_dropWhile (p := Block.isBelow h.depth) (l := rest)
    rw [← hsplit] at hrest
    obtain ⟨hlistInner, hlistAfter⟩ :=
      isListable_append hrest (heading_of_mem_head?_dropWhile _) title lists
    obtain ⟨hlabels, hsits⟩ := ihinner hlistInner fun p hp =>
      hparagraphs p (List.mem_cons_of_mem _ ((List.takeWhile_sublist _).subset hp))
    obtain ⟨hlabelsAfter, hsitsAfter⟩ := ihitems hlistAfter fun p hp =>
      hparagraphs p (List.mem_cons_of_mem _ ((List.dropWhile_sublist _).subset hp))
    refine ⟨List.forall_mem_cons.mpr ⟨⟨_, _, rfl, htitle⟩, hlabelsAfter⟩, ?_⟩
    intro alternate number depth hnumber hdepth
    -- Each block makes one item at most, so the numbers stay below the bound on both sides.
    have htake := (List.takeWhile_sublist (Block.isBelow h.depth) (l := rest)).length_le
    have hdrop := (List.dropWhile_sublist (Block.isBelow h.depth) (l := rest)).length_le
    rw [List.length_cons] at hnumber
    rw [headingItem, itemsWithoutEmptyLists]
    exact itemsSit_cons_numbered (by omega) hdepth
      (fun indent hindent => headingItem_sits htitle hlabels
        (fun rest hrest => hsits (by omega) hrest) hindent)
      (hsitsAfter (by omega) hdepth)
  | case3 title lists p rest items tail hrest ih =>
    simp only [hrest] at ih
    obtain ⟨hlabels, hsits⟩ := ih hlistable fun q hq => hparagraphs q (List.mem_cons_of_mem _ hq)
    have hp := hparagraphs p List.mem_cons_self
    refine ⟨List.forall_mem_cons.mpr ⟨⟨_, _, rfl, hp⟩, hlabels⟩, ?_⟩
    intro alternate number depth hnumber hdepth
    rw [List.length_cons] at hnumber
    exact itemsSit_cons_numbered (by omega) hdepth
      (fun indent hindent => blocksSit_paragraph hp hindent rfl) (hsits (by omega) hdepth)
  | case4 title lists l rest items tail hrest ih =>
    simp only [hrest] at ih
    simp only [isListable, Bool.and_eq_true] at hlistable
    obtain ⟨⟨⟨hlabel, hinterrupts⟩, hlist⟩, hlistable⟩ := hlistable
    obtain ⟨hlabels, hsits⟩ := ih hlistable fun q hq => hparagraphs q (List.mem_cons_of_mem _ hq)
    refine ⟨List.forall_mem_cons.mpr ⟨⟨_, _, rfl, hlabel⟩, hlabels⟩, ?_⟩
    intro alternate number depth hnumber hdepth
    rw [List.length_cons] at hnumber
    refine itemsSit_cons_numbered (by omega) hdepth (fun indent hindent => ?_)
      (hsits (by omega) hdepth)
    have hchildren := blocksSit_paragraph hlabel hindent
      (blocksSit_list hinterrupts (Block.sits_list_of_zero hindent hlist))
    rw [blocksWithoutEmptyLists_of_blocksSit _ hchildren]
    exact hchildren
  | case5 title lists m span rest items tail hrest ih =>
    simp only [hrest] at ih
    simp only [isListable, Bool.and_eq_true] at hlistable
    obtain ⟨hlabels, hsits⟩ := ih hlistable.2 fun q hq =>
      hparagraphs q (List.mem_cons_of_mem _ hq)
    refine ⟨hlabels, fun {alternate number depth} hnumber hdepth => ?_⟩
    rw [List.length_cons] at hnumber
    exact hsits (by omega) hdepth

theorem mem_flattenBlocks_tail {title : String} {lists : Nat} {blocks : List Block}
    {block : Block} (h : block ∈ (flattenBlocks title lists blocks).2) :
    block ∈ blocks ∧ block.kind = .other := by
  rw [flattenBlocks_tail] at h
  simpa using List.mem_filter.mp h

theorem lead_of_isListable {title : String} {lists : Nat} {blocks : List Block}
    (h : isListable title lists blocks = true) {block : Block} (hblock : block ∈ blocks) :
    block.lead = 0 := by
  fun_induction isListable title lists blocks with
  | case1 => simp at hblock
  | case2 title lists g rest ih =>
    simp only [Bool.and_eq_true] at h
    rcases List.mem_cons.mp hblock with rfl | hblock
    · rfl
    · exact ih h.2 hblock
  | case3 title lists p rest ih =>
    rcases List.mem_cons.mp hblock with rfl | hblock
    · rfl
    · exact ih h hblock
  | case4 title lists l rest ih =>
    simp only [Bool.and_eq_true] at h
    rcases List.mem_cons.mp hblock with rfl | hblock
    · rfl
    · exact ih h.2 hblock
  | case5 title lists m span rest ih =>
    simp only [Bool.and_eq_true, beq_iff_eq] at h
    rcases List.mem_cons.mp hblock with rfl | hblock
    · exact h.1
    · exact ih h.2 hblock

end MarkdownOutline
