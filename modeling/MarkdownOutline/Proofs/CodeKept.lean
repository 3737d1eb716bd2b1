import MarkdownOutline.Proofs.StructureKept

/-!
# Code is kept

A place in a document is given by the items on the way to it and the index of a block. In the text
of a document that sits, the code blocks stand at the same places with the same literals. Behind a
bullet the tab in front of a line of code reaches two columns further than the item, and what a
fence cannot take off stays in the literal.
-/

namespace MarkdownOutline

open Markdown

def Block.literal? (block : Block) : Option String := block.code?.map (·.2)

def Block.itemBlocks? (block : Block) (item : Nat) : Option (List Block) :=
  block.list?.bind fun list => list.items[item]?.map Item.children

/-- The literal of the code block at a place: behind the items on the way, each with the index of
its list and its own, and at an index. -/
def blocksCodeAt? : List (Nat × Nat) → Nat → List Block → Option String
  | [], index, blocks => blocks[index]?.bind Block.literal?
  | (list, item) :: path, index, blocks =>
    (blocks[list]?.bind (·.itemBlocks? item)).bind (blocksCodeAt? path index)

def Document.codeAt? (document : Document) (path : List (Nat × Nat)) (index : Nat) :
    Option String := blocksCodeAt? path index document

namespace Markdown

def Draft.literal? : Draft → Option String
  | .leaf (.code _ _ literal) _ => some (String.ofList literal)
  | _ => none

def Draft.itemDrafts? : Draft → Nat → Option (List Draft)
  | .list _ _ items _, item => items[item]?.map DraftItem.children
  | _, _ => none

def draftsCodeAt? : List (Nat × Nat) → Nat → List Draft → Option String
  | [], index, drafts => drafts[index]?.bind Draft.literal?
  | (list, item) :: path, index, drafts =>
    (drafts[list]?.bind (·.itemDrafts? item)).bind (draftsCodeAt? path index)

theorem Draft.literal?_unplaced (draft : Draft) : draft.unplaced.literal? = draft.literal? := by
  cases draft with
  | leaf leaf span => cases leaf <;> rfl
  | _ => rfl

theorem Draft.itemDrafts?_unplaced (draft : Draft) (item : Nat) :
    draft.unplaced.itemDrafts? item = (draft.itemDrafts? item).map (·.map Draft.unplaced) := by
  cases draft with
  | leaf leaf span => rfl
  | quote children span => rfl
  | list marker tight items span =>
    simp only [Draft.unplaced, itemDrafts?, itemsUnplaced_eq_map, List.getElem?_map, Option.map_map]
    congr 1
    funext i
    obtain ⟨children, span⟩ := i
    simp [DraftItem.unplaced, DraftItem.children]

theorem draftsCodeAt?_unplaced (path : List (Nat × Nat)) (index : Nat) (drafts : List Draft) :
    draftsCodeAt? path index (drafts.map Draft.unplaced) = draftsCodeAt? path index drafts := by
  induction path generalizing drafts with
  | nil =>
    simp only [draftsCodeAt?, List.getElem?_map, Option.bind_map]
    congr 1
    funext draft
    exact draft.literal?_unplaced
  | cons step path ih =>
    obtain ⟨list, item⟩ := step
    simp only [draftsCodeAt?, List.getElem?_map]
    cases drafts[list]? with
    | none => rfl
    | some draft =>
      simp only [Option.map_some, Option.bind_some, draft.itemDrafts?_unplaced, Option.bind_map]
      congr 1
      funext children
      exact ih children

theorem Draft.literal?_toBlock (draft : Draft) (references : References) :
    (draft.toBlock.run references).1.literal? = draft.literal? := by
  cases draft with
  | leaf leaf span =>
    cases leaf with
    | table columns rows => cases rows <;> rfl
    | _ => rfl
  | quote children span => rfl
  | list marker tight items span => rfl

private theorem exists_getElem?_itemsBlocks (items : List DraftItem) (references : References)
    (index : Nat) :
    ∃ own : References, (((itemsBlocks items).run references).1)[index]? =
      items[index]?.map fun item => (item.toItem.run own).1 := by
  induction items generalizing references index with
  | nil => exact ⟨references, rfl⟩
  | cons item items ih =>
    cases index with
    | zero => exact ⟨references, rfl⟩
    | succ index => exact ih _ index

private theorem exists_getElem?_draftsBlocks (drafts : List Draft) (references : References)
    (index : Nat) :
    ∃ own : References, (((draftsBlocks drafts).run references).1)[index]? =
      drafts[index]?.map fun draft => (draft.toBlock.run own).1 := by
  induction drafts generalizing references index with
  | nil => exact ⟨references, rfl⟩
  | cons draft drafts ih =>
    cases index with
    | zero => exact ⟨references, rfl⟩
    | succ index => exact ih _ index

theorem Draft.exists_itemBlocks?_toBlock (draft : Draft) (references : References) (item : Nat) :
    ∃ own : References, (draft.toBlock.run references).1.itemBlocks? item =
      (draft.itemDrafts? item).map fun drafts => ((draftsBlocks drafts).run own).1 := by
  cases draft with
  | leaf leaf span => cases leaf <;> exact ⟨references, rfl⟩
  | quote children span => exact ⟨references, rfl⟩
  | list marker tight items span =>
    obtain ⟨own, hitem⟩ := exists_getElem?_itemsBlocks items references item
    refine ⟨own, ?_⟩
    show (((itemsBlocks items).run references).1)[item]?.map Item.children = _
    rw [hitem, Option.map_map, itemDrafts?, Option.map_map]
    congr 1
    funext i
    cases i
    rfl

theorem blocksCodeAt?_draftsBlocks (path : List (Nat × Nat)) (index : Nat) (drafts : List Draft)
    (references : References) :
    blocksCodeAt? path index ((draftsBlocks drafts).run references).1 =
      draftsCodeAt? path index drafts := by
  induction path generalizing drafts references with
  | nil =>
    obtain ⟨own, hblock⟩ := exists_getElem?_draftsBlocks drafts references index
    rw [blocksCodeAt?, hblock, draftsCodeAt?, Option.bind_map]
    congr 1
    funext draft
    exact draft.literal?_toBlock own
  | cons step path ih =>
    obtain ⟨list, item⟩ := step
    obtain ⟨own, hblock⟩ := exists_getElem?_draftsBlocks drafts references list
    rw [blocksCodeAt?, hblock, draftsCodeAt?]
    cases drafts[list]? with
    | none => rfl
    | some draft =>
      obtain ⟨own', hitem⟩ := draft.exists_itemBlocks?_toBlock own item
      simp only [Option.map_some, Option.bind_some, hitem, Option.bind_map]
      congr 1
      funext children
      exact ih children own'

end Markdown

theorem Block.literal?_reading {block : Block} {alternate : Bool} {depth first rest : Nat}
    (h : block.sits alternate depth first rest = true) :
    (block.reading alternate).draft.literal? = block.literal? := by
  cases block with
  | heading heading =>
    obtain ⟨text, htext⟩ := Heading.exists_reading_eq h
    simp only [Block.reading, htext]
    rfl
  | paragraph paragraph => rfl
  | list list => cases list; rfl
  | other m span =>
    obtain ⟨fenced, info, literal, rfl, _⟩ := Block.sits_other h
    have hliteral : String.ofList literal.toList = literal := String.ofList_toList
    rw [Block.reading_code, codeReading]
    split <;> exact congrArg some hliteral

private theorem getElem?_itemsDrafts (tight : Bool) (items : List Item) (index : Nat) :
    (itemsDrafts tight items)[index]? =
      items[index]?.map fun item => .mk (blocksDrafts tight .nothing item.children) ⟨0, 0⟩ := by
  induction items generalizing index with
  | nil => rfl
  | cons item items ih =>
    obtain ⟨children, span⟩ := item
    rw [itemsDrafts_cons]
    cases index with
    | zero => rfl
    | succ index => exact ih index

private theorem children_sit {ordered alternate tight : Bool} {number depth first rest : Nat}
    {items : List Item}
    (h : itemsSit ordered alternate tight number depth first rest items = true) {item : Item}
    (hitem : item ∈ items) :
    ∃ depth first rest, blocksSit tight .nothing false depth first rest item.children = true := by
  induction items generalizing number depth first with
  | nil => simp at hitem
  | cons next items ih =>
    obtain ⟨children, span⟩ := next
    simp only [itemsSit, Bool.and_eq_true] at h
    obtain ⟨⟨⟨_, hchildren⟩, _⟩, hitems⟩ := h
    rcases List.mem_cons.mp hitem with rfl | hitem
    · exact ⟨_, _, _, hchildren⟩
    · exact ih hitems hitem

theorem Block.exists_itemDrafts?_reading {block : Block} {alternate : Bool} {depth first rest : Nat}
    (h : block.sits alternate depth first rest = true) (item : Nat) :
    ∃ tight, (block.reading alternate).draft.itemDrafts? item =
        (block.itemBlocks? item).map (blocksDrafts tight .nothing) ∧
      ∀ children, block.itemBlocks? item = some children →
        ∃ depth first rest, blocksSit tight .nothing false depth first rest children = true := by
  cases block with
  | heading heading =>
    obtain ⟨text, htext⟩ := Heading.exists_reading_eq h
    refine ⟨true, ?_, by simp [itemBlocks?, Block.list?]⟩
    simp only [Block.reading, htext]
    rfl
  | paragraph paragraph => exact ⟨true, rfl, by simp [itemBlocks?, Block.list?]⟩
  | list list =>
    obtain ⟨ordered, start, tight, items, span⟩ := list
    simp only [Block.sits, Bool.and_eq_true] at h
    refine ⟨tight, ?_, ?_⟩
    · rw [Block.reading_list, Draft.itemDrafts?, getElem?_itemsDrafts, Option.map_map]
      show _ = (items[item]?.map Item.children).map _
      rw [Option.map_map]
      rfl
    · intro children hchildren
      obtain ⟨found, hfound, rfl⟩ := Option.map_eq_some_iff.mp hchildren
      exact children_sit h.2 (List.mem_of_getElem? hfound)
  | other m span => exact ⟨true, rfl, by simp [itemBlocks?, Block.list?]⟩

private theorem exists_getElem?_blocksDrafts {tight : Bool} {preceding : Preceding}
    {afterParagraph : Bool} {depth first rest : Nat} {blocks : List Block}
    (h : blocksSit tight preceding afterParagraph depth first rest blocks = true) (index : Nat) :
    ∃ alternate, (blocksDrafts tight preceding blocks)[index]? =
        blocks[index]?.map (fun block => (block.reading alternate).draft) ∧
      ∀ block, blocks[index]? = some block →
        ∃ depth first, block.sits alternate depth first rest = true := by
  induction blocks generalizing preceding afterParagraph depth first index with
  | nil => exact ⟨true, rfl, by simp⟩
  | cons block blocks ih =>
    simp only [blocksSit, Bool.and_eq_true] at h
    obtain ⟨⟨⟨hblock, _⟩, _⟩, hblocks⟩ := h
    rw [blocksDrafts_cons]
    cases index with
    | zero => exact ⟨_, rfl, fun found hfound => Option.some.inj hfound ▸ ⟨_, _, hblock⟩⟩
    | succ index => exact ih hblocks index

theorem draftsCodeAt?_blocksDrafts (path : List (Nat × Nat)) (index : Nat) {tight : Bool}
    {preceding : Preceding} {afterParagraph : Bool} {depth first rest : Nat} {blocks : List Block}
    (h : blocksSit tight preceding afterParagraph depth first rest blocks = true) :
    draftsCodeAt? path index (blocksDrafts tight preceding blocks) =
      blocksCodeAt? path index blocks := by
  induction path generalizing tight preceding afterParagraph depth first rest blocks with
  | nil =>
    obtain ⟨alternate, hdraft, hsits⟩ := exists_getElem?_blocksDrafts h index
    rw [draftsCodeAt?, hdraft, blocksCodeAt?]
    cases hblock : blocks[index]? with
    | none => rfl
    | some block =>
      obtain ⟨_, _, hsits⟩ := hsits block hblock
      exact Block.literal?_reading hsits
  | cons step path ih =>
    obtain ⟨list, item⟩ := step
    obtain ⟨alternate, hdraft, hsits⟩ := exists_getElem?_blocksDrafts h list
    rw [draftsCodeAt?, hdraft, blocksCodeAt?]
    cases hblock : blocks[list]? with
    | none => rfl
    | some block =>
      obtain ⟨_, _, hsits⟩ := hsits block hblock
      obtain ⟨tight', hitem, hchildren⟩ := Block.exists_itemDrafts?_reading hsits item
      simp only [Option.map_some, Option.bind_some, hitem]
      cases hfound : block.itemBlocks? item with
      | none => rfl
      | some children =>
        obtain ⟨_, _, _, hsits⟩ := hchildren children hfound
        exact ih hsits

/-- The text of a document that sits has the code of the document, each block at its place. -/
theorem Document.code_ofMarkdown_toMarkdown (document : Document) (h : document.sits = true)
    (path : List (Nat × Nat)) (index : Nat) :
    (ofMarkdown document.toMarkdown).codeAt? path index = document.codeAt? path index := by
  have hread := (read_toMarkdown h).1
  have hdrafts : draftsCodeAt? path index document.reading = document.codeAt? path index :=
    draftsCodeAt?_blocksDrafts path index h
  rw [← hdrafts, ← hread, draftsCodeAt?_unplaced]
  exact blocksCodeAt?_draftsBlocks path index _ _

theorem Document.code_ofMarkdown_toMarkdown_nested :
    (ofMarkdown "~~~\nf x\n~~~\n\n1. p\n\n   ~~~rust\n   f x\n   ~~~\n").sits = true ∧
      (ofMarkdown (ofMarkdown
        "~~~\nf x\n~~~\n\n1. p\n\n   ~~~rust\n   f x\n   ~~~\n").toMarkdown).codeAt?
        [(1, 0)] 1 = some "f x\n" :=
  have h : (ofMarkdown "~~~\nf x\n~~~\n\n1. p\n\n   ~~~rust\n   f x\n   ~~~\n").sits = true := by
    decide +kernel
  ⟨h, (code_ofMarkdown_toMarkdown _ h [(1, 0)] 1).trans (by decide +kernel)⟩

/-- Behind a bullet a line of fenced code is written two columns too far to the right, and the fence
takes one of them off. -/
theorem Document.code_ofMarkdown_toMarkdown_ne :
    (ofMarkdown "- p\n\n  \x60\x60\x60rust\n  f x\n  \x60\x60\x60\n").codeAt? [(0, 0)] 1 =
        some "f x\n" ∧
      (ofMarkdown (ofMarkdown
        "- p\n\n  \x60\x60\x60rust\n  f x\n  \x60\x60\x60\n").toMarkdown).codeAt? [(0, 0)] 1 =
        some " f x\n" := by decide +kernel

end MarkdownOutline
