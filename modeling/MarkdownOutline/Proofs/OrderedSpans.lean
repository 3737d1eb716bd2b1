import MarkdownOutline.Proofs.Depths
import MarkdownOutline.Proofs.SectionRuns
import Mathlib.Data.List.Flatten

/-!
# The order of spans

The blocks of a document that was read follow one another in its lines, and what stands inside a
list stands in the lines of the list. Changes keep this: blocks that are made have no lines,
sections keep the order of the blocks that they leave behind, and the blocks of a list that is
lifted take the place of the list. So a line never belongs to two blocks, however many changes have
been made.
-/

namespace MarkdownOutline

mutual

def Block.within : Block → List Block
  | .list l => .list l :: l.within
  | block => [block]

def ListBlock.within : ListBlock → List Block
  | .mk _ _ _ items _ => itemsWithin items

def itemsWithin : List Item → List Block
  | [] => []
  | .mk children _ :: rest => blocksWithin children ++ itemsWithin rest

def blocksWithin : List Block → List Block
  | [] => []
  | block :: rest => block.within ++ blocksWithin rest

end

/-- Each of the spans ends before all later ones start. -/
def SpansAscend (spans : List Span) : Prop := spans.Pairwise fun a b => a.last < b.first

instance (spans : List Span) : Decidable (SpansAscend spans) :=
  inferInstanceAs (Decidable (spans.Pairwise _))

/-- The parts of something with the span `outer` all have spans, which lie within it and ascend. -/
structure SpansFill (outer : Span) (parts : List (Option Span)) : Prop where
  placed : ∀ part ∈ parts, ∃ span ∈ part, outer.first ≤ span.first ∧ span.last ≤ outer.last
  ascend : SpansAscend (parts.filterMap id)

instance (outer : Span) (parts : List (Option Span)) : Decidable (SpansFill outer parts) :=
  decidable_of_iff (_ ∧ _) ⟨fun h => ⟨h.1, h.2⟩, fun h => ⟨h.placed, h.ascend⟩⟩

/-- The items of the list fill its span, if it has one, and their blocks fill theirs. -/
def ListBlock.IsFilled (list : ListBlock) : Prop :=
  ∀ outer ∈ list.span, SpansFill outer (list.items.map Item.span) ∧
    ∀ item ∈ list.items, ∀ span ∈ item.span, SpansFill span (item.children.map Block.span)

instance (list : ListBlock) : Decidable list.IsFilled :=
  inferInstanceAs (Decidable (∀ outer ∈ list.span, _ ∧ ∀ item ∈ list.items, ∀ span ∈ item.span, _))

def Block.spans (block : Block) : List Span :=
  block.span.toList ++ (block.list?.elim [] ListBlock.items).filterMap Item.span

def topSpans (blocks : List Block) : List Span := blocks.filterMap Block.span

/-- No span in the document ends before it starts, the top-level blocks follow one another, and
what stands inside lists that were read does so within their lines. -/
structure Document.IsSpanOrdered (document : Document) : Prop where
  nonempty : ∀ block ∈ blocksWithin document, ∀ span ∈ block.spans, span.first ≤ span.last
  ascend : SpansAscend (topSpans document)
  filled : ∀ block ∈ blocksWithin document, ∀ list ∈ block.list?, list.IsFilled

instance (document : Document) : Decidable document.IsSpanOrdered :=
  decidable_of_iff (_ ∧ _ ∧ _)
    ⟨fun h => ⟨h.1, h.2.1, h.2.2⟩, fun h => ⟨h.nonempty, h.ascend, h.filled⟩⟩

theorem mem_blocksWithin {inner : Block} {blocks : List Block} :
    inner ∈ blocksWithin blocks ↔ ∃ block ∈ blocks, inner ∈ block.within := by
  induction blocks with
  | nil => simp [blocksWithin]
  | cons block rest ih => simp [blocksWithin, ih]

theorem mem_itemsWithin {inner : Block} {items : List Item} :
    inner ∈ itemsWithin items ↔ ∃ item ∈ items, inner ∈ blocksWithin item.children := by
  induction items with
  | nil => simp [itemsWithin]
  | cons item rest ih =>
    cases item
    simp [itemsWithin, Item.children, ih]

theorem ListBlock.within_eq (list : ListBlock) : list.within = itemsWithin list.items := by
  cases list
  rfl

theorem Block.mem_within_self (block : Block) : block ∈ block.within := by
  cases block <;> simp [within]

/-- The block has no span that ends before it starts, and is filled if it is a list. -/
structure Block.IsFit (block : Block) : Prop where
  nonempty : ∀ span ∈ block.spans, span.first ≤ span.last
  filled : ∀ list ∈ block.list?, list.IsFilled

def AllFit (blocks : List Block) : Prop := ∀ block ∈ blocksWithin blocks, block.IsFit

theorem Document.isSpanOrdered_iff {document : Document} :
    document.IsSpanOrdered ↔ AllFit document ∧ SpansAscend (topSpans document) := by
  constructor
  · intro h
    exact ⟨fun block hblock => ⟨h.nonempty block hblock, h.filled block hblock⟩, h.ascend⟩
  · rintro ⟨hfit, hascend⟩
    exact ⟨fun block hblock => (hfit block hblock).nonempty, hascend,
      fun block hblock => (hfit block hblock).filled⟩

theorem AllFit.mono {part all : List Block} (h : AllFit all) (hsub : part ⊆ all) :
    AllFit part := by
  intro inner hinner
  obtain ⟨block, hblock, hin⟩ := mem_blocksWithin.mp hinner
  exact h inner (mem_blocksWithin.mpr ⟨block, hsub hblock, hin⟩)

theorem allFit_nil : AllFit [] := by
  intro inner hinner
  simp [blocksWithin] at hinner

theorem allFit_cons {block : Block} {rest : List Block} :
    AllFit (block :: rest) ↔ AllFit [block] ∧ AllFit rest := by
  simp only [AllFit, blocksWithin, List.append_nil, List.forall_mem_append]

theorem allFit_append {front rest : List Block} :
    AllFit (front ++ rest) ↔ AllFit front ∧ AllFit rest := by
  induction front with
  | nil => simp [allFit_nil]
  | cons block front ih => rw [List.cons_append, allFit_cons, ih, ← and_assoc, ← allFit_cons]

theorem AllFit.isFit {block : Block} {blocks : List Block} (h : AllFit blocks)
    (hblock : block ∈ blocks) : block.IsFit :=
  h block (mem_blocksWithin.mpr ⟨block, hblock, block.mem_within_self⟩)

theorem allFit_list {list : ListBlock} :
    AllFit [.list list] ↔
      (Block.list list).IsFit ∧ ∀ item ∈ list.items, AllFit item.children := by
  simp only [AllFit, blocksWithin, Block.within, List.append_nil, List.forall_mem_cons,
    list.within_eq, mem_itemsWithin, forall_exists_index, and_imp]
  exact and_congr_right fun _ =>
    ⟨fun h item hitem inner hinner => h inner item hitem hinner,
      fun h inner item hitem hinner => h item hitem inner hinner⟩

theorem allFit_singleton {block : Block} (hlist : block.list? = none) :
    AllFit [block] ↔ ∀ span ∈ block.span, span.first ≤ span.last := by
  have hwithin : block.within = [block] := by
    cases block <;> simp_all [Block.within, Block.list?]
  simp only [AllFit, blocksWithin, hwithin, List.append_nil, List.forall_mem_singleton]
  constructor
  · intro h span hspan
    exact h.nonempty span (by simp [Block.spans, hlist, Option.mem_def.mp hspan])
  · intro h
    refine ⟨fun span hspan => h span ?_, by simp [hlist]⟩
    simpa [Block.spans, hlist] using hspan

theorem allFit_numbered {items : List Item} (hitems : ∀ item ∈ items, item.span = none) :
    AllFit [.list (.numbered items)] ↔ ∀ item ∈ items, AllFit item.children := by
  refine allFit_list.trans (and_iff_right ⟨?_, ?_⟩)
  · intro span hspan
    obtain ⟨item, hitem, hsome⟩ : ∃ item ∈ items, item.span = some span := by
      simpa [Block.spans, Block.span, Block.list?, ListBlock.numbered, ListBlock.span,
        ListBlock.items] using hspan
    simp [hitems item hitem] at hsome
  · intro list hlist outer houter
    obtain rfl : ListBlock.numbered items = list := Option.some.inj hlist
    simp [ListBlock.numbered, ListBlock.span] at houter

@[simp] theorem topSpans_append (front rest : List Block) :
    topSpans (front ++ rest) = topSpans front ++ topSpans rest :=
  List.filterMap_append

@[simp] theorem topSpans_cons (block : Block) (rest : List Block) :
    topSpans (block :: rest) = block.span.toList ++ topSpans rest := by
  cases h : block.span <;> simp [topSpans, h]

theorem topSpans_list_numbered (items : List Item) (rest : List Block) :
    topSpans (.list (.numbered items) :: rest) = topSpans rest :=
  topSpans_cons _ _

theorem topSpans_sublist {part all : List Block} (h : part.Sublist all) :
    (topSpans part).Sublist (topSpans all) :=
  h.filterMap Block.span

/-- The items that sections turn into have no spans and hold fit blocks. -/
def ItemsMade (items : List Item) : Prop :=
  ∀ item ∈ items, item.span = none ∧ AllFit item.children

theorem allFit_paragraph_ofText (text : String) : AllFit [.paragraph (.ofText text)] :=
  (allFit_singleton rfl).mpr (by simp [Block.span, Paragraph.ofText])

theorem itemsMade_list {items : List Item} (h : ItemsMade items) :
    AllFit [.list (.numbered items)] :=
  (allFit_numbered fun item hitem => (h item hitem).1).mpr fun item hitem => (h item hitem).2

theorem itemsMade_cons {children : List Block} {items : List Item} (hchildren : AllFit children)
    (hitems : ItemsMade items) : ItemsMade (.mk children none :: items) := by
  intro item hitem
  rcases List.mem_cons.mp hitem with rfl | hitem
  · exact ⟨rfl, hchildren⟩
  · exact hitems item hitem

theorem flattenBlocks_allFit (title : String) (lists : Nat) {blocks : List Block}
    (h : AllFit blocks) :
    ItemsMade (flattenBlocks title lists blocks).1 ∧
      AllFit (flattenBlocks title lists blocks).2 := by
  fun_induction flattenBlocks title lists blocks with
  | case1 => exact ⟨by intro item hitem; simp at hitem, allFit_nil⟩
  | case2 title lists g rest inner innerTail hinner items tail hitems ihinner ihitems =>
    obtain ⟨-, hrest⟩ := allFit_cons.mp h
    simp only [hinner] at ihinner
    simp only [hitems] at ihitems
    obtain ⟨hinside, hinsideTail⟩ := ihinner (hrest.mono (List.takeWhile_sublist _).subset)
    obtain ⟨hbehind, hbehindTail⟩ := ihitems (hrest.mono (List.dropWhile_sublist _).subset)
    refine ⟨itemsMade_cons ?_ hbehind, allFit_append.mpr ⟨hinsideTail, hbehindTail⟩⟩
    exact allFit_cons.mpr ⟨allFit_paragraph_ofText g.plainTitle, itemsMade_list hinside⟩
  | case3 title lists p rest items tail hrest ih =>
    obtain ⟨hblock, hothers⟩ := allFit_cons.mp h
    simp only [hrest] at ih
    exact ⟨itemsMade_cons hblock (ih hothers).1, (ih hothers).2⟩
  | case4 title lists l rest items tail hrest ih =>
    obtain ⟨hblock, hothers⟩ := allFit_cons.mp h
    simp only [hrest] at ih
    exact ⟨itemsMade_cons (allFit_cons.mpr ⟨allFit_paragraph_ofText _, hblock⟩) (ih hothers).1,
      (ih hothers).2⟩
  | case5 title lists m span rest items tail hrest ih =>
    obtain ⟨hblock, hothers⟩ := allFit_cons.mp h
    simp only [hrest] at ih
    exact ⟨(ih hothers).1, allFit_cons.mpr ⟨hblock, (ih hothers).2⟩⟩

theorem flattenBlocks_tail_sublist (title : String) (lists : Nat) (blocks : List Block) :
    (flattenBlocks title lists blocks).2.Sublist blocks := by
  rw [flattenBlocks_tail]
  exact List.filter_sublist

theorem Document.headingToList_isSpanOrdered {document : Document} (index : Nat) (peers : Bool)
    (h : document.IsSpanOrdered) : (document.headingToList index peers false).IsSpanOrdered := by
  cases hdepth : document[index]?.bind Block.headingDepth? with
  | none => simpa [headingToList, hdepth] using h
  | some depth =>
    obtain ⟨block, hblock, hheading⟩ := Option.bind_eq_some_iff.mp hdepth
    obtain ⟨heading, -, rfl⟩ := Block.headingDepth?_eq_some_iff.mp hheading
    obtain ⟨before, g, rest, after, -, hdocument, -, hlist⟩ := headingToList_eq hblock peers
    rw [isSpanOrdered_iff] at h ⊢
    obtain ⟨hfit, hascend⟩ := h
    rw [hdocument, ← List.cons_append] at hfit hascend
    obtain ⟨hbefore, hbehind⟩ := allFit_append.mp hfit
    obtain ⟨hrun, hafter⟩ := allFit_append.mp hbehind
    obtain ⟨hmade, htail⟩ := flattenBlocks_allFit "" 0 hrun
    rw [hlist]
    constructor
    · apply allFit_append.mpr
      exact ⟨hbefore, allFit_cons.mpr ⟨itemsMade_list hmade, allFit_append.mpr ⟨htail, hafter⟩⟩⟩
    · apply List.Pairwise.sublist _ hascend
      rw [topSpans_append, topSpans_list_numbered, ← topSpans_append]
      apply topSpans_sublist
      exact (List.Sublist.refl before).append
        ((flattenBlocks_tail_sublist "" 0 _).append (List.Sublist.refl after))

theorem cascade_allFit {peers : Bool} {old new : Nat} {blocks : List Block} (h : AllFit blocks) :
    AllFit (cascade peers old new blocks) := by
  fun_induction cascade peers old new blocks with
  | case1 => exact h
  | case2 => exact h
  | case3 heading rest _ _ ih =>
    obtain ⟨hheading, hrest⟩ := allFit_cons.mp h
    refine allFit_cons.mpr ⟨?_, ih hrest⟩
    rw [allFit_singleton rfl] at hheading ⊢
    exact hheading
  | case4 heading rest _ _ items tail hflat ih =>
    obtain ⟨hheading, hrest⟩ := allFit_cons.mp h
    have hrun : AllFit (.heading heading :: rest.takeWhile (Block.isWithin heading.depth)) :=
      allFit_cons.mpr ⟨hheading, hrest.mono (List.takeWhile_sublist _).subset⟩
    obtain ⟨hmade, htail⟩ := flattenBlocks_allFit "" 0 hrun
    rw [hflat] at hmade htail
    have hbehind := ih (hrest.mono (List.dropWhile_sublist _).subset)
    exact allFit_cons.mpr ⟨itemsMade_list hmade, allFit_append.mpr ⟨htail, hbehind⟩⟩
  | case5 block rest _ ih =>
    obtain ⟨hblock, hrest⟩ := allFit_cons.mp h
    exact allFit_cons.mpr ⟨hblock, ih hrest⟩

theorem cascade_topSpans_sublist (peers : Bool) (old new : Nat) (blocks : List Block) :
    (topSpans (cascade peers old new blocks)).Sublist (topSpans blocks) := by
  fun_induction cascade peers old new blocks with
  | case1 => exact List.Sublist.refl _
  | case2 => exact List.Sublist.refl _
  | case3 heading rest _ _ ih =>
    rw [topSpans_cons, topSpans_cons]
    exact (List.Sublist.refl _).append ih
  | case4 heading rest _ _ items tail hflat ih =>
    have htail := flattenBlocks_tail_sublist "" 0
      (.heading heading :: rest.takeWhile (Block.isWithin heading.depth))
    rw [hflat] at htail
    have hsplit : topSpans (.heading heading :: rest) =
        topSpans (.heading heading :: rest.takeWhile (Block.isWithin heading.depth)) ++
          topSpans (rest.dropWhile (Block.isWithin heading.depth)) := by
      rw [← topSpans_append, List.cons_append, List.takeWhile_append_dropWhile]
    rw [hsplit, topSpans_list_numbered, topSpans_append]
    exact (topSpans_sublist htail).append ih
  | case5 block rest _ ih =>
    rw [topSpans_cons, topSpans_cons]
    exact (List.Sublist.refl _).append ih

theorem Document.retargetHeading_isSpanOrdered {document : Document} (line depth : Nat)
    (peers : Bool) (h : document.IsSpanOrdered) :
    (document.retargetHeading line depth peers).IsSpanOrdered := by
  unfold retargetHeading
  split
  · exact h
  split
  · exact h
  rename_i index hindex
  split
  · exact h
  rename_i old hold
  dsimp only
  generalize (if peers then document.firstPeer index old else index) = first
  split
  · rename_i heading rest hdrop
    rw [isSpanOrdered_iff, ← List.take_append_drop first document, hdrop] at h
    obtain ⟨hfit, hascend⟩ := h
    obtain ⟨hbefore, hbehind⟩ := allFit_append.mp hfit
    obtain ⟨hheading, hrest⟩ := allFit_cons.mp hbehind
    rw [allFit_singleton rfl] at hheading
    refine isSpanOrdered_iff.mpr ⟨?_, ?_⟩
    · apply allFit_append.mpr
      exact ⟨hbefore, allFit_cons.mpr ⟨(allFit_singleton rfl).mpr hheading, cascade_allFit hrest⟩⟩
    · apply List.Pairwise.sublist _ hascend
      simp only [topSpans_append, topSpans_cons]
      apply (List.Sublist.refl _).append
      exact (List.Sublist.refl _).append (cascade_topSpans_sublist peers _ depth rest)
  · exact h

def Span.IsWithin (inner outer : Span) : Prop :=
  outer.first ≤ inner.first ∧ inner.last ≤ outer.last

theorem Span.IsWithin.refl (span : Span) : span.IsWithin span :=
  ⟨Nat.le_refl _, Nat.le_refl _⟩

theorem Span.IsWithin.trans {inner middle outer : Span} (h : inner.IsWithin middle)
    (h' : middle.IsWithin outer) : inner.IsWithin outer :=
  ⟨Nat.le_trans h'.1 h.1, Nat.le_trans h.2 h'.2⟩

theorem mem_topSpans {blocks : List Block} {span : Span} :
    span ∈ topSpans blocks ↔ some span ∈ blocks.map Block.span := by
  simp [topSpans]

/-- The blocks that come out of something follow one another within its span, and the lists among
them have spans. -/
structure LiftsWithin (outer : Option Span) (blocks : List Block) : Prop where
  fit : AllFit blocks
  ascend : SpansAscend (topSpans blocks)
  within : ∀ span ∈ topSpans blocks, ∃ whole ∈ outer, span.IsWithin whole
  placed : ∀ list, .list list ∈ blocks → list.span.isSome = true

theorem liftsWithin_self {block : Block} (hfit : AllFit [block])
    (hplaced : ∀ list, block = .list list → list.span.isSome = true) :
    LiftsWithin block.span [block] where
  fit := hfit
  ascend := by
    rw [topSpans_cons]
    cases block.span <;> simp [topSpans, SpansAscend]
  within := by
    intro span hspan
    have hsome : block.span = some span := by simpa [topSpans] using hspan
    exact ⟨span, hsome, .refl span⟩
  placed := by
    intro list hmem
    exact hplaced list (List.mem_singleton.mp hmem).symm

/-- What comes out of parts that follow one another within a span does so too. -/
theorem liftsWithin_flatMap {α : Type} {parts : List α} (span : α → Option Span)
    {inner : α → List Block} {outer : Option Span} (hparts : SpansAscend (parts.filterMap span))
    (hwithin : ∀ part ∈ parts, ∀ s ∈ span part, ∃ whole ∈ outer, s.IsWithin whole)
    (hinner : ∀ part ∈ parts, LiftsWithin (span part) (inner part)) :
    LiftsWithin outer (parts.flatMap inner) := by
  have hspans : topSpans (parts.flatMap inner) = parts.flatMap fun part => topSpans (inner part) :=
    List.filterMap_flatMap
  constructor
  · intro block hblock
    obtain ⟨top, htop, hin⟩ := mem_blocksWithin.mp hblock
    obtain ⟨part, hpart, htop⟩ := List.mem_flatMap.mp htop
    exact (hinner part hpart).fit block (mem_blocksWithin.mpr ⟨top, htop, hin⟩)
  · rw [hspans]
    apply List.pairwise_flatMap.mpr
    refine ⟨fun part hpart => (hinner part hpart).ascend,
      (List.pairwise_filterMap.mp hparts).imp_of_mem ?_⟩
    intro a b ha hb hlt s hs t ht
    obtain ⟨before, hbefore, hend⟩ := (hinner a ha).within s hs
    obtain ⟨after, hafter, hstart⟩ := (hinner b hb).within t ht
    have hgap := hlt before hbefore after hafter
    exact Nat.lt_of_le_of_lt hend.2 (Nat.lt_of_lt_of_le hgap hstart.1)
  · intro s hs
    rw [hspans] at hs
    obtain ⟨part, hpart, hs⟩ := List.mem_flatMap.mp hs
    obtain ⟨middle, hmiddle, hinside⟩ := (hinner part hpart).within s hs
    obtain ⟨whole, hwhole, houtside⟩ := hwithin part hpart middle hmiddle
    exact ⟨whole, hwhole, hinside.trans houtside⟩
  · intro list hlist
    obtain ⟨part, hpart, hlist⟩ := List.mem_flatMap.mp hlist
    exact (hinner part hpart).placed list hlist

theorem liftsWithin_liftItem {item : Item} {span : Span} (hspan : item.span = some span)
    (hfit : AllFit item.children) (hfill : SpansFill span (item.children.map Block.span))
    (depth : Nat) : LiftsWithin item.span (liftItem depth item) := by
  have hchildren : LiftsWithin item.span item.children := by
    constructor
    · exact hfit
    · simpa [List.filterMap_map, topSpans] using hfill.ascend
    · intro s hs
      obtain ⟨found, hfound, hwithin⟩ := hfill.placed _ (mem_topSpans.mp hs)
      obtain rfl : s = found := Option.some.inj hfound
      exact ⟨span, hspan, hwithin⟩
    · intro list hlist
      obtain ⟨found, hfound, -⟩ := hfill.placed _ (List.mem_map_of_mem hlist)
      exact Option.isSome_iff_exists.mpr ⟨found, hfound⟩
  unfold liftItem
  split
  · rename_i p rest hitem
    rw [hitem] at hchildren
    obtain ⟨-, hrest⟩ := allFit_cons.mp hchildren.fit
    have hspans : topSpans (.heading { depth, content := p.content } :: rest) = topSpans rest :=
      topSpans_cons _ _
    have hsub := topSpans_sublist (List.sublist_cons_self (.paragraph p) rest)
    constructor
    · exact allFit_cons.mpr ⟨(allFit_singleton rfl).mpr (by simp [Block.span]), hrest⟩
    · rw [hspans]
      exact hchildren.ascend.sublist hsub
    · intro s hs
      rw [hspans] at hs
      exact hchildren.within s (hsub.subset hs)
    · intro list hlist
      apply hchildren.placed list
      simpa using hlist
  · exact hchildren

theorem liftsWithin_liftRound_block {block : Block} (hfit : AllFit [block])
    (hplaced : ∀ list, block = .list list → list.span.isSome = true) (depth : Nat) :
    LiftsWithin block.span (liftRound depth [block]) := by
  cases block with
  | list list =>
    obtain ⟨outer, houter⟩ := Option.isSome_iff_exists.mp (hplaced list rfl)
    obtain ⟨hlist, hitems⟩ := allFit_list.mp hfit
    obtain ⟨hfill, hchildren⟩ := hlist.filled list rfl outer houter
    have hround : liftRound depth [.list list] = list.items.flatMap (liftItem depth) := by
      simp [liftRound]
    rw [hround]
    apply liftsWithin_flatMap Item.span
    · simpa [List.filterMap_map] using hfill.ascend
    · intro item hitem span hspan
      obtain ⟨found, hfound, hwithin⟩ := hfill.placed _ (List.mem_map_of_mem hitem)
      obtain rfl : span = found := Option.some.inj (hspan.symm.trans hfound)
      exact ⟨outer, houter, hwithin⟩
    · intro item hitem
      obtain ⟨span, hspan, -⟩ := hfill.placed _ (List.mem_map_of_mem hitem)
      exact liftsWithin_liftItem hspan (hitems item hitem) (hchildren item hitem span hspan) depth
  | heading h => exact liftsWithin_self hfit hplaced
  | paragraph p => exact liftsWithin_self hfit hplaced
  | other m span => exact liftsWithin_self hfit hplaced

theorem liftsWithin_liftRound {blocks : List Block} {outer : Option Span}
    (h : LiftsWithin outer blocks) (depth : Nat) :
    LiftsWithin outer (liftRound depth blocks) := by
  have hround : liftRound depth blocks = blocks.flatMap fun block => liftRound depth [block] := by
    simp [liftRound]
  rw [hround]
  apply liftsWithin_flatMap Block.span h.ascend
  · intro block hblock span hspan
    exact h.within span (mem_topSpans.mpr (hspan ▸ List.mem_map_of_mem hblock))
  · intro block hblock
    apply liftsWithin_liftRound_block
    · exact h.fit.mono (by simpa using hblock)
    · rintro list rfl
      exact h.placed list hblock

theorem liftsWithin_liftRounds {rounds depth : Nat} {blocks : List Block} {outer : Option Span}
    (h : LiftsWithin outer blocks) : LiftsWithin outer (liftRounds rounds depth blocks) := by
  induction rounds generalizing depth blocks with
  | zero => exact h
  | succ rounds ih => exact ih (liftsWithin_liftRound h depth)

/-- A block can be replaced by blocks that come out of it. -/
theorem Document.isSpanOrdered_replace {before after lifted : List Block} {block : Block}
    (h : IsSpanOrdered (before ++ block :: after)) (hlifted : LiftsWithin block.span lifted) :
    IsSpanOrdered (before ++ lifted ++ after) := by
  rw [isSpanOrdered_iff] at h ⊢
  obtain ⟨hfit, hascend⟩ := h
  obtain ⟨hbefore, hbehind⟩ := allFit_append.mp hfit
  obtain ⟨-, hafter⟩ := allFit_cons.mp hbehind
  refine ⟨allFit_append.mpr ⟨allFit_append.mpr ⟨hbefore, hlifted.fit⟩, hafter⟩, ?_⟩
  simp only [SpansAscend, topSpans_append, topSpans_cons, List.pairwise_append, List.mem_append,
    Option.mem_toList] at hascend ⊢
  obtain ⟨hfront, ⟨-, hback, hover⟩, hunder⟩ := hascend
  refine ⟨⟨hfront, hlifted.ascend, ?_⟩, hback, ?_⟩
  · intro a ha b hb
    obtain ⟨whole, hwhole, hwithin⟩ := hlifted.within b hb
    exact Nat.lt_of_lt_of_le (hunder a ha whole (.inl hwhole)) hwithin.1
  · rintro a (ha | ha) b hb
    · exact hunder a ha b (.inr hb)
    · obtain ⟨whole, hwhole, hwithin⟩ := hlifted.within a ha
      exact Nat.lt_of_le_of_lt hwithin.2 (hover whole hwhole b hb)

theorem Document.listToHeading_isSpanOrdered {document : Document} (line : Nat)
    (h : document.IsSpanOrdered) : (document.listToHeading line).IsSpanOrdered := by
  unfold listToHeading
  split
  · exact h
  rename_i state hstate
  split
  · rename_i list hlist
    have hplaced : list.span.isSome = true :=
      Option.isSome_of_any ((ownsLine_of_lineState? hstate).covers hlist)
    obtain ⟨hbound, hget⟩ := List.getElem?_eq_some_iff.mp hlist
    have hdocument : document = document.take state.blockIndex ++ .list list ::
        document.drop (state.blockIndex + 1) := by
      rw [← hget, List.getElem_cons_drop, List.take_append_drop]
    have hordered := h
    rw [hdocument] at hordered
    have hfit : AllFit [.list list] := by
      apply (isSpanOrdered_iff.mp h).1.mono
      simpa using List.mem_of_getElem? hlist
    apply isSpanOrdered_replace hordered
    apply liftsWithin_liftRounds
    apply liftsWithin_self hfit
    rintro other heq
    obtain rfl : list = other := Block.list.inj heq
    exact hplaced
  · exact h

theorem allFit_observe {list : ListBlock} (h : AllFit [.list list]) (numbering : ListNumbering) :
    AllFit [.list (numbering.observe list)] := by
  obtain ⟨hfit, hchildren⟩ := allFit_list.mp h
  apply allFit_list.mpr
  rw [numbering.items_observe]
  refine ⟨⟨?_, ?_⟩, hchildren⟩
  · simpa [Block.spans, Block.span, Block.list?] using hfit.nonempty
  · intro found hfound
    obtain rfl : numbering.observe list = found := Option.some.inj hfound
    simpa [ListBlock.IsFilled] using hfit.filled list rfl

theorem Document.numberBlocks_allFit {blocks : List Block} (h : AllFit blocks)
    (numbering : HeadingNumbering) (lists : ListNumbering) (counters : HeadingCounters) :
    AllFit (numberBlocks numbering lists counters blocks) := by
  induction blocks generalizing counters with
  | nil => exact h
  | cons block rest ih =>
    obtain ⟨hblock, hrest⟩ := allFit_cons.mp h
    cases block with
    | heading g =>
      have hheading : AllFit [.heading (numbering.observe counters g).2] := by
        rw [allFit_singleton rfl, Block.span, numbering.observe_span]
        exact (allFit_singleton rfl).mp hblock
      exact allFit_cons.mpr ⟨hheading, ih hrest _⟩
    | list l => exact allFit_cons.mpr ⟨allFit_observe hblock lists, ih hrest _⟩
    | paragraph p => exact allFit_cons.mpr ⟨hblock, ih hrest _⟩
    | other m span => exact allFit_cons.mpr ⟨hblock, ih hrest _⟩

theorem topSpans_congr {blocks others : List Block} (h : List.Forall₂ Block.SeenAs blocks others) :
    topSpans others = topSpans blocks := by
  induction h with
  | nil => rfl
  | cons hblock _ ih => rw [topSpans_cons, topSpans_cons, hblock.span, ih]

theorem Document.formatIndex_isSpanOrdered {document : Document} (options : FormatOptions)
    (h : document.IsSpanOrdered) : (document.formatIndex options).IsSpanOrdered := by
  rw [isSpanOrdered_iff] at h ⊢
  obtain ⟨hfit, hascend⟩ := h
  refine ⟨numberBlocks_allFit hfit _ _ _, ?_⟩
  rw [formatIndex, topSpans_congr (numberBlocks_seenAs _ _ _ document)]
  exact hascend

theorem Transform.apply_isSpanOrdered {document : Document} (change : Transform)
    (h : document.IsSpanOrdered) : (change.apply document).IsSpanOrdered := by
  cases change with
  | headingToList line peers =>
    simp only [apply, Document.headingToListAt]
    split
    · exact Document.headingToList_isSpanOrdered _ peers h
    · exact h
  | listToHeading line => exact Document.listToHeading_isSpanOrdered line h
  | headingDepth line depth peers => exact Document.retargetHeading_isSpanOrdered line depth peers h
  | format options => exact Document.formatIndex_isSpanOrdered options h

theorem Document.transform_isSpanOrdered {document : Document} (changes : List Transform)
    (h : document.IsSpanOrdered) : (document.transform changes).IsSpanOrdered := by
  induction changes generalizing document with
  | nil => exact h
  | cons change changes ih => exact ih (change.apply_isSpanOrdered h)

def Document.CoversAt (document : Document) (index line : Nat) : Prop :=
  ∃ block, document[index]? = some block ∧ block.covers line = true

theorem Block.covers_iff {block : Block} {line : Nat} :
    block.covers line = true ↔
      ∃ span, block.span = some span ∧ span.first ≤ line ∧ line ≤ span.last := by
  simp [covers, Option.any_eq_true, Span.contains]

theorem Document.IsSpanOrdered.eq_of_coversAt {document : Document} (h : document.IsSpanOrdered)
    {i j line : Nat} (hi : document.CoversAt i line) (hj : document.CoversAt j line) : i = j := by
  have hnot {i j : Nat} (hlt : i < j) (hi : document.CoversAt i line) :
      ¬ document.CoversAt j line := by
    intro hj
    obtain ⟨a, ha, hcovers⟩ := hi
    obtain ⟨b, hb, hcovers'⟩ := hj
    obtain ⟨ia, rfl⟩ := List.getElem?_eq_some_iff.mp ha
    obtain ⟨jb, rfl⟩ := List.getElem?_eq_some_iff.mp hb
    obtain ⟨before, hbefore, -, hend⟩ := Block.covers_iff.mp hcovers
    obtain ⟨after, hafter, hstart, -⟩ := Block.covers_iff.mp hcovers'
    have hgap := List.pairwise_iff_getElem.mp (List.pairwise_filterMap.mp h.ascend) i j ia jb hlt
      before hbefore after hafter
    omega
  rcases Nat.lt_trichotomy i j with hlt | heq | hlt
  · exact absurd hj (hnot hlt hi)
  · exact heq
  · exact absurd hi (hnot hlt hj)

theorem Document.IsSpanOrdered.coversAt {document : Document} (h : document.IsSpanOrdered)
    {index line : Nat} (hstarts : document.HeadingStartsAt index line) :
    document.CoversAt index line := by
  obtain ⟨heading, span, hheading, hspan, rfl⟩ := hstarts
  have hfit := (isSpanOrdered_iff.mp h).1.isFit (List.mem_of_getElem? hheading)
  have hle : span.first ≤ span.last := by
    apply hfit.nonempty span
    simp [Block.spans, Block.span, hspan]
  exact ⟨_, hheading, Block.covers_iff.mpr ⟨span, hspan, Nat.le_refl _, hle⟩⟩

/-- Whatever changes are made to a document whose spans are in order, they stay in order: no line
belongs to two blocks, and no two headings start at one line. -/
theorem Document.transform_unambiguous (document : Document) (changes : List Transform)
    (h : document.IsSpanOrdered) :
    (document.transform changes).IsSpanOrdered ∧ ∀ line i j,
      ((document.transform changes).CoversAt i line →
        (document.transform changes).CoversAt j line → i = j) ∧
      ((document.transform changes).HeadingStartsAt i line →
        (document.transform changes).HeadingStartsAt j line → i = j) := by
  have hordered := transform_isSpanOrdered changes h
  refine ⟨hordered, fun line i j => ⟨fun hi hj => ?_, fun hi hj => ?_⟩⟩
  · exact hordered.eq_of_coversAt hi hj
  · exact hordered.eq_of_coversAt (hordered.coversAt hi) (hordered.coversAt hj)

/-- A nested list is lifted, the sections around it move down, a quotation is left behind a list
that they turn into, and what is left is numbered. -/
theorem Document.transform_unambiguous_nested :
    let paragraph (line : Nat) : Block := .paragraph ⟨[.text "p"], some ⟨line, line⟩⟩
    let inner : Block := .list (.mk false 1 true [.mk [paragraph 5] (some ⟨5, 5⟩)] (some ⟨5, 5⟩))
    let outer : Block := .list (.mk true 3 true
      [.mk [paragraph 4, inner] (some ⟨4, 5⟩), .mk [paragraph 6] (some ⟨6, 7⟩)] (some ⟨4, 7⟩))
    let document : Document := [.heading ⟨1, [.text "Top"], some ⟨1, 1⟩⟩,
      .heading ⟨2, [.text "A"], some ⟨3, 3⟩⟩, outer, .other (.leaf .blockQuote) (some ⟨8, 9⟩),
      .heading ⟨2, [.text "B"], some ⟨10, 10⟩⟩]
    let changes : List Transform := [.listToHeading 5, .headingDepth 10 3 true,
      .headingToList 3 false, .format ⟨.depth 1, .increaseFromOne⟩]
    document.IsSpanOrdered ∧ (document.transform changes).IsSpanOrdered ∧
      topSpans (document.transform changes) = [⟨1, 1⟩, ⟨8, 9⟩, ⟨10, 10⟩] := by
  intro paragraph inner outer document changes
  have hdocument : document.IsSpanOrdered := by decide
  exact ⟨hdocument, (document.transform_unambiguous changes hdocument).1, by decide +kernel⟩

end MarkdownOutline
