import MarkdownOutline.Outline.Location
import Mathlib.Data.List.Basic

/-!
# Places in lists

The place of a line in a list leads to the line: on every level its number is that of the first item
that covers the line, and the next level is the first list in that item that covers the line. The
place ends where no item or no list further in covers the line, or at the deepest level that is told
apart.
-/

namespace MarkdownOutline

/-- The item is the first of the list that covers the line, and has the number, counted from 1. -/
structure ListBlock.IsFirstItem (list : ListBlock) (line number : Nat) (item : Item) : Prop where
  pos : 1 ≤ number
  found : list.items[number - 1]? = some item
  covers : item.covers line = true
  first : ∀ index other, index + 1 < number → list.items[index]? = some other →
    other.covers line = false

/-- The list is the first among the blocks of the item that covers the line. -/
def Item.IsFirstList (item : Item) (line : Nat) (list : ListBlock) : Prop :=
  list.covers line = true ∧ ∃ before after, item.children = before ++ .list list :: after ∧
    ∀ other, .list other ∈ before → other.covers line = false

/-- A place ends in the list with the number: it is that of the first item that covers the line, and
if there is room for more levels no list in the item covers it, or it is the number of all items and
none of them covers the line. -/
def ListBlock.EndsPlace (list : ListBlock) (line number : Nat) (room : Prop) : Prop :=
  (∀ item ∈ list.items, item.covers line = false) ∧ number = list.items.length ∨
    ∃ item, list.IsFirstItem line number item ∧
      (room → ∀ nested, .list nested ∈ item.children → nested.covers line = false)

/-- The numbers lead from list to list, each to the first item that covers the line and on to the
first list in it that does, until nothing further in covers the line or there are no levels left. -/
structure LeadsToLine (line levels : Nat) (path : List Nat) (walk : Nat → ListBlock) : Prop where
  length_pos : 1 ≤ path.length
  length_le : path.length ≤ levels
  passes : ∀ index, index + 1 < path.length → ∃ number item, path[index]? = some number ∧
    (walk index).IsFirstItem line number item ∧ item.IsFirstList line (walk (index + 1))
  ends : ∃ number, path[path.length - 1]? = some number ∧
    (walk (path.length - 1)).EndsPlace line number (path.length < levels)

def walkFrom (list : ListBlock) (walk : Nat → ListBlock) : Nat → ListBlock
  | 0 => list
  | index + 1 => walk index

theorem firstCovering_eq_none_iff {line number : Nat} {items : List Item} :
    firstCovering line number items = none ↔ ∀ item ∈ items, item.covers line = false := by
  induction items generalizing number with
  | nil => simp [firstCovering]
  | cons item items ih =>
    cases hcovers : item.covers line <;> simp [firstCovering, hcovers, ih]

theorem exists_index_of_firstCovering {line start number : Nat} {items : List Item} {item : Item}
    (h : firstCovering line start items = some (number, item)) :
    ∃ index, number = start + index ∧ items[index]? = some item ∧ item.covers line = true ∧
      ∀ k other, k < index → items[k]? = some other → other.covers line = false := by
  induction items generalizing start with
  | nil => simp [firstCovering] at h
  | cons head items ih =>
    cases hcovers : head.covers line with
    | true =>
      rw [firstCovering, if_pos hcovers, Option.some.injEq, Prod.mk.injEq] at h
      obtain ⟨rfl, rfl⟩ := h
      exact ⟨0, rfl, rfl, hcovers, fun k other hk => absurd hk k.not_lt_zero⟩
    | false =>
      rw [firstCovering, if_neg (by simp [hcovers])] at h
      obtain ⟨index, rfl, hitem, hitemCovers, hfirst⟩ := ih h
      refine ⟨index + 1, by omega, hitem, hitemCovers, fun k other hk hother => ?_⟩
      cases k with
      | zero => exact Option.some.inj hother ▸ hcovers
      | succ k => exact hfirst k other (Nat.lt_of_succ_lt_succ hk) hother

theorem ListBlock.isFirstItem_of_firstCovering {list : ListBlock} {line number : Nat} {item : Item}
    (h : firstCovering line 1 list.items = some (number, item)) :
    list.IsFirstItem line number item := by
  obtain ⟨index, rfl, hitem, hcovers, hfirst⟩ := exists_index_of_firstCovering h
  have hindex : 1 + index - 1 = index := Nat.add_sub_cancel_left ..
  exact ⟨Nat.le_add_right .., hindex.symm ▸ hitem, hcovers,
    fun k other hk => hfirst k other (by omega)⟩

theorem coveringList?_eq_none_iff {line : Nat} {blocks : List Block} :
    coveringList? line blocks = none ↔
      ∀ list, .list list ∈ blocks → list.covers line = false := by
  simp only [coveringList?, List.find?_eq_none, List.mem_filterMap, Block.list?_eq_some_iff,
    Bool.not_eq_true]
  exact ⟨fun h list hlist => h list ⟨_, hlist, rfl⟩,
    fun h list ⟨_, hmem, hlist⟩ => h list (hlist ▸ hmem)⟩

theorem Item.isFirstList_of_coveringList? {item : Item} {line : Nat} {list : ListBlock}
    (h : coveringList? line item.children = some list) : item.IsFirstList line list := by
  obtain ⟨hcovers, listsBefore, listsAfter, hlists, hnone⟩ := List.find?_eq_some_iff_append.mp h
  obtain ⟨before, rest, hchildren, hbefore, hrest⟩ := List.filterMap_eq_append_iff.mp hlists
  obtain ⟨others, block, after, rfl, hothers, hblock, -⟩ := List.filterMap_eq_cons_iff.mp hrest
  obtain rfl := Block.list?_eq_some_iff.mp hblock
  refine ⟨hcovers, before ++ others, after, by rw [hchildren, List.append_assoc], ?_⟩
  intro other hother
  rcases List.mem_append.mp hother with hother | hother
  · have hmem : other ∈ listsBefore := hbefore ▸ List.mem_filterMap.mpr ⟨_, hother, rfl⟩
    simpa using hnone other hmem
  · exact absurd (hothers _ hother) (by simp [Block.list?])

variable {line levels number : Nat} {list : ListBlock} {item : Item}

theorem leadsToLine_singleton (hends : list.EndsPlace line number (1 < levels + 1)) :
    LeadsToLine line (levels + 1) [number] fun _ => list where
  length_pos := Nat.le_refl _
  length_le := Nat.le_add_left ..
  passes := fun index hindex => absurd hindex (by simp)
  ends := ⟨number, rfl, hends⟩

theorem LeadsToLine.cons {path : List Nat} {walk : Nat → ListBlock}
    (h : LeadsToLine line levels path walk) (hitem : list.IsFirstItem line number item)
    (hnested : item.IsFirstList line (walk 0)) :
    LeadsToLine line (levels + 1) (number :: path) (walkFrom list walk) := by
  have hlast : path.length = path.length - 1 + 1 := (Nat.sub_add_cancel h.length_pos).symm
  refine ⟨Nat.le_add_left .., Nat.succ_le_succ h.length_le, fun index hindex => ?_, ?_⟩
  · cases index with
    | zero => exact ⟨number, item, rfl, hitem, hnested⟩
    | succ index => exact h.passes index (Nat.lt_of_succ_lt_succ hindex)
  · obtain ⟨last, hnumber, hends⟩ := h.ends
    rw [List.length_cons, Nat.add_sub_cancel, hlast]
    refine ⟨last, hnumber, hends.imp_right ?_⟩
    rintro ⟨found, hfound, hnone⟩
    exact ⟨found, hfound, fun hroom => hnone (by omega)⟩

/-- One level of a place: what is left of it is a place in the first list of the first item. -/
theorem ListBlock.exists_leadsToLine_of_nested
    (hnested : ∀ nested : ListBlock, levels = 0 ∨
      ∃ walk, walk 0 = nested ∧ LeadsToLine line levels (nested.pathWithin line levels) walk) :
    ∃ walk, walk 0 = list ∧
      LeadsToLine line (levels + 1) (list.pathWithin line (levels + 1)) walk := by
  rw [pathWithin]
  cases hfirst : firstCovering line 1 list.items with
  | none =>
    have hnone := firstCovering_eq_none_iff.mp hfirst
    exact ⟨fun _ => list, rfl, leadsToLine_singleton (.inl ⟨hnone, rfl⟩)⟩
  | some found =>
    obtain ⟨number, item⟩ := found
    have hitem := isFirstItem_of_firstCovering hfirst
    dsimp only
    cases hlist : coveringList? line item.children with
    | none =>
      have hnone := coveringList?_eq_none_iff.mp hlist
      exact ⟨fun _ => list, rfl, leadsToLine_singleton (.inr ⟨item, hitem, fun _ => hnone⟩)⟩
    | some nested =>
      -- Without a level left the place ends here, although the line is in a list further in.
      rcases hnested nested with rfl | ⟨walk, rfl, hrest⟩
      · have hroom : ¬ 1 < 0 + 1 := Nat.lt_irrefl 1
        have hends : list.EndsPlace line number (1 < 0 + 1) :=
          .inr ⟨item, hitem, fun h => absurd h hroom⟩
        exact ⟨fun _ => list, rfl, leadsToLine_singleton hends⟩
      · have hlist := Item.isFirstList_of_coveringList? hlist
        exact ⟨walkFrom list walk, rfl, hrest.cons hitem hlist⟩

theorem ListBlock.exists_leadsToLine_pathWithin (line levels : Nat) (list : ListBlock) :
    ∃ walk, walk 0 = list ∧
      LeadsToLine line (levels + 1) (list.pathWithin line (levels + 1)) walk := by
  induction levels generalizing list with
  | zero => exact exists_leadsToLine_of_nested fun _ => .inl rfl
  | succ levels ih => exact exists_leadsToLine_of_nested fun nested => .inr (ih nested)

theorem pathSlots_length {path : List Nat} (hlength : path.length ≤ maxListDepth) :
    (pathSlots path).length = maxListDepth + 1 := by
  simp only [pathSlots, List.cons_append, List.length_cons, List.length_append,
    List.length_replicate]
  omega

theorem pathSlots_getElem?_succ {path : List Nat} {index : Nat} (hindex : index < path.length) :
    (pathSlots path)[index + 1]? = path[index]? := by
  rw [pathSlots, List.cons_append, List.getElem?_cons_succ, List.getElem?_append_left hindex]

theorem pathSlots_getElem?_below {path : List Nat} {depth : Nat} (hdepth : path.length < depth)
    (hmax : depth ≤ maxListDepth) : (pathSlots path)[depth]? = some 0 := by
  obtain ⟨index, rfl⟩ : ∃ n, depth = n + 1 := ⟨depth - 1, by omega⟩
  rw [pathSlots, List.cons_append, List.getElem?_cons_succ,
    List.getElem?_append_right (Nat.le_of_lt_succ hdepth), List.getElem?_replicate_of_lt (by omega)]

/-- The place of a line in a list is one to six levels deep, and its numbers lead to the line from
list to list, starting with the list itself: on each level but the last to the first item that
covers the line, and on to the first list among the blocks of that item that covers it. On the last
level the number is that of the first item that covers the line, or the number of all items if none
does, and no list in that item covers the line unless all six levels are used. The numbers of depth 0
and of the depths below the last level are 0. -/
theorem ListBlock.path_leadsToLine (list : ListBlock) (line : Nat) :
    let depth := (list.path line).length
    let slots := pathSlots (list.path line)
    1 ≤ depth ∧ depth ≤ maxListDepth ∧ slots.length = maxListDepth + 1 ∧
      (∀ level, level = 0 ∨ depth < level ∧ level ≤ maxListDepth → slots[level]? = some 0) ∧
      ∃ walk : Nat → ListBlock, walk 1 = list ∧
        (∀ level, 1 ≤ level → level < depth → ∃ number item, slots[level]? = some number ∧
          (walk level).IsFirstItem line number item ∧
          item.IsFirstList line (walk (level + 1))) ∧
        ∃ number, slots[depth]? = some number ∧
          (walk depth).EndsPlace line number (depth < maxListDepth) := by
  intro depth slots
  obtain ⟨walk, hstart, hwalk⟩ := exists_leadsToLine_pathWithin line (maxListDepth - 1) list
  have hpos : 1 ≤ depth := hwalk.length_pos
  have hle : depth ≤ maxListDepth := hwalk.length_le
  refine ⟨hpos, hle, pathSlots_length hle, ?_, fun level => walk (level - 1), hstart, ?_, ?_⟩
  · rintro level (rfl | ⟨hlevel, hmax⟩)
    · rfl
    · exact pathSlots_getElem?_below hlevel hmax
  · intro level hlevel hdepth
    obtain ⟨index, rfl⟩ := Nat.exists_eq_add_of_le' hlevel
    rw [pathSlots_getElem?_succ (Nat.lt_of_succ_lt hdepth)]
    exact hwalk.passes index hdepth
  · obtain ⟨number, hnumber, hends⟩ := hwalk.ends
    have hlast : depth = depth - 1 + 1 := by omega
    have hslot : slots[depth]? = (list.path line)[depth - 1]? := by
      rw [hlast]
      exact pathSlots_getElem?_succ (by omega)
    exact ⟨number, hslot.trans hnumber, hends⟩

/-- An item that does not cover the line is passed over, even with a list that does. -/
example :
    let inner : Block := .list (.mk false 1 true [.mk [] (some ⟨2, 2⟩)] (some ⟨2, 2⟩))
    let list : ListBlock := .mk false 1 true [.mk [inner] none, .mk [inner] (some ⟨1, 3⟩)] none
    pathSlots (list.path 2) = [0, 2, 1, 0, 0, 0, 0] ∧
      pathSlots (list.path 5) = [0, 2, 0, 0, 0, 0, 0] := by decide

end MarkdownOutline
