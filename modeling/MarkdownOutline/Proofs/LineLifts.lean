import MarkdownOutline.Proofs.NestedLifts
import MarkdownOutline.Proofs.OwnedLines
import Mathlib.Data.List.Flatten

/-!
# Lists lifted at a line

The place of a line in a list leads through items, each in a list of the one before. A list is lifted
by as many levels as the place has, so if there are depths left for all of them and the items start
with paragraphs, these end up as headings one below the other.
-/

namespace MarkdownOutline

/-- The list that a line belongs to is replaced by sections: as many of its levels as the line is
deep in it, as far as there are depths left below the heading above. -/
theorem Document.listToHeading_eq {document : Document} {line : Nat} {state : LineState}
    {list : ListBlock} (hstate : document.lineState? line = some state)
    (hlist : document[state.blockIndex]? = some (.list list)) :
    document.listToHeading line =
      document.take state.blockIndex ++
        list.asSections (min state.listDepth (maxHeadingDepth - state.headings.depth))
          (state.headings.depth + 1) ++
        document.drop (state.blockIndex + 1) := by
  have hdepth : max (state.headings.depth + 1) 1 = state.headings.depth + 1 := by omega
  have hrounds : availableRounds (state.headings.depth + 1)
      (min state.listDepth (maxHeadingDepth - min state.headings.depth maxHeadingDepth)) =
        min state.listDepth (maxHeadingDepth - state.headings.depth) := by
    unfold availableRounds
    omega
  simp only [listToHeading, hstate, hlist, ListBlock.toHeadings, hdepth, hrounds,
    liftRounds_eq_flatMap, List.flatMap_singleton, liftNested]

/-- The place leads through the items, the outermost first: on each level to the item with the
number, and from there on to the first list in the item that covers the line. -/
inductive ListBlock.LeadsThrough (line : Nat) : ListBlock → List Nat → List Item → Prop
  | last {list : ListBlock} {before : Nat} {item : Item}
      (hitem : list.items[before]? = some item) : LeadsThrough line list [before + 1] [item]
  | next {list nested : ListBlock} {before : Nat} {item : Item} {path : List Nat}
      {items : List Item} (hitem : list.items[before]? = some item)
      (hnested : coveringList? line item.children = some nested)
      (hrest : LeadsThrough line nested path items) :
      LeadsThrough line list ((before + 1) :: path) (item :: items)

def Item.StartsWith (item : Item) (title : Paragraph) : Prop :=
  ∃ rest, item.children = .paragraph title :: rest

/-- Headings with the contents of paragraphs, the first one at a depth and each a level deeper than
the one before. -/
def headingsFrom (depth : Nat) : List Paragraph → List Block
  | [] => []
  | title :: rest => .heading { depth, content := title.content } :: headingsFrom (depth + 1) rest

theorem ListBlock.LeadsThrough.length_eq {line : Nat} {list : ListBlock} {path : List Nat}
    {items : List Item} (h : list.LeadsThrough line path items) : items.length = path.length := by
  induction h with
  | last => rfl
  | next hitem hnested hrest ih => rw [List.length_cons, List.length_cons, ih]

theorem list_mem_of_coveringList? {line : Nat} {blocks : List Block} {list : ListBlock}
    (h : coveringList? line blocks = some list) : .list list ∈ blocks := by
  obtain ⟨block, hblock, hlist⟩ := List.mem_filterMap.mp (List.mem_of_find?_eq_some h)
  obtain rfl := Block.list?_eq_some_iff.mp hlist
  exact hblock

theorem sublist_asSections {list : ListBlock} {item : Item} {title : Paragraph}
    {rest : List Block} (hitem : item ∈ list.items)
    (hchildren : item.children = .paragraph title :: rest) (levels depth : Nat) :
    (Block.heading { depth, content := title.content } ::
      rest.flatMap (liftNested (ListBlock.asSections levels (depth + 1)))).Sublist
        (list.asSections (levels + 1) depth) := by
  have hpart := (List.singleton_sublist.mpr hitem).flatMap fun item =>
    (liftItem depth item).flatMap (liftNested (ListBlock.asSections levels (depth + 1)))
  rw [List.flatMap_singleton, liftItem, hchildren] at hpart
  rw [asSections_succ, List.flatMap_assoc]
  exact hpart

/-- The paragraphs that the items of a place start with are headings one below the other once all
levels of the place are lifted. -/
theorem ListBlock.headingsFrom_sublist_asSections {line : Nat} {list : ListBlock}
    {path : List Nat} {items : List Item} {titles : List Paragraph}
    (hpath : list.LeadsThrough line path items)
    (htitles : List.Forall₂ Item.StartsWith items titles) {levels : Nat}
    (hlevels : path.length ≤ levels) (depth : Nat) :
    (headingsFrom depth titles).Sublist (list.asSections levels depth) := by
  induction hpath generalizing titles levels depth with
  | last hitem =>
    obtain ⟨levels, rfl⟩ : ∃ n, levels = n + 1 := ⟨levels - 1, by simp at hlevels; omega⟩
    obtain _ | ⟨⟨rest, hchildren⟩, hnil⟩ := htitles
    obtain _ | _ := hnil
    refine List.Sublist.trans ?_
      (sublist_asSections (List.mem_of_getElem? hitem) hchildren levels depth)
    exact (List.nil_sublist _).cons_cons _
  | @next list nested before item path items hitem hnested hrest ih =>
    rw [List.length_cons] at hlevels
    obtain ⟨levels, rfl⟩ : ∃ n, levels = n + 1 := ⟨levels - 1, by omega⟩
    obtain _ | ⟨⟨rest, hchildren⟩, htitles⟩ := htitles
    have hmem : .list nested ∈ rest := by
      have hmem := list_mem_of_coveringList? hnested
      rw [hchildren] at hmem
      simpa using hmem
    have hinner := (List.singleton_sublist.mpr hmem).flatMap
      (liftNested (asSections levels (depth + 1)))
    rw [List.flatMap_singleton] at hinner
    refine List.Sublist.trans ?_
      (sublist_asSections (List.mem_of_getElem? hitem) hchildren levels depth)
    exact ((ih htitles (Nat.le_of_succ_le_succ hlevels) (depth + 1)).trans hinner).cons_cons _

/-- If the items that the place of a line leads through start with paragraphs and there is a depth
left for each of them, the paragraphs are headings below the heading above the list once the list is
lifted at the line, in order and each a level deeper. This holds even if the line is not in the last
of the items. What stands before the list and behind it stays as it was. -/
theorem Document.headingsFrom_sublist_listToHeading {document : Document} {line : Nat}
    {state : LineState} {list : ListBlock} {items : List Item} {titles : List Paragraph}
    (hstate : document.lineState? line = some state)
    (hlist : document[state.blockIndex]? = some (.list list))
    (hpath : list.LeadsThrough line state.listPath items)
    (htitles : List.Forall₂ Item.StartsWith items titles)
    (hdepth : state.headings.depth + state.listDepth ≤ maxHeadingDepth) :
    ∃ lifted, document.listToHeading line =
        document.take state.blockIndex ++ lifted ++ document.drop (state.blockIndex + 1) ∧
      titles.length = state.listDepth ∧
      (headingsFrom (state.headings.depth + 1) titles).Sublist lifted := by
  refine ⟨_, listToHeading_eq hstate hlist, ?_, ?_⟩
  · rw [← htitles.length_eq, hpath.length_eq]
    rfl
  · have hlevels : state.listPath.length ≤
        min state.listDepth (maxHeadingDepth - state.headings.depth) := by
      rw [LineState.listDepth] at hdepth ⊢
      omega
    exact ListBlock.headingsFrom_sublist_asSections hpath htitles hlevels _

/-- The line is in the third level of a list under a heading, behind an item and a list that are
passed over. -/
theorem Document.headingsFrom_sublist_listToHeading_nested :
    let document : Document := [.heading ⟨2, [.text "A"], some ⟨1, 1⟩⟩,
      .list (.mk false 1 true [.mk [.paragraph (.ofText "x")] (some ⟨3, 3⟩),
        .mk [.paragraph (.ofText "a"), .list (.mk true 1 true [] (some ⟨5, 5⟩)),
          .list (.mk false 1 true [.mk [.paragraph (.ofText "b"),
            .list (.mk false 1 true [.mk [.paragraph (.ofText "c")] (some ⟨7, 7⟩)]
              (some ⟨7, 7⟩))] (some ⟨6, 7⟩)] (some ⟨6, 7⟩))] (some ⟨4, 7⟩)] (some ⟨3, 7⟩))]
    let titles : List Paragraph := [.ofText "a", .ofText "b", .ofText "c"]
    (document.lineState? 7).map LineState.listPath = some [2, 1, 1] ∧
      ∃ lifted, document.listToHeading 7 = document.take 1 ++ lifted ++ document.drop 2 ∧
        titles.length = 3 ∧ (headingsFrom 3 titles).Sublist lifted := by
  intro document titles
  have hstate : document.lineState? 7 =
      some ⟨⟨[1, 1, 0, 0, 0, 0], 2⟩, [2, 1, 1], 1, .list⟩ := by decide
  refine ⟨by rw [hstate]; rfl, ?_⟩
  exact headingsFrom_sublist_listToHeading hstate rfl (.next rfl rfl (.next rfl rfl (.last rfl)))
    (.cons ⟨_, rfl⟩ (.cons ⟨_, rfl⟩ (.cons ⟨_, rfl⟩ .nil))) (by decide)

end MarkdownOutline
