import MarkdownOutline.Proofs.LineLifts
import MarkdownOutline.Proofs.ReadDepths
import MarkdownOutline.Proofs.ReportedNumbers
import MarkdownOutline.Proofs.SectionMembers

/-!
# The depths of lifted headings

A list is lifted below the heading above it: every heading that is made of a paragraph is deeper. A
heading that stood in an item comes to the top as it is, so it may be as high as the heading above
the list or higher, and then it ends sections that the list only stood in.
-/

namespace MarkdownOutline

/-- The depth of the nearest heading before an index, 0 if there is none. -/
def Document.depthAbove (document : Document) (index : Nat) : Nat :=
  (headingDepths (document.take index)).getLast?.getD 0

theorem headingDepths_append (front back : List Block) :
    Document.headingDepths (front ++ back) =
      Document.headingDepths front ++ Document.headingDepths back := List.filterMap_append

theorem foldl_pass_depth (blocks : List Block)
    (hdepths : ∀ depth ∈ Document.headingDepths blocks, 1 ≤ depth ∧ depth ≤ maxHeadingDepth) :
    (blocks.foldl HeadingCounters.pass {}).depth =
      (Document.headingDepths blocks).getLast?.getD 0 := by
  induction blocks using List.reverseRecOn with
  | nil => rfl
  | append_singleton blocks block ih =>
    rw [headingDepths_append] at hdepths ⊢
    have hfront := ih fun depth hdepth => hdepths depth (List.mem_append_left _ hdepth)
    rw [List.foldl_append]
    cases block with
    | heading h =>
      have hown : 1 ≤ h.depth ∧ h.depth ≤ maxHeadingDepth :=
        hdepths h.depth (List.mem_append_right _ List.mem_cons_self)
      exact (HeadingCounters.pass_heading_depth _ hown).trans (by simp [Document.headingDepths])
    | _ => simpa [Document.headingDepths, HeadingCounters.pass, Block.headingDepth?,
        Block.heading?] using hfront

theorem Document.headingDepths_inRange {document : Document}
    (h : DepthsInRange document.headings) :
    ∀ depth ∈ document.headingDepths, 1 ≤ depth ∧ depth ≤ maxHeadingDepth := by
  intro depth hdepth
  obtain ⟨block, hblock, hblockDepth⟩ := List.mem_filterMap.mp hdepth
  obtain ⟨heading, rfl, rfl⟩ := Block.headingDepth?_eq_some_iff.mp hblockDepth
  exact h heading (mem_blockHeadings.mpr ⟨_, hblock, List.mem_singleton_self _⟩)

theorem Document.depth_eq_depthAbove {document : Document} {line : Nat} {state : LineState}
    {list : ListBlock} (hdepths : DepthsInRange document.headings)
    (hstate : document.lineState? line = some state)
    (hlist : document[state.blockIndex]? = some (.list list)) :
    state.headings.depth = document.depthAbove state.blockIndex := by
  have howns := ownsLine_of_lineState? hstate
  have hsame := Option.some.inj (hstate.symm.trans (lineState?_eq howns hlist))
  have hheadings := congrArg LineState.headings hsame
  rw [foldl_pass_take_succ hlist] at hheadings
  rw [hheadings]
  refine foldl_pass_depth _ fun depth hdepth => headingDepths_inRange hdepths depth ?_
  exact ((List.take_sublist _ _).filterMap _).subset hdepth

/-- A heading whose section goes on up to an index is no deeper than the heading above the index. -/
theorem Document.InSection.depth_le_depthAbove {document : Document} {above index : Nat}
    {h : Heading} (hin : document.InSection above index)
    (hheading : document[above]? = some (.heading h)) : h.depth ≤ document.depthAbove index := by
  obtain ⟨hlt, hbelow⟩ := hin
  have hinner : ∀ depth ∈ headingDepths ((document.take index).drop (above + 1)),
      h.depth < depth := by
    intro depth hdepth
    obtain ⟨block, hblock, hblockDepth⟩ := List.mem_filterMap.mp hdepth
    obtain ⟨g, rfl, rfl⟩ := Block.headingDepth?_eq_some_iff.mp hblockDepth
    obtain ⟨k, hk⟩ := List.mem_iff_getElem?.mp hblock
    rw [List.getElem?_drop, List.getElem?_take] at hk
    split at hk
    next hhigh =>
      obtain ⟨h', block, hh', hblock, hdeeper⟩ :=
        hbelow (above + 1 + k) (by omega) (Nat.le_of_lt hhigh)
      obtain rfl : h = h' := by simpa [hheading] using hh'
      obtain rfl : .heading g = block := Option.some.inj (hk.symm.trans hblock)
      simpa using hdeeper
    next => cases hk
  have hfront : (document.take index)[above]? = some (.heading h) := by
    rw [List.getElem?_take_of_lt hlt, hheading]
  have hcons (rest : List Block) : headingDepths (.heading h :: rest) =
      h.depth :: headingDepths rest := rfl
  rw [depthAbove, ← take_append_cons_drop hfront, headingDepths_append, hcons,
    List.getLast?_append, List.getLast?_cons]
  cases hlast : (headingDepths ((document.take index).drop (above + 1))).getLast? with
  | none => exact Nat.le_refl _
  | some depth => exact Nat.le_of_lt (hinner depth (List.mem_of_getLast? hlast))

/-- The index of a block once the block at another index is replaced by a number of blocks. -/
def indexAfter (index count k : Nat) : Nat := if k < index then k else k - 1 + count

theorem indexAfter_lt_iff {index count j k : Nat} (hj : j ≠ index) (hk : k ≠ index) :
    indexAfter index count j < indexAfter index count k ↔ j < k := by
  unfold indexAfter
  split <;> split <;> omega

theorem exists_indexAfter_eq {index count i : Nat} (hi : ¬ (index ≤ i ∧ i < index + count)) :
    ∃ k, k ≠ index ∧ indexAfter index count k = i := by
  by_cases hlt : i < index
  · exact ⟨i, by omega, if_pos hlt⟩
  · refine ⟨i - count + 1, by omega, ?_⟩
    rw [indexAfter, if_neg (by omega)]
    omega

namespace Document

variable {before lifted after : List Block}

theorem getElem?_indexAfter (block : Block) {k : Nat} (hk : k ≠ before.length) :
    (before ++ lifted ++ after)[indexAfter before.length lifted.length k]? =
      (before ++ block :: after)[k]? := by
  unfold indexAfter
  rcases Nat.lt_or_gt_of_ne hk with hlt | hgt
  · rw [if_pos hlt, List.append_assoc, List.getElem?_append_left hlt,
      List.getElem?_append_left hlt]
  · obtain ⟨k, rfl⟩ := Nat.exists_eq_add_of_lt hgt
    rw [if_neg (by omega), List.getElem?_append_right (by simp),
      List.getElem?_append_right (by omega), List.length_append,
      show before.length + k + 1 - 1 + lifted.length - (before.length + lifted.length) = k by omega,
      show before.length + k + 1 - before.length = k + 1 by omega, List.getElem?_cons_succ]

theorem standsBelow_indexAfter (block : Block) {above k : Nat} (habove : above ≠ before.length)
    (hk : k ≠ before.length) :
    StandsBelow (before ++ lifted ++ after) (indexAfter before.length lifted.length above)
        (indexAfter before.length lifted.length k) ↔
      StandsBelow (before ++ block :: after) above k := by
  unfold StandsBelow
  rw [getElem?_indexAfter block habove, getElem?_indexAfter block hk]

/-- The blocks around a block that is no heading stay in their sections when it is replaced, if all
that takes its place stands below the headings whose sections it is in. -/
theorem inSection_indexAfter {block : Block} (hblock : block.heading? = none) {above k : Nat}
    (habove : above ≠ before.length) (hk : k ≠ before.length)
    (hlifted : ∀ h, (before ++ block :: after)[above]? = some (.heading h) →
      InSection (before ++ block :: after) above before.length →
        ∀ b ∈ lifted, b.isBelow h.depth = true) :
    InSection (before ++ lifted ++ after) (indexAfter before.length lifted.length above)
        (indexAfter before.length lifted.length k) ↔
      InSection (before ++ block :: after) above k := by
  constructor
  · rintro ⟨hlt, hbelow⟩
    have hfar := (standsBelow_indexAfter block habove hk).mp (hbelow _ hlt (Nat.le_refl _))
    obtain ⟨h, -, hheading, -, -⟩ := hfar
    refine ⟨(indexAfter_lt_iff habove hk).mp hlt, fun i hlow hhigh => ?_⟩
    by_cases hi : i = before.length
    · -- the block that is replaced is no heading
      refine ⟨h, block, hheading, by simp [hi], ?_⟩
      simp [Block.isBelow, Block.headingDepth?, hblock]
    · refine (standsBelow_indexAfter block habove hi).mp (hbelow _ ?_ ?_)
      · exact (indexAfter_lt_iff habove hi).mpr hlow
      · exact Nat.le_of_not_lt fun hgt => absurd ((indexAfter_lt_iff hk hi).mp hgt) (by omega)
  · rintro ⟨hlt, hbelow⟩
    refine ⟨(indexAfter_lt_iff habove hk).mpr hlt, fun i hlow hhigh => ?_⟩
    by_cases hi : before.length ≤ i ∧ i < before.length + lifted.length
    · obtain ⟨hleft, hright⟩ := hi
      obtain ⟨i, rfl⟩ := Nat.exists_eq_add_of_le hleft
      -- the section reaches over the replaced block
      have hover : above < before.length ∧ before.length < k := by
        unfold indexAfter at hlow hhigh
        split at hlow <;> split at hhigh <;> omega
      have hown : InSection (before ++ block :: after) above before.length :=
        ⟨hover.1, fun j hj hle => hbelow j hj (by omega)⟩
      obtain ⟨h, -, hheading, -, -⟩ := hbelow k hlt (Nat.le_refl _)
      refine ⟨h, lifted[i], ?_, ?_, hlifted h hheading hown _ (List.getElem_mem _)⟩
      · rw [getElem?_indexAfter block habove, hheading]
      · rw [List.append_assoc, List.getElem?_append_right hleft, Nat.add_sub_cancel_left,
          List.getElem?_append_left (by omega), List.getElem?_eq_getElem]
    · obtain ⟨j, hj, rfl⟩ := exists_indexAfter_eq hi
      refine (standsBelow_indexAfter block habove hj).mpr (hbelow j ?_ ?_)
      · exact (indexAfter_lt_iff habove hj).mp hlow
      · exact Nat.le_of_not_lt fun hgt =>
          absurd ((indexAfter_lt_iff hk hj).mpr hgt) (Nat.not_lt.mpr hhigh)

end Document

theorem topHeadings_cons (block : Block) (rest : List Block) :
    Document.topHeadings (block :: rest) =
      block.heading?.toList ++ Document.topHeadings rest := by
  cases block <;> rfl

theorem isBelow_of_topHeadings {depth : Nat} {blocks : List Block}
    (h : ∀ g ∈ Document.topHeadings blocks, depth < g.depth) :
    ∀ block ∈ blocks, block.isBelow depth = true := by
  intro block hblock
  cases block with
  | heading g =>
    have hg : g ∈ Document.topHeadings blocks := List.mem_filterMap.mpr ⟨_, hblock, rfl⟩
    simpa using h g hg
  | _ => rfl

theorem lt_topHeadings_iff_of_isLifted {above depth levels : Nat} {blocks lifted : List Block}
    (hdepth : above < depth) (hlifted : List.Forall₂ (Block.IsLifted depth levels) blocks lifted) :
    (∀ h ∈ Document.topHeadings lifted, above < h.depth) ↔
      ∀ h ∈ Document.topHeadings blocks, above < h.depth := by
  induction hlifted with
  | nil => rfl
  | @cons block made blocks lifted hblock _ ih =>
    rw [topHeadings_cons, topHeadings_cons, List.forall_mem_append, List.forall_mem_append, ih]
    obtain rfl | ⟨p, h, rfl, rfl, -, hle, -⟩ := hblock
    · rfl
    · have hdeep : above < h.depth := Nat.lt_of_lt_of_le hdepth hle
      simp [Block.heading?, hdeep]

theorem ListBlock.length_path_pos (list : ListBlock) (line : Nat) : 0 < (list.path line).length := by
  rw [path, show maxListDepth = 5 + 1 from rfl, pathWithin]
  split <;> simp

namespace Document

theorem topHeadings_lifted_le {document : Document} {line : Nat} {front lifted back : List Block}
    (hdepths : DepthsInRange document.headings)
    (hlift : document.listToHeading line = front ++ lifted ++ back) :
    ∀ h ∈ topHeadings lifted, h.depth ≤ maxHeadingDepth := by
  intro h hmem
  obtain ⟨block, hblock, hheading⟩ := List.mem_filterMap.mp hmem
  obtain rfl := Block.heading?_eq_some_iff.mp hheading
  have hafter := document.listToHeading_depthsInRange line hdepths
  rw [hlift] at hafter
  refine (hafter h (mem_blockHeadings.mpr ⟨.heading h, ?_, List.mem_singleton_self h⟩)).2
  exact List.mem_append_left _ (List.mem_append_right _ hblock)

/-- The blocks around a list stay in their sections when it is replaced, if the headings that take
its place are deeper than the heading above it. -/
theorem inSection_replaced {document : Document} {index : Nat} {list : ListBlock}
    {lifted : List Block} (hlist : document[index]? = some (.list list))
    (hlifted : ∀ h ∈ topHeadings lifted, document.depthAbove index < h.depth) {i j : Nat}
    (hi : i ≠ index) (hj : j ≠ index) :
    InSection (document.take index ++ lifted ++ document.drop (index + 1))
        (indexAfter index lifted.length i) (indexAfter index lifted.length j) ↔
      document.InSection i j := by
  have hsame := @inSection_indexAfter (document.take index) lifted (document.drop (index + 1))
    (.list list) rfl i j
  rw [length_take_of_getElem? hlist, take_append_cons_drop hlist] at hsame
  refine hsame hi hj fun h hheading hin => isBelow_of_topHeadings fun g hg => ?_
  exact Nat.lt_of_le_of_lt (hin.depth_le_depthAbove hheading) (hlifted g hg)

/-- When a list of a text is lifted, all headings that take its place are deeper than the heading
above it and can be written, exactly if no heading that stood in the opened items is as high as that
one. In that case the blocks around the list belong to the same sections as before, apart from
sections of the lifted headings. -/
theorem lifted_below_iff (text : String) {line : Nat} {state : LineState} {list : ListBlock}
    (hstate : (ofMarkdown text).lineState? line = some state)
    (hlist : (ofMarkdown text)[state.blockIndex]? = some (.list list))
    (hlevel : (ofMarkdown text).depthAbove state.blockIndex < maxHeadingDepth) :
    let document := ofMarkdown text
    let index := state.blockIndex
    let above := document.depthAbove index
    let levels := min state.listDepth (maxHeadingDepth - above)
    0 < levels ∧ ∃ lifted,
      document.listToHeading line = document.take index ++ lifted ++ document.drop (index + 1) ∧
      ((∀ h ∈ topHeadings lifted, above < h.depth ∧ h.depth ≤ maxHeadingDepth) ↔
        ∀ h ∈ topHeadings (list.opened levels), above < h.depth) ∧
      ((∀ h ∈ topHeadings (list.opened levels), above < h.depth) →
        ∀ i j, i ≠ index → j ≠ index →
          (InSection (document.listToHeading line) (indexAfter index lifted.length i)
            (indexAfter index lifted.length j) ↔ document.InSection i j)) := by
  intro document index above levels
  have hdepths : DepthsInRange document.headings := ofMarkdown_depthsInRange text
  have hlift := listToHeading_eq hstate hlist
  rw [depth_eq_depthAbove hdepths hstate hlist] at hlift
  have hpath : state.listPath = list.path line := by
    have hsame := lineState?_eq (ownsLine_of_lineState? hstate) hlist
    exact congrArg LineState.listPath (Option.some.inj (hstate.symm.trans hsame))
  have hlevels : 0 < levels := by
    have hpos : 0 < state.listDepth := by
      rw [LineState.listDepth, hpath]
      exact list.length_path_pos line
    exact Nat.lt_min.mpr ⟨hpos, Nat.sub_pos_of_lt hlevel⟩
  have hdeeper := lt_topHeadings_iff_of_isLifted (Nat.lt_succ_self above)
    (list.forall₂_opened_asSections levels (above + 1))
  refine ⟨hlevels, _, hlift, ?_, fun hopened i j hi hj => ?_⟩
  · rw [← hdeeper]
    refine ⟨fun h g hg => (h g hg).1, fun h g hg => ⟨h g hg, ?_⟩⟩
    exact topHeadings_lifted_le hdepths hlift g hg
  · rw [hlift]
    exact inSection_replaced hlist (hdeeper.mpr hopened) hi hj

/-- Two levels are lifted, and a deeper heading that stood in an item comes to the top with them: the
paragraph behind the list stays in its section. -/
theorem lifted_below_iff_deeper :
    let text := "# A\n\n- a\n  - b\n- ### c\n\nx\n"
    ∃ lifted, (ofMarkdown text).listToHeading 4 =
        (ofMarkdown text).take 1 ++ lifted ++ (ofMarkdown text).drop 2 ∧
      (∀ h ∈ topHeadings lifted, 1 < h.depth ∧ h.depth ≤ maxHeadingDepth) ∧
      InSection ((ofMarkdown text).listToHeading 4) 0 (1 + lifted.length) := by
  intro text
  have hstate : (ofMarkdown text).lineState? 4 =
      some ⟨⟨[1, 0, 0, 0, 0, 0], 1⟩, [1, 1], 1, .list⟩ := by decide +kernel
  have habove : (ofMarkdown text).depthAbove 1 = 1 := by decide +kernel
  have hstays : (ofMarkdown text).InSection 0 2 := by decide +kernel
  have hisList : ((ofMarkdown text)[1]?.bind Block.list?).isSome := by decide +kernel
  have hopened : ((ofMarkdown text)[1]?.bind Block.list?).all fun list =>
      (topHeadings (list.opened 2)).all (1 < ·.depth) := by decide +kernel
  clear_value text
  obtain ⟨list, hlist⟩ := Option.isSome_iff_exists.mp hisList
  have hdeeper : ∀ h ∈ topHeadings (list.opened 2), 1 < h.depth := by simpa [hlist] using hopened
  obtain ⟨block, hblock, hkind⟩ := Option.bind_eq_some_iff.mp hlist
  obtain rfl := Block.list?_eq_some_iff.mp hkind
  obtain ⟨-, lifted, hlift, hbelow, hsections⟩ :=
    lifted_below_iff text hstate hblock (by simp only [habove]; decide)
  simp only [habove] at hbelow hsections
  refine ⟨lifted, hlift, hbelow.mpr hdeeper, ?_⟩
  exact (hsections hdeeper 0 2 (by decide) (by decide)).mpr hstays

/-- A heading that stands in an item as high as the heading above the list ends the section that the
paragraph behind the list was in. -/
theorem lifted_not_below :
    let document := ofMarkdown "# A\n\n- # B\n\nx\n"
    (document.lineState? 3).map LineState.listDepth = some 1 ∧ document.depthAbove 1 = 1 ∧
      headingDepths (document.listToHeading 3) = [1, 1] ∧ document.InSection 0 2 ∧
      ¬ InSection (document.listToHeading 3) 0 2 := by
  decide +kernel

end Document

end MarkdownOutline
