import MarkdownOutline.Proofs.HeadingNumbers
import MarkdownOutline.Proofs.OwnedLines

/-!
# Reported and written numbers

The state of a line counts the headings up to the block that the line belongs to, and formatting
counts all of them and writes as it goes. At each heading the two counts are the same, so what is
written in front of its title are counters reported for its first line, and blocks that are no
headings are reported with those of the heading above them.
-/

namespace MarkdownOutline

/-- The counters of the levels from one to another, both included. -/
def HeadingCounters.between (counters : HeadingCounters) (first last : Nat) : List Nat :=
  (counters.slots.drop first).take (last + 1 - first)

structure Document.IsHeadingAbove (document : Document) (above index : Nat) (heading : Heading) :
    Prop where
  before : above < index
  heading : document[above]? = some (.heading heading)
  nearest : ∀ k, above < k → k < index → document[k]?.bind Block.heading? = none

theorem foldl_pass_take_succ {blocks : List Block} {index : Nat} {block : Block}
    (hblock : blocks[index]? = some block) (counters : HeadingCounters) :
    (blocks.take (index + 1)).foldl HeadingCounters.pass counters =
      ((blocks.take index).foldl HeadingCounters.pass counters).pass block := by
  rw [List.take_add_one, hblock, List.foldl_append]
  rfl

theorem foldl_pass_take_succ_of_heading?_none {blocks : List Block} {index : Nat} {block : Block}
    (hblock : blocks[index]? = some block) (hnone : block.heading? = none)
    (counters : HeadingCounters) :
    (blocks.take (index + 1)).foldl HeadingCounters.pass counters =
      (blocks.take index).foldl HeadingCounters.pass counters := by
  rw [foldl_pass_take_succ hblock, HeadingCounters.pass, Block.headingDepth?, hnone]
  rfl

theorem foldl_pass_take_eq {blocks : List Block} {low high : Nat} (hle : low ≤ high)
    (hnone : ∀ k, low ≤ k → k < high → blocks[k]?.bind Block.heading? = none)
    (counters : HeadingCounters) :
    (blocks.take high).foldl HeadingCounters.pass counters =
      (blocks.take low).foldl HeadingCounters.pass counters := by
  induction high, hle using Nat.le_induction with
  | base => rfl
  | succ high hlow ih =>
    have hrest := ih fun k hk hhigh => hnone k hk (Nat.lt_succ_of_lt hhigh)
    cases hblock : blocks[high]? with
    | none => rw [List.take_add_one, hblock, Option.toList_none, List.append_nil, hrest]
    | some block =>
      have hheading := hnone high hlow (Nat.lt_succ_self high)
      rw [hblock, Option.bind_some] at hheading
      rw [foldl_pass_take_succ_of_heading?_none hblock hheading, hrest]

theorem HeadingCounters.pass_heading_depth (counters : HeadingCounters) {heading : Heading}
    (hdepth : 1 ≤ heading.depth ∧ heading.depth ≤ maxHeadingDepth) :
    (counters.pass (.heading heading)).depth = heading.depth := by
  have hclamp : (counters.pass (.heading heading)).depth =
      min (max heading.depth 1) maxHeadingDepth := rfl
  omega

namespace Document

theorem lineState?_eq {document : Document} {index line : Nat} {block : Block}
    (howns : document.OwnsLine index line) (hblock : document[index]? = some block) :
    document.lineState? line = some ⟨(document.take (index + 1)).foldl HeadingCounters.pass {},
      block.path line, index, block.kind⟩ := by
  have hstate := lineStateFrom_eq howns hblock {} 0
  rwa [Nat.zero_add] at hstate

/-- A heading is numbered after the blocks before it are counted. -/
theorem numberBlocks_getElem? (numbering : HeadingNumbering) (lists : ListNumbering)
    (counters : HeadingCounters) {blocks : List Block} {index : Nat} {heading : Heading}
    (hheading : blocks[index]? = some (.heading heading)) :
    (numberBlocks numbering lists counters blocks)[index]? = some (.heading
      (numbering.observe ((blocks.take index).foldl HeadingCounters.pass counters) heading).2) := by
  induction blocks generalizing index counters with
  | nil => simp at hheading
  | cons block rest ih =>
    cases index with
    | zero =>
      obtain rfl : block = .heading heading := Option.some.inj hheading
      rfl
    | succ index =>
      have hrest := ih (counters.pass block) hheading
      rw [List.take_succ_cons, List.foldl_cons, ← hrest]
      cases block with
      | heading h =>
        have hcounted : (numbering.observe counters h).1 = counters.pass (.heading h) :=
          numbering.observe_counters counters h
        rw [← hcounted]
        rfl
      | list l => rfl
      | paragraph p => rfl
      | other m span => rfl

theorem formatIndex_getElem? {document : Document} {index top : Nat} {heading : Heading}
    (hheading : document[index]? = some (.heading heading))
    (hdepth : 1 ≤ heading.depth ∧ heading.depth ≤ maxHeadingDepth)
    (htop : document.headingDepths.min? = some top) (level : Nat) (lists : ListNumbering) :
    (document.formatIndex ⟨.depth level, lists⟩)[index]? = some (.heading { heading with
      content := HeadingNumbering.renumber
        (dotted (((document.take (index + 1)).foldl HeadingCounters.pass {}).between
          (max level top) heading.depth)) heading.content }) := by
  rw [formatIndex, numberBlocks_getElem? _ lists {} hheading, foldl_pass_take_succ hheading]
  generalize (document.take index).foldl HeadingCounters.pass {} = counters
  have hcounted : (counters.advance heading.depth).depth = heading.depth :=
    counters.pass_heading_depth hdepth
  simp only [HeadingNumbering.observe, HeadingNumbering.indexPrefix, HeadingNumbering.firstLevel,
    depthRange?_map_min, htop, Option.getD_some, HeadingCounters.number, hcounted]
  rfl

theorem exists_min?_headingDepths {document : Document} {index : Nat} {heading : Heading}
    (hheading : document[index]? = some (.heading heading)) :
    ∃ top, document.headingDepths.min? = some top := by
  apply Option.isSome_iff_exists.mp
  apply List.isSome_min?_of_mem (a := heading.depth)
  exact List.mem_filterMap.mpr ⟨_, List.mem_of_getElem? hheading, rfl⟩

/-- The number written in front of a title when numbers start at a level are the counters reported
for the first line of its heading, from that level or that of the highest heading down to its own,
whether the line is looked up before or after. The counters reported for the lines of another block
are those of the heading above it, or all zero. -/
theorem written_number_isReported (document : Document) (level : Nat) (lists : ListNumbering)
    (hdepths : ∀ depth ∈ document.headingDepths, 1 ≤ depth ∧ depth ≤ maxHeadingDepth)
    (hstarts : document.HeadingsOwnStarts) :
    (∀ (index : Nat) (heading : Heading) (span : Span), document[index]? = some (.heading heading) →
      heading.span = some span → ∃ state top, document.lineState? span.first = some state ∧
        (document.formatIndex ⟨.depth level, lists⟩).lineState? span.first = some state ∧
        document.headingDepths.min? = some top ∧ state.headings.depth = heading.depth ∧
        (document.formatIndex ⟨.depth level, lists⟩)[index]? = some (.heading { heading with
          content := HeadingNumbering.renumber (if max level top ≤ heading.depth then
            dotted (state.headings.between (max level top) heading.depth) else "")
              heading.content })) ∧
    ∀ (index : Nat) block line, document[index]? = some block → block.heading? = none →
      document.OwnsLine index line → ∃ state, document.lineState? line = some state ∧
        (document.formatIndex ⟨.depth level, lists⟩).lineState? line = some state ∧
        (∀ above heading, document.IsHeadingAbove above index heading → ∃ span stateAbove,
          heading.span = some span ∧ document.lineState? span.first = some stateAbove ∧
            state.headings = stateAbove.headings) ∧
        ((∀ k < index, document[k]?.bind Block.heading? = none) →
          state.headings.slots = List.replicate (maxHeadingDepth + 1) 0 ∧
            state.headings.depth = 0) := by
  constructor
  · intro index heading span hheading hspan
    obtain ⟨found, hfound, howns⟩ := hstarts index heading hheading
    obtain rfl : span = found := Option.some.inj (hspan.symm.trans hfound)
    have hdepth : 1 ≤ heading.depth ∧ heading.depth ≤ maxHeadingDepth := by
      apply hdepths
      exact List.mem_filterMap.mpr ⟨_, List.mem_of_getElem? hheading, rfl⟩
    have hstate := lineState?_eq howns hheading
    obtain ⟨top, htop⟩ := exists_min?_headingDepths hheading
    refine ⟨_, top, hstate, (document.lineState?_formatIndex _ _).trans hstate, htop, ?_, ?_⟩
    · rw [foldl_pass_take_succ hheading]
      exact HeadingCounters.pass_heading_depth _ hdepth
    · rw [formatIndex_getElem? hheading hdepth htop]
      split
      · rfl
      next hdeeper =>
        rw [HeadingCounters.between, Nat.sub_eq_zero_of_le (by omega), List.take_zero]
        rfl
  · intro index block line hblock hnone howns
    have hstate := lineState?_eq howns hblock
    rw [foldl_pass_take_succ_of_heading?_none hblock hnone] at hstate
    refine ⟨_, hstate, (document.lineState?_formatIndex _ _).trans hstate, ?_, ?_⟩
    · intro above heading habove
      obtain ⟨span, hspan, hstart⟩ := hstarts above heading habove.heading
      exact ⟨span, _, hspan, lineState?_eq hstart habove.heading,
        foldl_pass_take_eq habove.before habove.nearest {}⟩
    · intro hfirst
      have hzero : (document.take index).foldl HeadingCounters.pass {} = {} :=
        foldl_pass_take_eq (Nat.zero_le _) (fun k _ hk => hfirst k hk) {}
      rw [hzero]
      exact ⟨rfl, rfl⟩

/-- The highest heading has depth 2, level 3 is skipped once, and a paragraph stands in front. -/
theorem written_number_isReported_skipping :
    let document : Document := [.paragraph ⟨[.text "p"], some ⟨1, 1⟩⟩,
      .heading ⟨2, [.text "a"], some ⟨3, 3⟩⟩, .heading ⟨4, [.text "9. b"], some ⟨5, 5⟩⟩,
      .heading ⟨3, [.text "c"], some ⟨6, 6⟩⟩, .other (.leaf .thematicBreak) (some ⟨8, 8⟩)]
    let formatted := document.formatIndex ⟨.depth 1, .disabled⟩
    (∀ depth ∈ document.headingDepths, 1 ≤ depth ∧ depth ≤ maxHeadingDepth) ∧
      document.HeadingsOwnStarts ∧
      (∃ state top, document.lineState? 5 = some state ∧ formatted.lineState? 5 = some state ∧
        document.headingDepths.min? = some top ∧ state.headings.depth = 4 ∧
        formatted[2]? = some (.heading ⟨4, HeadingNumbering.renumber (if max 1 top ≤ 4 then
          dotted (state.headings.between (max 1 top) 4) else "") [.text "9. b"], some ⟨5, 5⟩⟩)) ∧
      document.lineState? 8 = some ⟨⟨[1, 1, 2, 0, 0, 0], 3⟩, [], 4, .other⟩ ∧
      (formatted.topHeadings.map Heading.rawTitle) = ["1. a", "1.1.1. b", "1.2. c"] := by
  intro document formatted
  have hdepths : ∀ depth ∈ document.headingDepths, 1 ≤ depth ∧ depth ≤ maxHeadingDepth := by decide
  have hstarts : document.HeadingsOwnStarts := by decide
  obtain ⟨hheadings, -⟩ := written_number_isReported document 1 .disabled hdepths hstarts
  exact ⟨hdepths, hstarts, hheadings 2 _ ⟨5, 5⟩ rfl rfl, by decide, by decide⟩

end Document

end MarkdownOutline
