import MarkdownOutline.Proofs.FormatTwice

/-!
# Titles under other numbers

A number that is written replaces the one written before, so the last formatting decides, and the
title behind the number stays. Two things go wrong with titles. White space can hide a number, which
comes to light when it is gone. And a number in front of content that does not start with text is a
text of its own: the first of the heading, where its title is looked for.
-/

namespace MarkdownOutline

/-- The heading starts with text. Its number is written into it. -/
def Heading.StartsWithText (heading : Heading) : Prop :=
  ∃ title rest, heading.content = .text title :: rest

/-- The heading starts with text whose first character is white space. -/
def Heading.StartsBlank (heading : Heading) : Prop :=
  ∃ title rest, heading.content = .text title :: rest ∧ title.toList.head?.any Text.isBlank = true

instance (heading : Heading) : Decidable heading.StartsBlank :=
  decidable_of_iff ((heading.content.head?.bind Inline.text?).any fun title =>
      title.toList.head?.any Text.isBlank) <| by
    obtain ⟨depth, content, span⟩ := heading
    rcases content with _ | ⟨inline, rest⟩
    · simp [Heading.StartsBlank]
    · cases inline <;> simp [Heading.StartsBlank, Inline.text?]

def IndexFrom.numbers (depth : Nat) : IndexFrom → Bool
  | .depth level => level ≤ depth
  | .never => false

theorem Heading.plainTitle_of_text {heading : Heading} {title : String} {rest : List Inline}
    (h : heading.content = .text title :: rest) : heading.plainTitle = stripIndexPrefix title := by
  rw [plainTitle, rawTitle, firstText?, h]
  rfl

theorem Heading.HidesNumber.startsWithText {heading : Heading} (h : heading.HidesNumber) :
    heading.StartsWithText := by
  obtain ⟨title, rest, hcontent, -⟩ := h
  exact ⟨title, rest, hcontent⟩

theorem Heading.HidesNumber.startsBlank {heading : Heading} (h : heading.HidesNumber) :
    heading.StartsBlank := by
  obtain ⟨title, rest, hcontent, hnone, hsome⟩ := h
  refine ⟨title, rest, hcontent, ?_⟩
  cases htitle : title.toList with
  | nil => simp [htitle, afterNumberGroup?] at hsome
  | cons c s =>
    -- without white space in front nothing is dropped
    rw [List.head?_cons, Option.any_some]
    by_contra hblank
    rw [htitle] at hnone hsome
    rw [List.dropWhile_cons, if_neg hblank, hnone] at hsome
    cases hsome

/-- The number that is written keeps the title exactly if none was hidden, and if it goes into a text
or stands in front of no title. -/
theorem HeadingNumbering.plainTitle_renumber_iff (number : List Nat) (heading : Heading) :
    { heading with content := renumber (dotted number) heading.content }.plainTitle =
        heading.plainTitle ↔
      ¬ heading.HidesNumber ∧
        (heading.StartsWithText ∨ number = [] ∨ heading.plainTitle = "") := by
  by_cases htitle : heading.StartsWithText
  · obtain ⟨title, rest, hcontent⟩ := id htitle
    have hhides : heading.HidesNumber ↔ MarkdownOutline.HidesNumber title.toList := by
      simp [Heading.HidesNumber, hcontent]
    have hafter : { heading with content := renumber (dotted number) heading.content }.plainTitle =
        stripIndexPrefix (dotted number ++ stripIndexPrefix title) := by
      rw [hcontent]
      exact Heading.plainTitle_of_text rfl
    have hstrip : stripIndexPrefix title = String.ofList (dropIndexPrefix title.toList) := rfl
    rw [hafter, Heading.plainTitle_of_text hcontent, hstrip,
      stripIndexPrefix_dotted number (dropIndexPrefix_dropWhile _), String.ofList_inj,
      dropIndexPrefix_idem_iff, hhides]
    simp [htitle]
  · have hshown : ¬ heading.HidesNumber := fun h => htitle h.startsWithText
    have hcontent : ∀ title rest, heading.content ≠ .text title :: rest :=
      fun title rest h => htitle ⟨title, rest, h⟩
    rw [renumber_of_no_title hcontent, dotted_isEmpty]
    cases number with
    | nil => simp [hshown]
    | cons n number =>
      have hafter : { heading with content := .text (dotted (n :: number)) :: heading.content
          }.plainTitle = "" := by
        rw [Heading.plainTitle_of_text rfl, stripIndexPrefix_dotted_self]
      simp only [List.isEmpty_cons, Bool.false_eq_true, if_false, hafter, hshown, htitle,
        not_false_eq_true, true_and, false_or, reduceCtorEq]
      exact eq_comm

theorem HeadingNumbering.exists_indexPrefix_eq_nil_iff (numbering : HeadingNumbering)
    (indexFrom : IndexFrom) {counters : HeadingCounters} (hsettled : counters.Settled)
    {top : Nat} (hmin : numbering.minDepth = some top) (htop : 1 ≤ top) (hle : top ≤ counters.depth) :
    ∃ number, numbering.indexPrefix indexFrom counters = dotted number ∧
      (number = [] ↔ indexFrom.numbers counters.depth = false) := by
  cases indexFrom with
  | never => exact ⟨[], rfl, by simp [IndexFrom.numbers]⟩
  | depth level =>
    have hfirst : numbering.firstLevel level = max level top := by
      rw [firstLevel, hmin, Option.getD_some]
    refine ⟨_, rfl, ?_⟩
    rw [hfirst, HeadingCounters.number_eq_drop _ _ (by omega), List.drop_eq_nil_iff,
      hsettled.path_length, IndexFrom.numbers, decide_eq_false_iff_not]
    omega

theorem HeadingNumbering.plainTitle_observe_iff (numbering : HeadingNumbering)
    {indexFrom : IndexFrom} (hfrom : numbering.indexFrom = some indexFrom)
    {counters : HeadingCounters} (hsettled : counters.Settled) {heading : Heading} {top : Nat}
    (hmin : numbering.minDepth = some top) (htop : 1 ≤ top) (hle : top ≤ heading.depth)
    (hdepth : heading.depth ≤ maxHeadingDepth) :
    (numbering.observe counters heading).2.plainTitle = heading.plainTitle ↔
      ¬ heading.HidesNumber ∧ (heading.StartsWithText ∨
        indexFrom.numbers heading.depth = false ∨ heading.plainTitle = "") := by
  have hadvanced : (counters.advance heading.depth).depth = heading.depth := by
    simp only [HeadingCounters.advance]
    omega
  obtain ⟨number, hnumber, hempty⟩ := numbering.exists_indexPrefix_eq_nil_iff indexFrom
    (hsettled.advance heading.depth) hmin htop (by omega)
  rw [hadvanced] at hempty
  rw [← hempty, ← plainTitle_renumber_iff number heading]
  simp only [observe, hfrom, hnumber]

theorem Document.headingDepths_eq_map (document : Document) :
    document.headingDepths = document.topHeadings.map (·.depth) := by
  rw [topHeadings, List.map_filterMap]
  rfl

theorem Document.numberBlocks_observe (numbering : HeadingNumbering) (lists : ListNumbering)
    {counters : HeadingCounters} (hcounters : counters.Settled) (blocks : List Block) :
    List.Forall₂ (fun before after : Heading => ∃ counters : HeadingCounters, counters.Settled ∧
        after = (numbering.observe counters before).2)
      (topHeadings blocks) (topHeadings (numberBlocks numbering lists counters blocks)) := by
  induction blocks generalizing counters with
  | nil => exact .nil
  | cons block rest ih =>
    cases block with
    | heading h =>
      have hnext := hcounters.advance h.depth
      rw [← numbering.observe_counters counters h] at hnext
      exact .cons ⟨counters, hcounters, rfl⟩ (ih hnext)
    | paragraph p => exact ih hcounters
    | list l => exact ih hcounters
    | other m span => exact ih hcounters

/-- Formatting keeps the title of a heading exactly if white space hid no number in front of it, and
if the heading starts with text or gets no number or has no title. -/
theorem Document.plainTitle_formatIndex_iff (document : Document) (options : FormatOptions)
    (hdepths : ∀ depth ∈ document.headingDepths, 1 ≤ depth ∧ depth ≤ maxHeadingDepth) :
    List.Forall₂ (fun before after : Heading => after.plainTitle = before.plainTitle ↔
        ¬ before.HidesNumber ∧ (before.StartsWithText ∨
          options.indexFrom.numbers before.depth = false ∨ before.plainTitle = ""))
      document.topHeadings (document.formatIndex options).topHeadings := by
  have hobserved := numberBlocks_observe
    ⟨some options.indexFrom, document.depthRange?.map (·.min)⟩ options.lists
    HeadingCounters.settled_start document
  refine (((List.forall₂_and_left document.topHeadings _).mpr
    ⟨fun h hh => hh, hobserved⟩).imp ?_)
  rintro before after ⟨hbefore, counters, hsettled, rfl⟩
  have hmem : before.depth ∈ document.headingDepths := by
    rw [headingDepths_eq_map]
    exact List.mem_map_of_mem hbefore
  obtain ⟨top, htop⟩ := Option.isSome_iff_exists.mp (List.isSome_min?_of_mem hmem)
  obtain ⟨htopMem, hleast⟩ := List.min?_eq_some_iff.mp htop
  exact HeadingNumbering.plainTitle_observe_iff _ rfl hsettled
    ((document.depthRange?_map_min).trans htop) (hdepths top htopMem).1 (hleast _ hmem)
    (hdepths _ hmem).2

theorem Document.plainTitle_formatIndex_iff_markup :
    let document : Document := [.heading ⟨2, [.text "7. a"], none⟩,
      .heading ⟨3, [.softBreak, .text "b"], none⟩, .heading ⟨1, [.text " 1. c"], none⟩]
    (∀ depth ∈ document.headingDepths, 1 ≤ depth ∧ depth ≤ maxHeadingDepth) ∧
      List.Forall₂ (fun before after : Heading => after.plainTitle = before.plainTitle ↔
          ¬ before.HidesNumber ∧ (before.StartsWithText ∨
            (IndexFrom.depth 3).numbers before.depth = false ∨ before.plainTitle = ""))
        document.topHeadings (document.formatIndex ⟨.depth 3, .disabled⟩).topHeadings :=
  ⟨by decide, plainTitle_formatIndex_iff _ ⟨.depth 3, .disabled⟩ (by decide)⟩

/-- The title behind a number in front of emphasis is not found, and the number behind a non-breaking
space is found once the space is gone. -/
theorem Document.plainTitle_formatIndex_ne :
    ((ofMarkdown "# *a* b\n").formatIndex ⟨.depth 1, .disabled⟩).topHeadings.map
        Heading.plainTitle ≠ (ofMarkdown "# *a* b\n").topHeadings.map Heading.plainTitle ∧
      ((ofMarkdown "# \u00a01. A\n").formatIndex {}).topHeadings.map Heading.plainTitle ≠
        (ofMarkdown "# \u00a01. A\n").topHeadings.map Heading.plainTitle := by
  decide +kernel

def Heading.withoutEmptyText (heading : Heading) : Heading :=
  { heading with content := heading.content.filter fun inline => inline.text? != some "" }

def Block.withoutEmptyText : Block → Block
  | .heading h => .heading h.withoutEmptyText
  | block => block

/-- Where no number is hidden, the number that is written last decides. Content that does not start
with text keeps an empty text in front of it when its number is taken off. -/
theorem HeadingNumbering.withoutEmptyText_renumber_renumber (first last : List Nat)
    {heading : Heading} (hshown : ¬ heading.HidesNumber) :
    { heading with content := renumber (dotted last) (renumber (dotted first) heading.content)
        }.withoutEmptyText =
      { heading with content := renumber (dotted last) heading.content }.withoutEmptyText := by
  by_cases htitle : heading.StartsWithText
  · obtain ⟨title, rest, hcontent⟩ := id htitle
    have hnone : ¬ MarkdownOutline.HidesNumber title.toList := fun h =>
      hshown ⟨title, rest, hcontent, h⟩
    have hstrip : stripIndexPrefix (dotted first ++ stripIndexPrefix title) =
        stripIndexPrefix title := by
      rw [show stripIndexPrefix title = String.ofList (dropIndexPrefix title.toList) from rfl,
        stripIndexPrefix_dotted first (dropIndexPrefix_dropWhile _),
        (dropIndexPrefix_idem_iff _).mpr hnone]
    rw [hcontent]
    simp only [renumber, hstrip]
  · have hcontent : ∀ title rest, heading.content ≠ .text title :: rest :=
      fun title rest h => htitle ⟨title, rest, h⟩
    rw [renumber_of_no_title hcontent (dotted first), dotted_isEmpty]
    cases first with
    | nil => rfl
    | cons n first =>
      have hagain : renumber (dotted last) (.text (dotted (n :: first)) :: heading.content) =
          .text (dotted last) :: heading.content := by
        simp only [renumber, stripIndexPrefix_dotted_self, String.append_empty]
      simp only [List.isEmpty_cons, Bool.false_eq_true, if_false]
      rw [hagain, renumber_of_no_title hcontent, dotted_isEmpty]
      cases last with
      | nil => rfl
      | cons m last => rfl

theorem HeadingNumbering.withoutEmptyText_observe_observe {first last : IndexFrom}
    (minDepth : Option Nat) (counters : HeadingCounters) {heading : Heading}
    (hshown : ¬ heading.HidesNumber) :
    (observe ⟨some last, minDepth⟩ counters
        (observe ⟨some first, minDepth⟩ counters heading).2).2.withoutEmptyText =
      (observe ⟨some last, minDepth⟩ counters heading).2.withoutEmptyText := by
  obtain ⟨before, hbefore⟩ := HeadingNumbering.exists_indexPrefix_eq ⟨some first, minDepth⟩ first
    (counters.advance heading.depth)
  obtain ⟨after, hafter⟩ := HeadingNumbering.exists_indexPrefix_eq ⟨some last, minDepth⟩ last
    (counters.advance heading.depth)
  simp only [observe, hbefore, hafter]
  exact withoutEmptyText_renumber_renumber before after hshown

theorem Document.withoutEmptyText_numberBlocks_numberBlocks (first last : IndexFrom)
    (minDepth : Option Nat) (lists : ListNumbering) (counters : HeadingCounters)
    (blocks : List Block) (hshown : ∀ h ∈ topHeadings blocks, ¬ h.HidesNumber) :
    (numberBlocks ⟨some last, minDepth⟩ lists counters
        (numberBlocks ⟨some first, minDepth⟩ lists counters blocks)).map Block.withoutEmptyText =
      (numberBlocks ⟨some last, minDepth⟩ lists counters blocks).map Block.withoutEmptyText := by
  induction blocks generalizing counters with
  | nil => rfl
  | cons block rest ih =>
    cases block with
    | heading h =>
      obtain ⟨hh, hrest⟩ := List.forall_mem_cons.mp hshown
      simp only [numberBlocks, List.map_cons, Block.withoutEmptyText,
        HeadingNumbering.observe_counters, HeadingNumbering.observe_depth, ih _ hrest,
        HeadingNumbering.withoutEmptyText_observe_observe minDepth counters hh]
    | list l => simp only [numberBlocks, List.map_cons, lists.observe_observe, ih _ hshown]
    | paragraph p => simp only [numberBlocks, List.map_cons, ih _ hshown]
    | other m span => simp only [numberBlocks, List.map_cons, ih _ hshown]

/-- Of two formattings with the same method for lists the last one decides: the document is the one
that it gives alone, except for empty runs of text in headings. -/
theorem Document.withoutEmptyText_formatIndex_formatIndex (document : Document)
    (first last : IndexFrom) (lists : ListNumbering)
    (hstart : ∀ h ∈ document.topHeadings, ¬ h.StartsBlank) :
    ((document.formatIndex ⟨first, lists⟩).formatIndex ⟨last, lists⟩).map Block.withoutEmptyText =
      (document.formatIndex ⟨last, lists⟩).map Block.withoutEmptyText := by
  have hmin : (document.formatIndex ⟨first, lists⟩).depthRange?.map (·.min) =
      document.depthRange?.map (·.min) := by
    rw [depthRange?_map_min, depthRange?_map_min, formatIndex, headingDepths_numberBlocks]
  have htwice := withoutEmptyText_numberBlocks_numberBlocks first last
    (document.depthRange?.map (·.min)) lists {} document
    fun h hh hhides => hstart h hh hhides.startsBlank
  unfold formatIndex at hmin ⊢
  rw [hmin]
  exact htwice

theorem Document.withoutEmptyText_formatIndex_formatIndex_markup :
    let document : Document := [.heading ⟨1, [.text "1.2a"], none⟩,
      .list ⟨true, 3, true, [⟨[.heading ⟨2, [.text " 1. b"], none⟩], none⟩], none⟩,
      .heading ⟨3, [.softBreak, .text " 1. c"], none⟩]
    (∀ h ∈ document.topHeadings, ¬ h.StartsBlank) ∧
      ((document.formatIndex ⟨.depth 1, .increaseFromOne⟩).formatIndex
          ⟨.never, .increaseFromOne⟩).map Block.withoutEmptyText =
        (document.formatIndex ⟨.never, .increaseFromOne⟩).map Block.withoutEmptyText :=
  ⟨by decide, withoutEmptyText_formatIndex_formatIndex _ (.depth 1) .never .increaseFromOne
    (by decide)⟩

end MarkdownOutline
