import MarkdownOutline.Proofs.ContentKept
import MarkdownOutline.Proofs.HeadingNumbers
import MarkdownOutline.Proofs.IndexPrefix
import MarkdownOutline.Outline.Session

/-!
# Formatting twice

Formatting a document again changes nothing unless white space hid the number of a title from the
first time. For the saved text the same holds, as long as it reads back as the document that was
saved.
-/

namespace MarkdownOutline

/-- White space stands in front of the number in the heading's title. -/
def Heading.HidesNumber (heading : Heading) : Prop :=
  ∃ title rest, heading.content = .text title :: rest ∧ MarkdownOutline.HidesNumber title.toList

theorem stripIndexPrefix_dotted (number : List Nat) {title : List Char}
    (htitle : title.dropWhile Text.isBlank = title) :
    stripIndexPrefix (dotted number ++ String.ofList title) =
      String.ofList (dropIndexPrefix title) := by
  simp only [stripIndexPrefix, String.toList_append, String.toList_ofList]
  rw [dropIndexPrefix_dotted number title htitle]

theorem stripIndexPrefix_dotted_self (number : List Nat) : stripIndexPrefix (dotted number) = "" := by
  have hnil := stripIndexPrefix_dotted number (show [].dropWhile Text.isBlank = [] from rfl)
  simpa only [String.ofList_nil, String.append_empty, show dropIndexPrefix [] = [] from rfl] using hnil

theorem renumber_of_no_title {content : List Inline}
    (hcontent : ∀ title rest, content ≠ .text title :: rest) (number : String) :
    HeadingNumbering.renumber number content =
      if number.isEmpty then content else .text number :: content := by
  unfold HeadingNumbering.renumber
  split
  · rename_i title rest
    exact absurd rfl (hcontent title rest)
  · rfl

/-- A number that is written again finds the one written before, and behind it what white space
hid. -/
theorem HeadingNumbering.renumber_renumber_iff (number : List Nat) (heading : Heading) :
    renumber (dotted number) (renumber (dotted number) heading.content) =
        renumber (dotted number) heading.content ↔ ¬ heading.HidesNumber := by
  by_cases htitle : ∃ title rest, heading.content = .text title :: rest
  · obtain ⟨title, rest, hcontent⟩ := htitle
    have hhides : heading.HidesNumber ↔ MarkdownOutline.HidesNumber title.toList := by
      simp [Heading.HidesNumber, hcontent]
    have htwice := stripIndexPrefix_dotted number (dropIndexPrefix_dropWhile title.toList)
    have honce : stripIndexPrefix title = String.ofList (dropIndexPrefix title.toList) := rfl
    rw [hhides, hcontent, ← dropIndexPrefix_idem_iff]
    simp only [renumber, honce, htwice, List.cons.injEq, and_true, Inline.text.injEq,
      String.append_right_inj, String.ofList_inj]
  · have hcontent : ∀ title rest, heading.content ≠ .text title :: rest :=
      fun title rest h => htitle ⟨title, rest, h⟩
    have hshown : ¬ heading.HidesNumber := fun ⟨title, rest, h, _⟩ => hcontent title rest h
    rw [renumber_of_no_title hcontent]
    by_cases hempty : (dotted number).isEmpty
    · simp [hempty, renumber_of_no_title hcontent, hshown]
    · simp [hempty, renumber, stripIndexPrefix_dotted_self, hshown]

theorem HeadingNumbering.exists_indexPrefix_eq (numbering : HeadingNumbering)
    (indexFrom : IndexFrom) (counters : HeadingCounters) :
    ∃ number, numbering.indexPrefix indexFrom counters = dotted number := by
  cases indexFrom with
  | depth level => exact ⟨_, rfl⟩
  | never => exact ⟨[], rfl⟩

theorem HeadingNumbering.observe_observe_iff (numbering : HeadingNumbering) {indexFrom : IndexFrom}
    (hfrom : numbering.indexFrom = some indexFrom) (counters : HeadingCounters) (heading : Heading) :
    numbering.observe counters (numbering.observe counters heading).2 =
        numbering.observe counters heading ↔ ¬ heading.HidesNumber := by
  obtain ⟨number, hnumber⟩ :=
    numbering.exists_indexPrefix_eq indexFrom (counters.advance heading.depth)
  rw [← renumber_renumber_iff number heading]
  simp [observe, hfrom, hnumber]

theorem ListNumbering.observe_observe (numbering : ListNumbering) (list : ListBlock) :
    numbering.observe (numbering.observe list) = numbering.observe list := by
  obtain ⟨ordered, start, tight, items, span⟩ := list
  cases numbering <;> cases ordered <;> rfl

theorem Document.numberBlocks_numberBlocks_iff (numbering : HeadingNumbering)
    {indexFrom : IndexFrom} (hfrom : numbering.indexFrom = some indexFrom) (lists : ListNumbering)
    (counters : HeadingCounters) (blocks : List Block) :
    numberBlocks numbering lists counters (numberBlocks numbering lists counters blocks) =
        numberBlocks numbering lists counters blocks ↔
      ∀ h ∈ topHeadings blocks, ¬ h.HidesNumber := by
  induction blocks generalizing counters with
  | nil => simp [numberBlocks, topHeadings]
  | cons block rest ih =>
    cases block with
    | heading h =>
      have hh := numbering.observe_observe_iff hfrom counters h
      have hcounters : (numbering.observe counters (numbering.observe counters h).2).1 =
          (numbering.observe counters h).1 := by
        simp [HeadingNumbering.observe, hfrom]
      have htop : topHeadings (.heading h :: rest) = h :: topHeadings rest := rfl
      simp only [numberBlocks, List.cons.injEq, Block.heading.injEq, htop, List.forall_mem_cons,
        hcounters, ih, ← hh, Prod.ext_iff, true_and]
    | list l =>
      have htop : topHeadings (.list l :: rest) = topHeadings rest := rfl
      simp only [numberBlocks, lists.observe_observe, List.cons.injEq, true_and, ih, htop]
    | paragraph p =>
      have htop : topHeadings (.paragraph p :: rest) = topHeadings rest := rfl
      simp only [numberBlocks, List.cons.injEq, true_and, ih, htop]
    | other m span =>
      have htop : topHeadings (.other m span :: rest) = topHeadings rest := rfl
      simp only [numberBlocks, List.cons.injEq, true_and, ih, htop]

/-- Formatting a document again with the same options changes it exactly if white space hid a
number. -/
theorem Document.formatIndex_formatIndex_iff (options : FormatOptions) (document : Document) :
    (document.formatIndex options).formatIndex options = document.formatIndex options ↔
      ∀ h ∈ document.topHeadings, ¬ h.HidesNumber := by
  have hmin : (document.formatIndex options).depthRange?.map (·.min) =
      document.depthRange?.map (·.min) := by
    rw [depthRange?_map_min, depthRange?_map_min, formatIndex, headingDepths_numberBlocks]
  have htwice := numberBlocks_numberBlocks_iff
    ⟨some options.indexFrom, document.depthRange?.map (·.min)⟩ rfl options.lists {} document
  rw [← htwice]
  unfold formatIndex at hmin ⊢
  rw [hmin]

theorem HeadingNumbering.observe_withoutSpans (numbering : HeadingNumbering)
    (counters : HeadingCounters) (heading : Heading) :
    numbering.observe counters { heading with span := none } =
      ((numbering.observe counters heading).1,
        { (numbering.observe counters heading).2 with span := none }) := by
  simp only [observe]
  cases numbering.indexFrom <;> rfl

theorem Document.numberBlocks_withoutSpans (headings : HeadingNumbering) (lists : ListNumbering)
    (counters : HeadingCounters) (blocks : List Block) :
    numberBlocks headings lists counters (blocksWithoutSpans blocks) =
      blocksWithoutSpans (numberBlocks headings lists counters blocks) := by
  induction blocks generalizing counters with
  | nil => rfl
  | cons block blocks ih =>
    cases block with
    | heading h =>
      simp only [blocksWithoutSpans, Block.withoutSpans, numberBlocks,
        headings.observe_withoutSpans, ih]
    | paragraph p => simp only [blocksWithoutSpans, Block.withoutSpans, numberBlocks, ih]
    | list l =>
      obtain ⟨ordered, start, tight, items, span⟩ := l
      have hobserve : (Block.list (lists.observe (.mk ordered start tight items span))).withoutSpans =
          .list (lists.observe (.mk ordered start tight (itemsWithoutSpans items) none)) := by
        cases lists <;> cases ordered <;> rfl
      rw [numberBlocks, blocksWithoutSpans, blocksWithoutSpans, hobserve, Block.withoutSpans,
        numberBlocks, ih]
    | other m span => simp only [blocksWithoutSpans, Block.withoutSpans, numberBlocks, ih]

private theorem headingDepths_withoutSpans (document : Document) :
    document.withoutSpans.headingDepths = document.headingDepths := by
  unfold Document.withoutSpans
  induction document with
  | nil => rfl
  | cons block blocks ih =>
    cases block with
    | list list =>
      obtain ⟨ordered, start, tight, items, span⟩ := list
      exact ih
    | heading h => exact congrArg (h.depth :: ·) ih
    | _ => exact ih

private theorem topHeadings_withoutSpans (document : Document) :
    document.withoutSpans.topHeadings =
      document.topHeadings.map ({ · with span := none }) := by
  unfold Document.withoutSpans
  induction document with
  | nil => rfl
  | cons block blocks ih =>
    cases block with
    | list list =>
      obtain ⟨ordered, start, tight, items, span⟩ := list
      exact ih
    | heading h => exact congrArg ({ h with span := none } :: ·) ih
    | _ => exact ih

theorem Document.formatIndex_withoutSpans (options : FormatOptions) (document : Document) :
    document.withoutSpans.formatIndex options = (document.formatIndex options).withoutSpans := by
  unfold formatIndex
  rw [depthRange?_map_min, headingDepths_withoutSpans, ← depthRange?_map_min]
  exact numberBlocks_withoutSpans ..

def formatted (options : FormatOptions) (text : String) : String :=
  ((Document.ofMarkdown text).formatIndex options).toMarkdown

/-- A note that is saved with numbers and read back is formatted to the same text again exactly if
white space hid none of the numbers before. -/
theorem formatted_formatted_iff (options : FormatOptions) (text : String)
    (honce : ((Document.ofMarkdown text).formatIndex options).readsBack = true)
    (htwice : (((Document.ofMarkdown text).formatIndex options).formatIndex options).readsBack =
      true) :
    formatted options (formatted options text) = formatted options text ↔
      ∀ h ∈ (Document.ofMarkdown text).topHeadings, ¬ h.HidesNumber := by
  have hagain : formatted options (formatted options text) =
      (((Document.ofMarkdown text).formatIndex options).formatIndex options).toMarkdown := by
    unfold formatted
    rw [← Document.toMarkdown_withoutSpans, ← Document.formatIndex_withoutSpans,
      Document.withoutSpans_ofMarkdown_toMarkdown honce, Document.formatIndex_withoutSpans,
      Document.toMarkdown_withoutSpans]
  have hplaces : (∀ h ∈ (Document.ofMarkdown text).topHeadings, ¬ h.HidesNumber) ↔
      ∀ h ∈ (Document.ofMarkdown text).withoutSpans.topHeadings, ¬ h.HidesNumber := by
    rw [topHeadings_withoutSpans, List.forall_mem_map]
    rfl
  rw [hagain]
  refine ⟨fun h => ?_, fun h => ?_⟩
  · have hspans : (((Document.ofMarkdown text).formatIndex options).formatIndex
        options).withoutSpans = ((Document.ofMarkdown text).formatIndex options).withoutSpans := by
      rw [← Document.withoutSpans_ofMarkdown_toMarkdown htwice, h]
      exact Document.withoutSpans_ofMarkdown_toMarkdown honce
    rw [hplaces, ← Document.formatIndex_formatIndex_iff options]
    simpa only [Document.formatIndex_withoutSpans] using hspans
  · rw [(Document.formatIndex_formatIndex_iff options _).mpr h]
    rfl

theorem formatted_formatted_iff_hidden :
    ((Document.ofMarkdown "# \u00a01. A\n").formatIndex {}).readsBack = true ∧
      (((Document.ofMarkdown "# \u00a01. A\n").formatIndex {}).formatIndex {}).readsBack = true ∧
      (formatted {} (formatted {} "# \u00a01. A\n") = formatted {} "# \u00a01. A\n" ↔
        ∀ h ∈ (Document.ofMarkdown "# \u00a01. A\n").topHeadings, ¬ h.HidesNumber) :=
  have honce : ((Document.ofMarkdown "# \u00a01. A\n").formatIndex {}).readsBack = true := by
    decide +kernel
  have htwice : (((Document.ofMarkdown "# \u00a01. A\n").formatIndex {}).formatIndex
      {}).readsBack = true := by decide +kernel
  ⟨honce, htwice, formatted_formatted_iff {} _ honce htwice⟩

/-- The number behind a non-breaking space is only found once the space is gone. -/
theorem formatted_formatted_ne :
    formatted {} (formatted {} "# \u00a01. A\n") ≠ formatted {} "# \u00a01. A\n" := by
  decide +kernel

end MarkdownOutline
