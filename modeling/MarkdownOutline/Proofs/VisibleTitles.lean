import MarkdownOutline.Markdown.Reader
import MarkdownOutline.Proofs.HeadingNumbers
import MarkdownOutline.Proofs.IndexPrefix
import MarkdownOutline.Proofs.SectionEntries

/-!
# Visible titles

The title of a heading is its first text. All that is visible of a heading may be more than that:
text inside emphasis, links and code, and text behind them. An item of a list takes over the first
text only, so the rest of a title is lost when a section turns into a list.
-/

namespace MarkdownOutline

def MarkupKind.visibleText : MarkupKind → List Char
  | .text value => value.toList
  | .code literal | .codeBlock _ _ literal | .verbatim literal => literal.toList
  | _ => []

mutual

def Markup.visibleText : Markup → List Char
  | .node kind children => kind.visibleText ++ treesVisibleText children

def treesVisibleText : List Markup → List Char
  | [] => []
  | tree :: rest => tree.visibleText ++ treesVisibleText rest

end

def Inline.visibleText : Inline → List Char
  | .text value => value.toList
  | .softBreak | .lineBreak => []
  | .other markup => markup.visibleText

def visibleText (content : List Inline) : List Char := content.flatMap Inline.visibleText

/-- Besides the first text of the content nothing is visible. -/
def showsOnlyFirstText : List Inline → Bool
  | [] => true
  | .text _ :: rest => (visibleText rest).isEmpty
  | inline :: rest => inline.visibleText.isEmpty && showsOnlyFirstText rest

def firstText (content : List Inline) : List Char :=
  ((content.findSome? Inline.text?).getD "").toList

theorem length_firstText_le (content : List Inline) :
    (firstText content).length ≤ (visibleText content).length := by
  induction content with
  | nil => exact Nat.le_refl _
  | cons inline rest ih =>
    have hcons : visibleText (inline :: rest) = inline.visibleText ++ visibleText rest := rfl
    rw [hcons, List.length_append]
    cases inline with
    | text value => exact Nat.le_add_right _ _
    | _ => exact Nat.le_trans ih (Nat.le_add_left _ _)

theorem showsOnlyFirstText_iff (content : List Inline) :
    showsOnlyFirstText content = true ↔ visibleText content = firstText content := by
  induction content with
  | nil => exact iff_of_true rfl rfl
  | cons inline rest ih =>
    cases inline with
    | text value =>
      have hshown : showsOnlyFirstText (.text value :: rest) = (visibleText rest).isEmpty := rfl
      have hcons : visibleText (.text value :: rest) = value.toList ++ visibleText rest := rfl
      have hfirst : firstText (.text value :: rest) = value.toList := rfl
      rw [hshown, hcons, hfirst, List.isEmpty_iff, List.append_right_eq_self]
    | softBreak => exact ih
    | lineBreak => exact ih
    | other markup =>
      have hshown : showsOnlyFirstText (.other markup :: rest) =
          (markup.visibleText.isEmpty && showsOnlyFirstText rest) := rfl
      have hcons : visibleText (.other markup :: rest) = markup.visibleText ++ visibleText rest := rfl
      have hfirst : firstText (.other markup :: rest) = firstText rest := rfl
      rw [hshown, hcons, hfirst, Bool.and_eq_true, List.isEmpty_iff, ih]
      constructor
      · rintro ⟨hmarkup, hrest⟩
        rw [hmarkup, List.nil_append, hrest]
      · intro hall
        -- the first text is no longer than what is visible behind the markup
        have hlength := congrArg List.length hall
        have hle := length_firstText_le rest
        rw [List.length_append] at hlength
        have hmarkup : markup.visibleText = [] := List.eq_nil_of_length_eq_zero (by omega)
        rw [hmarkup, List.nil_append] at hall
        exact ⟨hmarkup, hall⟩

/-- The number in front of a title, with the white space that goes with it. -/
def indexPrefixOf (title : List Char) : List Char :=
  title.take (title.length - (dropIndexPrefix title).length)

theorem indexPrefixOf_append (title : List Char) :
    indexPrefixOf title ++ dropIndexPrefix title = title := by
  obtain ⟨front, hfront⟩ := dropIndexPrefix_suffix title
  have hlength : title.length - (dropIndexPrefix title).length = front.length := by
    have hsum := congrArg List.length hfront
    rw [List.length_append] at hsum
    omega
  have htake : indexPrefixOf title = front := by
    rw [indexPrefixOf, hlength]
    conv_lhs => rw [← hfront, List.take_left]
  rw [htake, hfront]

/-- The visible text behind its number is the first text behind the same number exactly if no other
text is visible. -/
theorem dropIndexPrefix_visibleText_iff (content : List Inline) :
    dropIndexPrefix (firstText content) = dropIndexPrefix (visibleText content) ∧
        indexPrefixOf (firstText content) = indexPrefixOf (visibleText content) ↔
      showsOnlyFirstText content = true := by
  rw [showsOnlyFirstText_iff]
  constructor
  · intro h
    rw [← indexPrefixOf_append (visibleText content), ← h.1, ← h.2, indexPrefixOf_append]
  · intro h
    rw [h]
    exact ⟨rfl, rfl⟩

def SectionEntry.title? : SectionEntry → Option Paragraph
  | .title lead => some lead
  | _ => none

theorem visibleText_ofText_plainTitle (h : Heading) :
    visibleText (Paragraph.ofText h.plainTitle).content = dropIndexPrefix (firstText h.content) := by
  have hshown : visibleText (Paragraph.ofText h.plainTitle).content = h.plainTitle.toList ++ [] := rfl
  rw [hshown, List.append_nil]
  exact String.toList_ofList

theorem filterMap_title?_sectionEntries (title : String) (lists : Nat) (blocks : Document) :
    (sectionEntries title lists blocks).filterMap SectionEntry.title? =
      blocks.topHeadings.map fun h => .ofText h.plainTitle := by
  induction blocks generalizing title lists with
  | nil => rfl
  | cons block rest ih =>
    cases block with
    | heading h => exact congrArg (_ :: ·) (ih h.plainTitle 0)
    | paragraph p => exact ih title lists
    | list l => exact ih title (lists + 1)
    | other m span => exact ih title lists

/-- Of each heading of a section that turns into a list, the paragraph that leads its item shows the
first text without its number. This is all of its visible text, with no more than that number taken
off, exactly if no other text of the heading is visible. -/
theorem Document.visibleTitle_headingToList_iff {document : Document} {index : Nat} {h : Heading}
    (hheading : document[index]? = some (.heading h)) (peers onlyBelow : Bool) :
    ∃ first stop items entries, document.IsFirstSection (peers && !onlyBelow) index first ∧
      document.IsSectionRange peers h.depth first stop ∧
      document.headingToList index peers onlyBelow =
        document.take first ++ [.list (.numbered items)] ++
          (document.extract first stop).filter (·.kind == .other) ++ document.drop stop ∧
      ReadInOrder items entries ∧
      List.Forall₂ (fun (g : Heading) (lead : Paragraph) =>
          visibleText lead.content = dropIndexPrefix (firstText g.content) ∧
            (visibleText lead.content = dropIndexPrefix (visibleText g.content) ∧
                indexPrefixOf (firstText g.content) = indexPrefixOf (visibleText g.content) ↔
              showsOnlyFirstText g.content = true))
        (topHeadings (document.extract first stop)) (entries.filterMap SectionEntry.title?) := by
  obtain ⟨first, stop, items, hchosen, hrange, hlist, hread⟩ :=
    exists_headingToList_eq hheading peers onlyBelow
  refine ⟨first, stop, items, _, hchosen, hrange, hlist, hread, ?_⟩
  rw [filterMap_title?_sectionEntries, List.forall₂_map_right_iff, List.forall₂_same]
  intro g _
  rw [visibleText_ofText_plainTitle]
  exact ⟨rfl, dropIndexPrefix_visibleText_iff g.content⟩

/-- One of the headings shows code in front of its first text, the other one nothing else. -/
theorem Document.visibleTitle_headingToList_iff_code :
    let document : Document := [.heading ⟨1, [.text "2. A"], none⟩,
      .heading ⟨2, [.other (.leaf (.code "f")), .text " b"], none⟩]
    document[0]? = some (.heading ⟨1, [.text "2. A"], none⟩) ∧
      ∃ first stop items entries, document.IsFirstSection false 0 first ∧
        document.IsSectionRange false 1 first stop ∧
        document.headingToList 0 false false =
          document.take first ++ [.list (.numbered items)] ++
            (document.extract first stop).filter (·.kind == .other) ++ document.drop stop ∧
        ReadInOrder items entries ∧
        List.Forall₂ (fun (g : Heading) (lead : Paragraph) =>
            visibleText lead.content = dropIndexPrefix (firstText g.content) ∧
              (visibleText lead.content = dropIndexPrefix (visibleText g.content) ∧
                  indexPrefixOf (firstText g.content) = indexPrefixOf (visibleText g.content) ↔
                showsOnlyFirstText g.content = true))
          (topHeadings (document.extract first stop)) (entries.filterMap SectionEntry.title?) := by
  intro document
  have hheading : document[0]? = some (.heading ⟨1, [.text "2. A"], none⟩) := rfl
  exact ⟨hheading, visibleTitle_headingToList_iff hheading false false⟩

/-- The text that the first block of the item shows, if it is a paragraph. -/
def Item.leadText (item : Item) : List Char :=
  match item.children with
  | .paragraph p :: _ => visibleText p.content
  | _ => []

/-- The emphasis behind the first text of a heading is lost. -/
theorem Document.visibleTitle_headingToList_ne :
    ((ofMarkdown "# a *b*\n").flattenSections? 0 0 false).map
        (fun flattened => flattened.list.items.map Item.leadText) ≠
      some ((topHeadings (ofMarkdown "# a *b*\n")).map
        fun h => dropIndexPrefix (visibleText h.content)) := by
  decide +kernel

end MarkdownOutline
