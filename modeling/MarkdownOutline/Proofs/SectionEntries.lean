import MarkdownOutline.Proofs.SectionRuns

/-!
# What a list of sections holds

The list that sections turn into, read item by item with what is nested in an item behind it, tells
all their headings, paragraphs and lists in document order. The other blocks follow the list, so no
block is lost and none is written twice, whatever depths the headings have.
-/

namespace MarkdownOutline

/-- What an item tells by itself: the title of a heading, a paragraph, or a list under a label. -/
inductive SectionEntry where
  | title (title : Paragraph)
  | paragraph (paragraph : Paragraph)
  | list (label : Paragraph) (list : ListBlock)

/-- The items read in order, each one before those that are nested in it. A title is followed by the
list of what stands under it. -/
inductive ReadInOrder : List Item → List SectionEntry → Prop
  | nil : ReadInOrder [] []
  | title (title : Paragraph) {inner rest : List Item} {under after : List SectionEntry}
      (hinner : ReadInOrder inner under) (hrest : ReadInOrder rest after) :
      ReadInOrder (.mk [.paragraph title, .list (.numbered inner)] none :: rest)
        (.title title :: (under ++ after))
  | paragraph (p : Paragraph) {rest : List Item} {after : List SectionEntry}
      (hrest : ReadInOrder rest after) :
      ReadInOrder (.mk [.paragraph p] none :: rest) (.paragraph p :: after)
  | list (label : Paragraph) (l : ListBlock) {rest : List Item} {after : List SectionEntry}
      (hrest : ReadInOrder rest after) :
      ReadInOrder (.mk [.paragraph label, .list l] none :: rest) (.list label l :: after)

/-- What blocks have to tell, after a heading with a title and a number of lists right under it. The
label of a list is made of the title of the nearest heading above it and of its number there. -/
def sectionEntries (title : String) (lists : Nat) : List Block → List SectionEntry
  | [] => []
  | .heading h :: rest => .title (.ofText h.plainTitle) :: sectionEntries h.plainTitle 0 rest
  | .paragraph p :: rest => .paragraph p :: sectionEntries title lists rest
  | .list l :: rest =>
    .list (.ofText (title ++ "-list" ++ toString (lists + 1))) l ::
      sectionEntries title (lists + 1) rest
  | .other .. :: rest => sectionEntries title lists rest

/-- From a heading on it does not matter what stood above. -/
theorem sectionEntries_append (title : String) (lists : Nat) {first second : List Block}
    (hsecond : ∀ block ∈ second.head?, block.heading?.isSome = true) (title' : String)
    (lists' : Nat) :
    sectionEntries title lists (first ++ second) =
      sectionEntries title lists first ++ sectionEntries title' lists' second := by
  induction first generalizing title lists with
  | nil =>
    cases second with
    | nil => rfl
    | cons block rest =>
      cases block with
      | heading h => rfl
      | _ => simp [Block.heading?] at hsecond
  | cons block first ih =>
    cases block with
    | heading h => exact congrArg (_ :: ·) (ih h.plainTitle 0)
    | paragraph p => exact congrArg (_ :: ·) (ih title lists)
    | list l => exact congrArg (_ :: ·) (ih title (lists + 1))
    | other m span => exact ih title lists

theorem sectionEntries_section (title : String) (lists : Nat) (h : Heading) (rest : List Block) :
    sectionEntries title lists (.heading h :: rest) =
      .title (.ofText h.plainTitle) ::
        (sectionEntries h.plainTitle 0 (rest.takeWhile (Block.isBelow h.depth)) ++
          sectionEntries title lists (rest.dropWhile (Block.isBelow h.depth))) := by
  have hsplit : rest.takeWhile (Block.isBelow h.depth) ++ rest.dropWhile (Block.isBelow h.depth) =
      rest := List.takeWhile_append_dropWhile
  have hheads : ∀ block ∈ (rest.dropWhile (Block.isBelow h.depth)).head?,
      block.heading?.isSome = true := heading_of_mem_head?_dropWhile (h.depth < ·)
  conv_lhs => rw [← hsplit]
  exact congrArg (_ :: ·) (sectionEntries_append h.plainTitle 0 hheads title lists)

/-- The items of a section are those of its heading's own blocks, nested in one item, and those of
what follows it. -/
theorem flattenBlocks_readInOrder (title : String) (lists : Nat) (blocks : List Block) :
    ReadInOrder (flattenBlocks title lists blocks).1 (sectionEntries title lists blocks) := by
  fun_induction flattenBlocks title lists blocks with
  | case1 => exact .nil
  | case2 title lists h rest inner innerTail hinner items tail hitems ihinner ihitems =>
    rw [hinner] at ihinner
    rw [hitems] at ihitems
    rw [sectionEntries_section]
    exact .title _ ihinner ihitems
  | case3 title lists p rest items tail hrest ih =>
    rw [hrest] at ih
    exact .paragraph p ih
  | case4 title lists l rest items tail hrest ih =>
    rw [hrest] at ih
    exact .list _ l ih
  | case5 title lists m span rest items tail hrest ih =>
    rw [hrest] at ih
    exact ih

theorem Document.IsSectionRange.index_lt {document : Document} {peers all : Bool}
    {index first stop : Nat} {h : Heading} (hrange : document.IsSectionRange peers h.depth first stop)
    (hheading : document[index]? = some (.heading h))
    (hchosen : document.IsFirstSection all index first) (hall : all = true → peers = true) :
    index < stop := by
  cases all with
  | false =>
    obtain rfl : first = index := hchosen
    exact hrange.first_lt
  | true =>
    obtain rfl := hall rfl
    apply Nat.lt_of_not_le
    intro hle
    obtain ⟨hbound, -⟩ := List.getElem?_eq_some_iff.mp hheading
    have hstop := List.getElem?_eq_getElem (show stop < document.length by omega)
    -- a heading that ends the sections is less deep, but it would stand between peers
    obtain ⟨other, hother, hless⟩ := hrange.ends _ hstop
    have hlow := hrange.first_lt
    have hdeep := hchosen.1.depth_le hheading (by omega) (by omega) (hstop.trans (congrArg some hother))
    exact absurd hdeep (Nat.not_le_of_lt hless)

theorem Document.exists_headingToList_eq {document : Document} {index : Nat} {h : Heading}
    (hheading : document[index]? = some (.heading h)) (peers onlyBelow : Bool) :
    ∃ first stop items, document.IsFirstSection (peers && !onlyBelow) index first ∧
      document.IsSectionRange peers h.depth first stop ∧
      document.headingToList index peers onlyBelow =
        document.take first ++ [.list (.numbered items)] ++
          (document.extract first stop).filter (·.kind == .other) ++ document.drop stop ∧
      ReadInOrder items (sectionEntries "" 0 (document.extract first stop)) := by
  obtain ⟨first, stop, g, hchosen, hrange, -, -, hlist⟩ :=
    headingToList_range hheading peers onlyBelow
  refine ⟨first, stop, _, hchosen, hrange, ?_, flattenBlocks_readInOrder "" 0 _⟩
  rw [hlist, flattenBlocks_tail]
  simp only [List.append_assoc, List.cons_append, List.nil_append]

/-- A section that turns into a list, with its peers or without them, is replaced by one list and
the blocks that are neither headings nor paragraphs nor lists. The list tells all the others in
document order. -/
theorem Document.headingToList_readInOrder {document : Document} {index : Nat} {h : Heading}
    (hheading : document[index]? = some (.heading h)) (peers onlyBelow : Bool) :
    ∃ first stop items, document.IsFirstSection (peers && !onlyBelow) index first ∧
      document.IsSectionRange peers h.depth first stop ∧ index < stop ∧
      document.headingToList index peers onlyBelow =
        document.take first ++ [.list (.numbered items)] ++
          (document.extract first stop).filter (·.kind == .other) ++ document.drop stop ∧
      ReadInOrder items (sectionEntries "" 0 (document.extract first stop)) := by
  obtain ⟨first, stop, items, hchosen, hrange, hlist, hread⟩ :=
    exists_headingToList_eq hheading peers onlyBelow
  have hindex := hrange.index_lt hheading hchosen fun hall => (Bool.and_eq_true_iff.mp hall).1
  exact ⟨first, stop, items, hchosen, hrange, hindex, hlist, hread⟩

/-- The section skips depths and comes back from them, its peer is chosen, and a block of code stands
between its paragraphs and lists. -/
theorem Document.headingToList_readInOrder_skipping :
    let document : Document := [.paragraph (.ofText "front"), .heading ⟨2, [.text "1. A"], none⟩,
      .list (.numbered []), .heading ⟨5, [.text "E"], none⟩, .other default none,
      .list (.numbered []), .heading ⟨3, [.text "C"], none⟩, .paragraph (.ofText "c"),
      .heading ⟨2, [.text "B"], none⟩, .heading ⟨1, [.text "Z"], none⟩]
    document[8]? = some (.heading ⟨2, [.text "B"], none⟩) ∧
      ∃ first stop items, document.IsFirstSection true 8 first ∧
        document.IsSectionRange true 2 first stop ∧ 8 < stop ∧
        document.headingToList 8 true false =
          document.take first ++ [.list (.numbered items)] ++
            (document.extract first stop).filter (·.kind == .other) ++ document.drop stop ∧
        ReadInOrder items (sectionEntries "" 0 (document.extract first stop)) := by
  intro document
  have hheading : document[8]? = some (.heading ⟨2, [.text "B"], none⟩) := rfl
  exact ⟨hheading, headingToList_readInOrder hheading true false⟩

end MarkdownOutline
