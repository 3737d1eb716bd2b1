import MarkdownOutline.Proofs.ItemMarkers
import MarkdownOutline.Proofs.WrittenLines

/-!
# The geometry of written lists

The tabs in front of an item's lines reach further than its content, by up to three columns. What
they reach too far is left over inside the item, and where an item starts with a list it is left
over in that list as well. A document fits if no line is left so far to the right that it reads as
part of another block.
-/

namespace MarkdownOutline

open Markdown Text

def Heading.readsBack (heading : Heading) : Bool :=
  heading.toText.all isLineChar &&
    (hashHeading? (heading.toText ++ ['\n'])).any (·.1 == heading.depth)

def paragraphLine (line : List Char) : List Char := line.dropWhile isSpaceOrTab ++ ['\n']

/-- The lines of a paragraph read as one paragraph: the first one starts with text, none of them
opens a block, and together they define no links. -/
def Paragraph.readsBack (paragraph : Paragraph) : Bool :=
  paragraph.toText.all (fun c => c == '\n' || isLineChar c) &&
    match textLines paragraph.toText with
    | [] => false
    | line :: lines =>
      line.head?.any isStartChar &&
        opensNothing false (line ++ ['\n']) &&
        lines.all (fun l => !restIsBlank l && opensNothing true (paragraphLine l)) &&
        (linkDefinition? ((line :: lines).flatMap paragraphLine)).isNone

/-- The block can stand on the line after a paragraph. -/
def Block.interrupts : Block → Bool
  | .list (.mk ordered start tight (.mk children _ :: _) _) =>
    (!ordered || start == 1) && !(blocksLines tight .nothing children).isEmpty
  | _ => true

/-- A line that is indented by `rest` columns can follow the block, whose first line is indented by
`first` columns: it does not reach into the item at the end of the block, or that item is empty and
a blank line has ended it. -/
def Block.clears (alternate : Bool) (first rest : Nat) (spaced : Bool) : Block → Bool
  | .list (.mk ordered start tight [.mk children _] _) =>
    decide (rest ≤ first + (itemMarker ordered alternate start).length) ||
      spaced && (blocksLines tight .nothing children).isEmpty
  | _ => true

def Block.isParagraph : Block → Bool
  | .paragraph _ => true
  | _ => false

mutual

/-- The block reads back where its first line is indented by `first` columns, its other lines by
`rest`, and `depth` blocks are open on its first line. -/
def Block.fits (alternate : Bool) (depth first rest : Nat) : Block → Bool
  | .heading h => h.readsBack
  | .paragraph p => p.readsBack
  | .list (.mk ordered start tight items _) =>
    !items.isEmpty && itemsFit ordered alternate tight start depth first rest items
  | .other .. => false

/-- The items of a list read back: their numbers are short, their first lines are no thematic
breaks, and no line reaches into the item before it. -/
def itemsFit (ordered alternate tight : Bool) (number depth first rest : Nat) :
    List Item → Bool
  | [] => true
  | .mk children _ :: items =>
    let marker := itemMarker ordered alternate number
    let lines := blocksLines tight .nothing children
    decide (marker.length ≤ maxNumberLength + 1) && decide (depth < Entry.maxListNesting) &&
      !isThematicBreak ((itemLines marker lines).headD [] ++ ['\n']) &&
      blocksFit tight .nothing false (depth + 1) 0 (rest - first + 3 - marker.length % 4)
        children &&
      (items.isEmpty || decide (rest ≤ 3) &&
        (decide (rest ≤ first + marker.length) || !tight && lines.isEmpty)) &&
      itemsFit ordered alternate tight (number + 1) 1 rest rest items

/-- The blocks read back: each of them does, a list on the line after a paragraph is told from
it, and no line reaches into the block before it. -/
def blocksFit (tight : Bool) (preceding : Preceding) (afterParagraph : Bool)
    (depth first rest : Nat) : List Block → Bool
  | [] => true
  | block :: blocks =>
    let alternate := preceding.alternates block
    let following := Preceding.ofBlock alternate block
    let lines := blocksLines tight following blocks
    block.fits alternate depth first rest &&
      (!(tight && afterParagraph) || block.interrupts) &&
      (lines.isEmpty || decide (rest ≤ 3) &&
        block.clears alternate first rest (lines.head? == some [])) &&
      blocksFit tight following block.isParagraph 1 rest rest blocks

end

def Document.fits (document : Document) : Bool := blocksFit false .nothing false 1 0 0 document

def StartsWithText (lead : Nat) (lines : List (List Char)) : Prop :=
  ∀ line ∈ lines.head?, StartsAfter lead line

theorem Heading.lines_of_readsBack {heading : Heading} (h : heading.readsBack = true) :
    textLines heading.toText = [heading.toText] ∧ Clean [heading.toText] ∧
      StartsWithText 0 [heading.toText] := by
  simp only [readsBack, Bool.and_eq_true, List.all_eq_true] at h
  obtain ⟨hchars, hlevel⟩ := h
  have hfeed : '\n' ∉ heading.toText := fun hmem => absurd (hchars _ hmem) (by decide)
  have hhash : ∃ s, heading.toText = '#' :: s := by
    cases htext : heading.toText with
    | nil =>
      have hnone : hashHeading? ['\n'] = none := by decide
      simp [htext, hnone] at hlevel
    | cons c s =>
      have hc : c = '#' := by
        by_contra hc
        rw [htext] at hlevel
        simp [hashHeading?, hc] at hlevel
      exact ⟨s, by rw [hc]⟩
  obtain ⟨s, hs⟩ := hhash
  refine ⟨?_, ⟨?_, ?_⟩, ?_⟩
  · have hempty : heading.toText.isEmpty = false := by simp [hs]
    simp [textLines, hempty, splitAt_eq_splitOn, List.splitOn_eq_singleton hfeed]
  · simpa using hchars
  · simp [hs]
  · intro line hline
    obtain rfl : heading.toText = line := by simpa using hline
    rw [hs]
    exact .of_isStartChar (show isStartChar '#' = true by decide)

theorem Paragraph.lines_of_readsBack {paragraph : Paragraph} (h : paragraph.readsBack = true) :
    textLines paragraph.toText ≠ [] ∧ Clean (textLines paragraph.toText) ∧
      StartsWithText 0 (textLines paragraph.toText) := by
  simp only [readsBack, Bool.and_eq_true, List.all_eq_true] at h
  obtain ⟨hchars, hlines⟩ := h
  cases htext : textLines paragraph.toText with
  | nil => simp [htext] at hlines
  | cons line lines =>
    simp only [htext, Bool.and_eq_true, List.all_eq_true] at hlines
    obtain ⟨⟨⟨hhead, hopens⟩, hrest⟩, hlink⟩ := hlines
    have hline : line ≠ [] := by
      rintro rfl
      simp at hhead
    refine ⟨by simp, ⟨?_, ?_⟩, ?_⟩
    · intro l hl c hc
      have hl : l ∈ splitAt '\n' paragraph.toText := by
        have hempty : paragraph.toText.isEmpty = false := by
          cases hnil : paragraph.toText with
          | nil => simp [hnil, textLines] at htext
          | cons c s => rfl
        have hsplit : splitAt '\n' paragraph.toText = line :: lines := by
          simpa [textLines, hempty] using htext
        rw [hsplit]
        exact hl
      obtain ⟨hmem, hfeed⟩ := mem_of_mem_splitAt hl hc
      simpa [hfeed] using hchars c hmem
    · intro hlast
      have hmem : [] ∈ line :: lines := List.mem_of_getLast? hlast
      rcases List.mem_cons.mp hmem with hnil | hnil
      · exact hline hnil.symm
      · have hblank := (hrest [] hnil).1
        simp [restIsBlank] at hblank
    · intro l hl
      obtain rfl : line = l := by simpa using hl
      exact .of_isStartChar hhead

theorem StartsWithText.append {lead : Nat} {first second : List (List Char)}
    (h : StartsWithText lead first) (hne : first ≠ []) :
    StartsWithText lead (first ++ second) := by
  cases first with
  | nil => exact absurd rfl hne
  | cons line lines => exact h

theorem itemLines_ne_nil (marker : List Char) (lines : List (List Char)) :
    itemLines marker lines ≠ [] := by cases lines <;> simp [itemLines]

theorem itemLines_startsWithText (ordered alternate : Bool) (number : Nat)
    (lines : List (List Char)) :
    StartsWithText 0 (itemLines (itemMarker ordered alternate number) lines) := by
  obtain ⟨c, s, hmarker, hc⟩ := itemMarker_eq_cons ordered alternate number
  have hstart : isStartChar c = true := by
    rcases hc with ⟨_, rfl | rfl, _⟩ | ⟨_, hc⟩
    · decide
    · decide
    · have hdigit : ∀ d : Char, d.isDigit = false → c ≠ d := by
        rintro d hd rfl
        simp [hc] at hd
      simp [isStartChar, isSpacing, isSpaceOrTab, isLineEnd, hdigit _ (rfl : ' '.isDigit = false),
        hdigit _ (rfl : '\t'.isDigit = false), hdigit _ (rfl : '\n'.isDigit = false),
        hdigit _ (rfl : '\r'.isDigit = false), hdigit _ (rfl : '\ufeff'.isDigit = false)]
  rw [hmarker]
  cases lines <;>
    exact fun line hline => Option.some.inj hline ▸ .of_isStartChar (by simp [hstart])

private theorem itemMarker_lineChars (ordered alternate : Bool) (number : Nat) :
    ∀ c ∈ itemMarker ordered alternate number, isLineChar c = true := by
  intro c hc
  have hdigit (hc : c.isDigit = true) : isLineChar c = true := by
    have hne : ∀ d : Char, d.isDigit = false → c ≠ d := by
      rintro d hd rfl
      simp [hc] at hd
    simp [isLineChar, isLineEnd, hne _ (rfl : '\n'.isDigit = false),
      hne _ (rfl : '\r'.isDigit = false), hne _ (rfl : '\x00'.isDigit = false)]
  cases ordered <;> cases alternate <;> simp only [itemMarker, List.mem_append,
    List.mem_singleton] at hc
  · subst hc; decide
  · subst hc; decide
  · rcases hc with hc | rfl
    · exact hdigit (isDigit_of_mem_toDigits hc)
    · decide
  · rcases hc with hc | rfl
    · exact hdigit (isDigit_of_mem_toDigits hc)
    · decide

theorem writeItem_joinLines (marker : List Char) {lines : List (List Char)} (h : Clean lines) :
    writeItem marker (joinLines lines) = joinLines (itemLines marker lines) := by
  unfold writeItem
  rw [lineContents_joinLines h]
  cases lines with
  | nil => simp [itemLines, joinLines]
  | cons line lines =>
    have hindent (rest : List (List Char)) (start : List Char) :
        start ++ indentLines (itemIndent marker) rest =
          joinLines (start :: rest.map (indentLine (itemTabs marker))) := by
      induction rest generalizing start with
      | nil => simp [indentLines, joinLines]
      | cons next rest ih =>
        have hnext := ih (indentLine (itemTabs marker) next)
        rw [List.map_cons, joinLines_cons (by simp), ← hnext]
        simp only [indentLines, List.flatMap_cons, List.cons_append]
        rfl
    have hline := hindent lines (marker ++ ' ' :: line)
    simpa [itemLines] using hline

private theorem isLineChar_indentLine {tabs : Nat} {line : List Char}
    (h : ∀ c ∈ line, isLineChar c = true) : ∀ c ∈ indentLine tabs line, isLineChar c = true := by
  intro c hc
  unfold indentLine at hc
  split at hc
  · simp at hc
  · rcases List.mem_append.mp hc with hc | hc
    · rw [List.eq_of_mem_replicate hc]
      decide
    · exact h c hc

theorem itemLines_clean (ordered alternate : Bool) (number : Nat) {lines : List (List Char)}
    (h : Clean lines) : Clean (itemLines (itemMarker ordered alternate number) lines) := by
  have hmarker := itemMarker_lineChars ordered alternate number
  have hne := itemMarker_ne_nil ordered alternate number
  generalize itemMarker ordered alternate number = marker at hmarker hne
  cases lines with
  | nil => exact ⟨by simpa [itemLines] using hmarker, by simpa [itemLines] using hne⟩
  | cons line lines =>
    refine ⟨?_, ?_⟩
    · intro l hl c hc
      rcases List.mem_cons.mp hl with rfl | hl
      · rcases List.mem_append.mp hc with hc | hc
        · exact hmarker c hc
        · rcases List.mem_cons.mp hc with rfl | hc
          · decide
          · exact h.lineChars line (by simp) c hc
      · obtain ⟨l', hl', rfl⟩ := List.mem_map.mp hl
        exact isLineChar_indentLine (h.lineChars l' (by simp [hl'])) c hc
    · simp only [itemLines, List.getLast?_cons, List.getLast?_map]
      cases hlast : lines.getLast? with
      | none => simp
      | some l =>
        have hl : l ≠ [] := by
          rintro rfl
          exact h.last (by simp [List.getLast?_cons, hlast])
        have hempty : l.isEmpty = false := by simpa using hl
        simp [indentLine, hempty, hl]

theorem itemsLines_ne_nil (ordered alternate tight : Bool) (number : Nat) {items : List Item}
    (h : items ≠ []) : itemsLines ordered alternate tight number items ≠ [] := by
  cases items with
  | nil => exact absurd rfl h
  | cons item items =>
    obtain ⟨children, span⟩ := item
    cases items <;> simp [itemsLines, itemLines_ne_nil]

theorem joinLines_separated {first second : List (List Char)} (hfirst : first ≠ [])
    (hsecond : second ≠ []) :
    joinLines (first ++ [[]] ++ second) = joinLines first ++ ['\n', '\n'] ++ joinLines second := by
  rw [List.append_assoc, List.singleton_append, joinLines_append hfirst (by simp),
    joinLines_cons hsecond, List.append_assoc]
  rfl

theorem clean_nil : Clean [] := ⟨by simp, by simp⟩

theorem joinLines_ne_nil {lead : Nat} {lines : List (List Char)} (h : StartsWithText lead lines)
    (hne : lines ≠ []) : joinLines lines ≠ [] := by
  cases lines with
  | nil => exact absurd rfl hne
  | cons line lines =>
    have hline : line ≠ [] := (h line rfl).ne_nil
    intro hnil
    cases lines with
    | nil => exact hline (by simpa [joinLines] using hnil)
    | cons next lines =>
      rw [joinLines_cons (by simp)] at hnil
      simp at hnil

end MarkdownOutline
