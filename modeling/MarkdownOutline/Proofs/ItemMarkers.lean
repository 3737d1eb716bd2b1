import MarkdownOutline.Markdown.Writer
import MarkdownOutline.Proofs.Digits
import MarkdownOutline.Proofs.LineOpenings

/-!
# Written markers

The marker in front of a written item reads as that marker, and its content starts one column
behind it. Neighbouring lists have markers that do not continue each other.
-/

namespace MarkdownOutline

open Markdown Text

def readMarker (ordered alternate : Bool) (number : Nat) : ListMarker :=
  match ordered, alternate with
  | true, false => .number number .period
  | true, true => .number number .paren
  | false, false => .bullet '-'
  | false, true => .bullet '*'

theorem readMarker_continuedBy (ordered alternate : Bool) (m n : Nat) :
    (readMarker ordered alternate m).continuedBy (readMarker ordered alternate n) = true := by
  cases ordered <;> cases alternate <;> rfl

theorem readMarker_not_continuedBy {ordered alternate ordered' alternate' : Bool}
    (h : ordered = ordered' → alternate ≠ alternate') (m n : Nat) :
    (readMarker ordered alternate m).continuedBy (readMarker ordered' alternate' n) = false := by
  cases ordered <;> cases alternate <;> cases ordered' <;> cases alternate' <;> simp_all <;> rfl

theorem readMarker_ordered (ordered alternate : Bool) (number : Nat) :
    (readMarker ordered alternate number).ordered = ordered := by
  cases ordered <;> cases alternate <;> rfl

private def delimiterMark (alternate : Bool) : Char := if alternate then ')' else '.'

private theorem itemMarker_ordered (alternate : Bool) (number : Nat) :
    itemMarker true alternate number = Nat.toDigits 10 number ++ [delimiterMark alternate] := by
  cases alternate <;> rfl

theorem itemMarker_ne_nil (ordered alternate : Bool) (number : Nat) :
    itemMarker ordered alternate number ≠ [] := by
  cases ordered <;> cases alternate <;> simp [itemMarker]

theorem itemMarker_eq_cons (ordered alternate : Bool) (number : Nat) :
    ∃ c s, itemMarker ordered alternate number = c :: s ∧
      ((ordered = false ∧ (c = '-' ∨ c = '*') ∧ s = []) ∨ ordered = true ∧ c.isDigit = true) := by
  cases ordered with
  | false => cases alternate <;> exact ⟨_, [], rfl, .inl ⟨rfl, by simp, rfl⟩⟩
  | true =>
    rw [itemMarker_ordered]
    cases hdigits : Nat.toDigits 10 number with
    | nil => exact absurd hdigits (by simp)
    | cons c s =>
      have hc : c.isDigit = true := isDigit_of_mem_toDigits (n := number) (by simp [hdigits])
      exact ⟨c, s ++ [delimiterMark alternate], rfl, .inr ⟨rfl, hc⟩⟩

theorem ne_of_mark {c d : Char} (h : c = '-' ∨ c = '*' ∨ c.isDigit = true) (hd : d.isDigit = false)
    (hdash : d ≠ '-') (hstar : d ≠ '*') : c ≠ d := by
  rintro rfl
  rcases h with h | h | h
  · exact hdash h
  · exact hstar h
  · simp [h] at hd

/-- A marker with white space behind it reads back. -/
theorem listMarker?_itemMarker {inParagraph ordered alternate : Bool} {number : Nat}
    {after : List Char} (hlength : (itemMarker ordered alternate number).length ≤ 10)
    (hafter : after.head?.any isSpacing = true)
    (hparagraph : inParagraph = true → restIsBlank after = false ∧ (ordered = true → number = 1)) :
    listMarker? inParagraph (itemMarker ordered alternate number ++ after) =
      some (readMarker ordered alternate number, (itemMarker ordered alternate number).length,
        after) := by
  have hblank : (inParagraph && restIsBlank after) = false := by
    cases inParagraph with
    | false => rfl
    | true => exact (hparagraph rfl).1
  cases ordered with
  | false =>
    cases alternate <;>
      simp [itemMarker, listMarker?, hafter, hblank, readMarker]
  | true =>
    have hnumber : (inParagraph && (number != 1 || restIsBlank after)) = false := by
      cases inParagraph with
      | false => rfl
      | true => simp [(hparagraph rfl).1, (hparagraph rfl).2 rfl]
    have hmark : (delimiterMark alternate :: after).head?.all (!·.isDigit) = true := by
      cases alternate <;> rfl
    have htake := toDigits_takeWhile_isDigit number hmark
    have hdrop := toDigits_dropWhile_isDigit number hmark
    have hlength' : (Nat.toDigits 10 number).length + 1 ≤ 10 := by
      rw [itemMarker_ordered, List.length_append] at hlength
      exact hlength
    have hpos : 1 ≤ (Nat.toDigits 10 number).length := Nat.length_toDigits_pos
    have hshort : (Nat.toDigits 10 number).length ≤ maxNumberLength := by
      simp only [maxNumberLength]
      omega
    obtain ⟨c, s, hmarker, hc⟩ := itemMarker_eq_cons true alternate number
    have hc' : c.isDigit = true := by simpa using hc
    have hbullet : (c == '*' || c == '-' || c == '+') = false := by
      simp only [Bool.or_eq_false_iff, beq_eq_false_iff_ne]
      refine ⟨⟨?_, ?_⟩, ?_⟩ <;> rintro rfl <;> exact absurd hc' (by decide)
    have hwhole : itemMarker true alternate number ++ after =
        Nat.toDigits 10 number ++ delimiterMark alternate :: after := by
      rw [itemMarker_ordered, List.append_assoc]
      rfl
    have hdot : (delimiterMark alternate == '.' || delimiterMark alternate == ')') = true := by
      cases alternate <;> rfl
    have hread : readMarker true alternate number =
        .number number (if delimiterMark alternate == '.' then .period else .paren) := by
      cases alternate <;> rfl
    have hsome : listMarker? inParagraph (c :: (s ++ after)) =
        some (readMarker true alternate number, (Nat.toDigits 10 number).length + 1, after) := by
      have hwhole' : c :: (s ++ after) =
          Nat.toDigits 10 number ++ delimiterMark alternate :: after := by
        rw [← hwhole, hmarker, List.cons_append]
      unfold listMarker?
      simp only [hbullet]
      rw [hwhole', htake, hdrop, decimalValue_toDigits]
      simp [hpos, hshort, hdot, hafter, hnumber, hread]
    rw [hmarker, List.cons_append, hsome, ← hmarker, itemMarker_ordered, List.length_append]
    rfl

/-- A text that starts with a marker starts neither a quote nor a heading, a fence or a tag. -/
theorem itemMarker_opens_no_other (ordered alternate : Bool) (number : Nat) (after : List Char) :
    (itemMarker ordered alternate number ++ after).head? ≠ some '>' ∧
      hashHeading? (itemMarker ordered alternate number ++ after) = none ∧
      openingFence? (itemMarker ordered alternate number ++ after) = none ∧
      ∀ inParagraph,
        Html.opening? inParagraph (itemMarker ordered alternate number ++ after) = none := by
  obtain ⟨c, s, hmarker, hc⟩ := itemMarker_eq_cons ordered alternate number
  have hmark : c = '-' ∨ c = '*' ∨ c.isDigit = true := by
    rcases hc with ⟨_, hc | hc, _⟩ | ⟨_, hc⟩ <;> simp [hc]
  have hquote : c ≠ '>' := ne_of_mark hmark (by decide) (by decide) (by decide)
  have hhash : c ≠ '#' := ne_of_mark hmark (by decide) (by decide) (by decide)
  have htilde : c ≠ '~' := ne_of_mark hmark (by decide) (by decide) (by decide)
  have htick : c ≠ '\x60' := ne_of_mark hmark (by decide) (by decide) (by decide)
  have hangle : c ≠ '<' := ne_of_mark hmark (by decide) (by decide) (by decide)
  rw [hmarker, List.cons_append]
  refine ⟨by simpa using hquote, ?_, ?_, ?_⟩
  · simp [hashHeading?, hhash]
  · simp only [openingFence?, Bool.or_false, Bool.false_and, Bool.false_eq_true, if_false,
      beq_eq_false_iff_ne.mpr htilde, beq_eq_false_iff_ne.mpr htick]
    split <;> rfl
  · intro inParagraph
    unfold Html.opening?
    split
    · rename_i heq
      simp only [List.cons.injEq] at heq
      exact absurd heq.1 hangle
    · rfl

theorem underlineLevel?_itemMarker {ordered alternate : Bool} {number : Nat} {after : List Char}
    (hafter : after.head?.any isSpacing = true) (hcontent : restIsBlank after = false) :
    underlineLevel? (itemMarker ordered alternate number ++ after) = none := by
  obtain ⟨c, s, hmarker, hc⟩ := itemMarker_eq_cons ordered alternate number
  rw [hmarker, List.cons_append]
  have hequals : c ≠ '=' := by
    refine ne_of_mark ?_ (by decide) (by decide) (by decide)
    rcases hc with ⟨_, hc | hc, _⟩ | ⟨_, hc⟩ <;> simp [hc]
  by_cases hdash : c = '-'
  · have hs : s = [] := by
      rcases hc with ⟨_, _, hs⟩ | ⟨_, hc⟩
      · exact hs
      · rw [hdash] at hc
        exact absurd hc (by decide)
    have hdrop : after.dropWhile (· == '-') = after := by
      cases after with
      | nil => rfl
      | cons d after =>
        have hd : isSpacing d = true := by simpa using hafter
        have hne : (d == '-') = false := by
          rw [beq_eq_false_iff_ne]
          rintro rfl
          exact absurd hd (by decide)
        rw [List.dropWhile_cons_of_neg (by simp [hne])]
    subst hdash hs
    simp [underlineLevel?, hdrop, hcontent]
  · unfold underlineLevel?
    split
    · rename_i heq
      exact absurd (List.cons.inj heq).1 hequals
    · rename_i heq
      exact absurd (List.cons.inj heq).1 hdash
    · rfl

namespace Markdown.Entry.At

variable {entry : Entry} {tail : OpenTail} {base : BlockFrame} {outer : List Frame}

theorem openBlocks_item (h : entry.At tail base outer) {ordered alternate : Bool} {number : Nat}
    {after : List Char} (hlength : (itemMarker ordered alternate number).length ≤ 10)
    (htext : entry.cursor.text = itemMarker ordered alternate number ++ after)
    (hafter : after.head?.any isSpacing = true)
    (hparagraph : tail.isParagraph = true →
      restIsBlank after = false ∧ (ordered = true → number = 1))
    (hbreak : isThematicBreak (itemMarker ordered alternate number ++ after) = false)
    (hindent : entry.cursor.indent ≤ 3) (fuel : Nat) {depth : Nat} (hdepth : depth < maxListNesting)
    (maybeLazy : Bool) :
    entry.openBlocks (fuel + 1) depth maybeLazy =
      let width := (itemMarker ordered alternate number).length
      let (padding, inner) := itemContent (entry.cursor.toText.advanceChars width)
      (entry.openItem (readMarker ordered alternate number)
        (entry.cursor.indent + width + padding) inner).openBlocks fuel (depth + 1) false := by
  have hcode : entry.cursor.isIndented = false := by
    simp only [Cursor.isIndented, decide_eq_false_iff_not]
    omega
  have hin : entry.inParagraph = true → tail.isParagraph = true := by
    intro hin
    obtain ⟨leaf, hleaf, hp⟩ := (Option.any_eq_true _ _).mp hin
    obtain ⟨rfl, -⟩ := h.eq_of_growingLeaf? hleaf
    exact hp
  have hparagraph' : entry.inParagraph = true →
      restIsBlank after = false ∧ (ordered = true → number = 1) := fun hp => hparagraph (hin hp)
  have hmarker := listMarker?_itemMarker hlength hafter hparagraph'
  obtain ⟨hquote, hheading, hfence, hhtml⟩ :=
    itemMarker_opens_no_other ordered alternate number after
  have hverbatim : entry.growingLeaf?.any (·.isVerbatim) = false := by
    cases hleaf : entry.growingLeaf? with
    | none => rfl
    | some leaf =>
      obtain ⟨-, tried, hkind⟩ := h.eq_of_growingLeaf? hleaf
      simp [OpenLeaf.isVerbatim, hkind]
  have hunderline : (entry.growingLeaf?.bind fun leaf =>
      if leaf.isParagraph then (underlineLevel? entry.cursor.text).map fun level => (leaf, level)
      else none) = none := by
    cases hleaf : entry.growingLeaf? with
    | none => rfl
    | some leaf =>
      by_cases hp : leaf.isParagraph = true
      · have hcontent := (hparagraph' (by simp [inParagraph, hleaf, hp])).1
        simp [htext, underlineLevel?_itemMarker hafter hcontent]
      · simp [hp]
  rw [openBlocks]
  simp only [hverbatim, hcode, htext, hquote, hheading, hfence, hhtml, hbreak, hdepth, hmarker,
    Bool.false_eq_true, if_false, if_true, beq_iff_eq]
  rw [htext] at hunderline
  simp only [hunderline]

theorem openItem_new (h : entry.At tail base outer) {marker : ListMarker}
    (hnew : ∀ m, tail.marker? = some m → m.continuedBy marker = false) (width : Nat)
    (cursor : Cursor) :
    ∃ (l : ListFrame) (around : BlockFrame), l.marker = marker ∧ l.items = [] ∧
      around.kind = base.kind ∧ around.children.map ClosedBlock.unplaced = tail.doneIn base ∧
      (entry.openItem marker width cursor).line = entry.line ∧
      (entry.openItem marker width cursor).cursor = cursor ∧
      (entry.openItem marker width cursor).At .nothing ⟨.item width, entry.line, false, []⟩
        (l.toFrame :: around.toFrame :: outer) := by
  have hcontinues : (!entry.growing &&
      (entry.frames.head?.bind (·.listMarker?)).any (·.continuedBy marker)) = false := by
    have hhead : (entry.frames.head?.bind (·.listMarker?)).any (·.continuedBy marker) = false := by
      rw [h.frames]
      cases tail with
      | nothing => rfl
      | leaf l => rfl
      | list l => exact hnew l.marker rfl
      | item l i inside => exact hnew l.marker rfl
    rw [hhead, Bool.and_false]
  have hopen : entry.openItem marker width cursor =
      { entry.settle false true with
        frames := .blocks (.item width) entry.line false [] :: .list marker entry.line false [] ::
          (entry.settle false true).frames
        cursor } := by
    simp only [openItem, hcontinues, Bool.false_eq_true, if_false]
  rw [hopen, h.settle true]
  refine ⟨⟨marker, entry.line, false, []⟩, base.push (tail.closed entry.closing), rfl, rfl, rfl,
    ?_, rfl, rfl, ⟨rfl, rfl, rfl, rfl, trivial, fun hgrowing => by simp at hgrowing⟩⟩
  rw [BlockFrame.unplaced_push, h.sound.unplaced_closed]
  rfl

theorem openItem_next (h : entry.At tail base outer) {m marker : ListMarker}
    (hm : tail.marker? = some m) (hcontinued : m.continuedBy marker = true) (width : Nat)
    (cursor : Cursor) :
    ∃ l : ListFrame, l.marker = m ∧ l.items.map ClosedItem.unplaced = tail.itemsDone ∧
      (entry.openItem marker width cursor).line = entry.line ∧
      (entry.openItem marker width cursor).cursor = cursor ∧
      (entry.openItem marker width cursor).At .nothing ⟨.item width, entry.line, false, []⟩
        (l.toFrame :: base.toFrame :: outer) := by
  have hgrowing : entry.growing = false := by
    by_contra hgrowing
    obtain ⟨leaf, tried, rfl, _⟩ := h.growing (by simpa using hgrowing)
    simp [OpenTail.marker?] at hm
  have hopen (hhead : entry.frames.head?.bind (·.listMarker?) = some m) :
      entry.openItem marker width cursor =
        { entry.settle true true with
          frames := .blocks (.item width) entry.line false [] :: (entry.settle true true).frames
          cursor } := by
    simp [openItem, hgrowing, hhead, hcontinued]
  obtain ⟨l, rfl, rfl⟩ | ⟨l, i, inside, rfl, rfl⟩ := OpenTail.eq_of_marker? hm
  · rw [hopen (by rw [h.frames]; rfl), h.settle_list true]
    exact ⟨l, rfl, rfl, rfl, rfl,
      ⟨rfl, rfl, rfl, rfl, trivial, fun hgrowing => by simp at hgrowing⟩⟩
  · rw [hopen (by rw [h.frames]; rfl), h.settle_item true]
    refine ⟨l.push (i.closeItem entry.closing (inside.closed entry.closing)), rfl, ?_, rfl, rfl,
      ⟨rfl, rfl, rfl, rfl, trivial, fun hgrowing => by simp at hgrowing⟩⟩
    rw [ListFrame.push, List.map_cons, OpenTail.Sound.unplaced_closeItem h.sound]
    rfl

end Markdown.Entry.At

namespace Markdown.Cursor

variable {cursor : Cursor} {marker : List Char}

private theorem advanceChars_marker (hmarker : marker ≠ []) {after : List Char}
    (htext : cursor.text = marker ++ after) :
    ∃ column, cursor.toText.advanceChars marker.length = ⟨after, column, false⟩ := by
  have htoText : cursor.toText.rest = marker ++ after := (Cursor.rest_toText cursor).trans htext
  have hrest : (cursor.toText.advanceChars marker.length).rest = after := by
    rw [advanceChars, takeChars_rest, htoText, List.drop_left]
  have hsplit : (cursor.toText.advanceChars marker.length).splitTab = false := by
    refine takeChars_splitTab _ _ _ (List.length_pos_of_ne_nil hmarker) ?_
    rw [htoText]
    simp [hmarker]
  exact ⟨_, by rw [← hrest, ← hsplit]⟩

/-- The content of an item starts one column behind the marker, where no spaces stand in front of it
or so many that it starts with code. -/
theorem itemContent_text (hmarker : marker ≠ []) {lead : Nat} (hlead : lead = 0 ∨ 4 ≤ lead)
    {s text : List Char} (htext : cursor.text = marker ++ ' ' :: s)
    (hs : s = List.replicate lead ' ' ++ text) (hhead : text.head?.all (!isSpaceOrTab ·))
    (hblank : restIsBlank s = false) :
    ∃ inner, Entry.itemContent (cursor.toText.advanceChars marker.length) = (1, inner) ∧
      Behind s inner 0 := by
  obtain ⟨column, hadvanced⟩ := advanceChars_marker hmarker htext
  rw [hadvanced]
  have hindent : (⟨' ' :: s, column, false⟩ : Cursor).indent = lead + 1 := by
    show leadingColumns s (column + 1) + 1 = lead + 1
    rw [hs, leadingColumns_replicate_space lead hhead]
  have hnot : (⟨' ' :: s, column, false⟩ : Cursor).isBlank = false := hblank
  have hadvance : (⟨' ' :: s, column, false⟩ : Cursor).advanceColumns 1 = ⟨s, column + 1, false⟩ := by
    show takeColumns s (column + 1) 0 false = _
    cases s <;> rfl
  refine ⟨⟨s, column + 1, false⟩, ?_, .here _⟩
  obtain rfl | hlead := hlead
  · simp [Entry.itemContent, hindent, hnot, hadvance]
  · have hwide : ¬ min 6 (lead + 1) < 5 := by omega
    simp [Entry.itemContent, hindent, hwide, hadvance]

theorem itemContent_end (hmarker : marker ≠ []) (htext : cursor.text = marker ++ ['\n']) :
    ∃ inner, Entry.itemContent (cursor.toText.advanceChars marker.length) = (1, inner) ∧
      inner.rest = ['\n'] ∧ inner.splitTab = false := by
  obtain ⟨column, hadvanced⟩ := advanceChars_marker hmarker htext
  rw [hadvanced]
  exact ⟨⟨['\n'], column, false⟩, rfl, rfl, rfl⟩

end Markdown.Cursor

end MarkdownOutline
