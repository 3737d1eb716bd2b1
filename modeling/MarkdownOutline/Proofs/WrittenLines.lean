import MarkdownOutline.Markdown.LineStart
import MarkdownOutline.Markdown.Writer

/-!
# Written lines

A document is written line by line: the lines of its blocks, with the lines of an item indented
below its first one and empty lines in between.
-/

namespace MarkdownOutline

open Markdown Text

/-- The lines of a text; the empty text has none. -/
def textLines (s : List Char) : List (List Char) := if s.isEmpty then [] else splitAt '\n' s

/-- The line behind some tabs; an empty line stays empty. -/
def indentLine (tabs : Nat) (line : List Char) : List Char :=
  if line.isEmpty then [] else List.replicate tabs '\t' ++ line

def itemTabs (marker : List Char) : Nat := marker.length / 4 + 1

def itemLines (marker : List Char) : List (List Char) → List (List Char)
  | [] => [marker]
  | line :: lines => (marker ++ ' ' :: line) :: lines.map (indentLine (itemTabs marker))

/-- The empty line that stands in front of a block, if one does. -/
def separatorLines (preceding : Preceding) (tight : Bool) (next : Block) : List (List Char) :=
  if preceding = .nothing || tight && next.list?.isSome then [] else [[]]

mutual

def Block.lines (alternate : Bool) : Block → List (List Char)
  | .heading h => textLines h.toText
  | .paragraph p => textLines p.toText
  | .list (.mk ordered start tight items _) => itemsLines ordered alternate tight start items
  | .other m _ => textLines (markupText m)

def itemsLines (ordered alternate tight : Bool) (number : Nat) : List Item → List (List Char)
  | [] => []
  | .mk children _ :: rest =>
    let item :=
      itemLines (itemMarker ordered alternate number) (blocksLines tight .nothing children)
    match rest with
    | [] => item
    | _ :: _ =>
      item ++ (if tight then [] else [[]]) ++
        itemsLines ordered alternate tight (number + 1) rest

def blocksLines (tight : Bool) (preceding : Preceding) : List Block → List (List Char)
  | [] => []
  | block :: rest =>
    let alternate := preceding.alternates block
    let lines := block.lines alternate
    if lines.isEmpty then blocksLines tight preceding rest
    else separatorLines preceding tight block ++ lines ++
      blocksLines tight (.ofBlock alternate block) rest

end

def joinLines (lines : List (List Char)) : List Char := ['\n'].intercalate lines

/-- The character can stand inside a line, where it is read as itself. -/
def isLineChar (c : Char) : Bool := !isLineEnd c && c != '\x00'

/-- A line can start with the character: it is no white space and no byte order mark. -/
def isStartChar (c : Char) : Bool := !isSpacing c && c != '\ufeff'

/-- The line has text behind some spaces, and no byte order mark in front. -/
structure StartsAfter (lead : Nat) (line : List Char) : Prop where
  text : ∃ text, line = List.replicate lead ' ' ++ text ∧ text.head?.any (!isSpacing ·) = true
  mark : line.head? ≠ some '\ufeff'

namespace StartsAfter

variable {lead : Nat} {line : List Char}

theorem of_isStartChar (h : line.head?.any isStartChar = true) : StartsAfter 0 line := by
  cases line with
  | nil => simp at h
  | cons c s =>
    have hc : isStartChar c = true := by simpa using h
    simp only [isStartChar, Bool.and_eq_true, bne_iff_ne] at hc
    exact ⟨⟨c :: s, rfl, by simpa using hc.1⟩, by simpa using hc.2⟩

theorem exists_eq (h : StartsAfter lead line) :
    ∃ c s, line = List.replicate lead ' ' ++ c :: s ∧ isSpaceOrTab c = false ∧
      isLineEnd c = false := by
  obtain ⟨text, rfl, hhead⟩ := h.text
  cases text with
  | nil => simp at hhead
  | cons c s =>
    have hc : isSpacing c = false := by simpa using hhead
    simp only [isSpacing, Bool.or_eq_false_iff] at hc
    exact ⟨c, s, rfl, hc⟩

theorem ne_nil (h : StartsAfter lead line) : line ≠ [] := by
  obtain ⟨c, s, rfl, _⟩ := h.exists_eq
  simp

theorem dropWhile_isSpaceOrTab (h : StartsAfter lead line) :
    ∃ c s, (line ++ ['\n']).dropWhile isSpaceOrTab = c :: s ∧ isLineEnd c = false := by
  obtain ⟨c, s, rfl, hspace, hend⟩ := h.exists_eq
  refine ⟨c, s ++ ['\n'], ?_, hend⟩
  have hlead : ∀ d ∈ List.replicate lead ' ', isSpaceOrTab d = true := by
    intro d hd
    rw [List.eq_of_mem_replicate hd]
    rfl
  rw [List.append_assoc, List.dropWhile_append_of_pos hlead, List.cons_append,
    List.dropWhile_cons_of_neg (by simp [hspace])]

theorem restIsBlank (h : StartsAfter lead line) : restIsBlank (line ++ ['\n']) = false := by
  obtain ⟨c, s, hdrop, hend⟩ := h.dropWhile_isSpaceOrTab
  simp [Markdown.restIsBlank, hdrop, hend]

end StartsAfter

/-- The lines of a text that ends with something else than a line end. -/
structure Clean (lines : List (List Char)) : Prop where
  lineChars : ∀ line ∈ lines, ∀ c ∈ line, isLineChar c = true
  last : lines.getLast? ≠ some []

theorem joinLines_cons {line : List Char} {lines : List (List Char)} (h : lines ≠ []) :
    joinLines (line :: lines) = line ++ '\n' :: joinLines lines := by
  rw [joinLines, List.intercalate_cons_of_ne_nil h, List.append_assoc]
  rfl

private theorem joinLines_cons_cons (line next : List Char) (lines : List (List Char)) :
    joinLines (line :: next :: lines) = line ++ '\n' :: joinLines (next :: lines) :=
  joinLines_cons (by simp)

theorem joinLines_append {first second : List (List Char)} (hfirst : first ≠ [])
    (hsecond : second ≠ []) :
    joinLines (first ++ second) = joinLines first ++ '\n' :: joinLines second := by
  rw [joinLines, intercalate_append _ hfirst hsecond, List.append_assoc]
  rfl

theorem joinLines_splitAt (s : List Char) : joinLines (splitAt '\n' s) = s := by
  rw [joinLines, splitAt_eq_splitOn, List.intercalate_splitOn]

theorem joinLines_textLines (s : List Char) : joinLines (textLines s) = s := by
  unfold textLines
  split
  · rename_i h
    rw [List.isEmpty_iff.mp h]
    rfl
  · exact joinLines_splitAt s

private theorem ne_lineEnd_of_isLineChar {c : Char} (h : isLineChar c = true) :
    c ≠ '\n' ∧ c ≠ '\r' := by
  constructor <;> rintro rfl <;> exact absurd h (by decide)

private theorem lineContents_cons {c : Char} (hc : isLineChar c = true) {s first : List Char}
    {lines : List (List Char)} (h : lineContents s = first :: lines) :
    lineContents (c :: s) = (c :: first) :: lines := by
  obtain ⟨hfeed, hreturn⟩ := ne_lineEnd_of_isLineChar hc
  rw [lineContents, h]
  · exact hfeed
  · exact fun _ hc _ => hreturn hc

private theorem lineContents_line {line : List Char} (hline : ∀ c ∈ line, isLineChar c = true)
    (hne : line ≠ []) : lineContents line = [line] := by
  induction line with
  | nil => exact absurd rfl hne
  | cons c line ih =>
    have hc := hline c (by simp)
    cases line with
    | nil =>
      have hfeed := (ne_lineEnd_of_isLineChar hc).1
      simp [lineContents]
    | cons d line =>
      exact lineContents_cons hc (ih (fun x hx => hline x (by simp [hx])) (by simp))

private theorem lineContents_line_append {line : List Char}
    (hline : ∀ c ∈ line, isLineChar c = true) (s : List Char) :
    lineContents (line ++ '\n' :: s) = line :: lineContents s := by
  induction line with
  | nil => rfl
  | cons c line ih =>
    exact lineContents_cons (hline c (by simp)) (ih (fun x hx => hline x (by simp [hx])))

theorem lineContents_joinLines {lines : List (List Char)} (h : Clean lines) :
    lineContents (joinLines lines) = lines := by
  induction lines with
  | nil => rfl
  | cons line lines ih =>
    cases lines with
    | nil =>
      have hne : line ≠ [] := fun hline => h.last (by simp [hline])
      rw [joinLines, List.intercalate_singleton]
      exact lineContents_line (h.lineChars line (by simp)) hne
    | cons next lines =>
      have hrest : Clean (next :: lines) :=
        ⟨fun l hl => h.lineChars l (by simp [hl]), fun hl => h.last (by simpa using hl)⟩
      rw [joinLines_cons_cons, lineContents_line_append (h.lineChars line (by simp)),
        ih hrest]

private theorem splitLines_line_append {line : List Char}
    (hline : ∀ c ∈ line, isLineChar c = true) (s : List Char) :
    splitLines (line ++ '\n' :: s) = (line ++ ['\n']) :: splitLines s := by
  induction line with
  | nil =>
    rw [List.nil_append, splitLines]
    · simp
    · simp
  | cons c line ih =>
    obtain ⟨hfeed, hreturn⟩ := ne_lineEnd_of_isLineChar (hline c (by simp))
    have hend : (c == '\n' || c == '\r') = false := by simp [hfeed, hreturn]
    have hstep : splitLines (c :: (line ++ '\n' :: s)) =
        match splitLines (line ++ '\n' :: s) with
        | [] => [[c, '\n']]
        | first :: lines => (c :: first) :: lines := by
      rw [splitLines]
      · rw [hend]
        rfl
      · exact fun _ h _ => hreturn h
    rw [List.cons_append, hstep, ih (fun x hx => hline x (by simp [hx]))]
    rfl

theorem splitLines_joinLines {lines : List (List Char)} (hne : lines ≠ [])
    (h : ∀ line ∈ lines, ∀ c ∈ line, isLineChar c = true) :
    splitLines (joinLines lines ++ ['\n']) = lines.map (· ++ ['\n']) := by
  induction lines with
  | nil => exact absurd rfl hne
  | cons line lines ih =>
    cases lines with
    | nil =>
      rw [joinLines, List.intercalate_singleton, splitLines_line_append (h line (by simp))]
      rfl
    | cons next lines =>
      rw [joinLines_cons_cons, List.append_assoc, List.cons_append,
        splitLines_line_append (h line (by simp)),
        ih (by simp) (fun l hl => h l (by simp [hl]))]
      rfl

theorem Clean.append {first second : List (List Char)} (hfirst : Clean first)
    (hsecond : Clean second) : Clean (first ++ second) where
  lineChars := by
    intro line hline
    rcases List.mem_append.mp hline with hline | hline
    · exact hfirst.lineChars line hline
    · exact hsecond.lineChars line hline
  last := by
    rw [List.getLast?_append]
    cases hlast : second.getLast? with
    | none => simpa [hlast] using hfirst.last
    | some line =>
      have hne := hsecond.last
      rw [hlast] at hne
      simpa using hne

theorem Clean.cons_nil {lines : List (List Char)} (h : Clean lines) (hne : lines ≠ []) :
    Clean ([] :: lines) where
  lineChars := by
    intro line hline
    rcases List.mem_cons.mp hline with rfl | hline
    · simp
    · exact h.lineChars line hline
  last := by
    rw [List.getLast?_cons]
    cases hlast : lines.getLast? with
    | none => exact absurd (List.getLast?_eq_none_iff.mp hlast) hne
    | some line =>
      have hne := h.last
      rw [hlast] at hne
      simpa using hne

end MarkdownOutline
