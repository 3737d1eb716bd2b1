import MarkdownOutline.Markdown.Cursor

/-!
# Indentation

Containers take columns off the indentation of a line and leave its text alone, also where a tab
is shared between two of them.
-/

namespace MarkdownOutline

theorem drop_length_takeWhile {α : Type} (p : α → Bool) (s : List α) :
    s.drop (s.takeWhile p).length = s.dropWhile p := by
  induction s with
  | nil => rfl
  | cons c s ih => by_cases hc : p c <;> simp [hc, ih]

namespace Markdown

open Text

namespace Cursor

def WellPlaced (cursor : Cursor) : Prop := cursor.splitTab = true → cursor.rest.head? = some '\t'

theorem takeChars_rest (rest : List Char) (column count : Nat) (split : Bool) :
    (takeChars rest column count split).rest = rest.drop count := by
  induction rest generalizing column count split with
  | nil => simp [takeChars]
  | cons c rest ih =>
    cases count with
    | zero => rfl
    | succ count => simp [takeChars, ih]

theorem takeChars_splitTab (rest : List Char) (column : Nat) {count : Nat} (split : Bool)
    (hcount : 0 < count) (hrest : rest ≠ []) :
    (takeChars rest column count split).splitTab = false := by
  induction rest generalizing column count split with
  | nil => exact absurd rfl hrest
  | cons c rest ih =>
    obtain ⟨count, rfl⟩ : ∃ k, count = k + 1 := ⟨count - 1, by omega⟩
    simp only [takeChars]
    cases rest with
    | nil => simp [takeChars]
    | cons d rest =>
      cases count with
      | zero => rfl
      | succ count => exact ih _ false (by omega) (by simp)

@[simp] theorem rest_toText (cursor : Cursor) : cursor.toText.rest = cursor.text := by
  unfold toText advanceChars
  rw [takeChars_rest]
  exact drop_length_takeWhile isSpaceOrTab cursor.rest

theorem WellPlaced.splitTab_toText {cursor : Cursor} (h : cursor.WellPlaced) :
    cursor.toText.splitTab = false := by
  unfold toText advanceChars
  by_cases hsplit : cursor.splitTab = true
  · obtain ⟨rest, hrest⟩ : ∃ rest, cursor.rest = '\t' :: rest :=
      List.head?_eq_some_iff.mp (h hsplit)
    refine takeChars_splitTab _ _ _ ?_ (by simp [hrest])
    have htab : isSpaceOrTab '\t' = true := rfl
    simp [indentChars, hrest, htab]
  · by_cases hchars : cursor.indentChars = 0
    · rw [hchars]
      have hzero : takeChars cursor.rest cursor.column 0 cursor.splitTab =
          ⟨cursor.rest, cursor.column, cursor.splitTab⟩ := by
        cases cursor.rest <;> rfl
      rw [hzero]
      simpa using hsplit
    · refine takeChars_splitTab _ _ _ (by omega) ?_
      intro hrest
      simp [indentChars, hrest] at hchars

theorem WellPlaced.content_toText {cursor : Cursor} (h : cursor.WellPlaced) :
    cursor.toText.content = cursor.text := by
  simp [content, h.splitTab_toText]

theorem dropWhile_of_head {s : List Char} (h : s.head?.all (!isSpaceOrTab ·)) :
    s.dropWhile isSpaceOrTab = s := by
  cases s with
  | nil => rfl
  | cons c s =>
    have hc : isSpaceOrTab c = false := by simpa using h
    rw [List.dropWhile_cons_of_neg (by simp [hc])]

theorem leadingColumns_of_head {s : List Char} (h : s.head?.all (!isSpaceOrTab ·))
    (column : Nat) : leadingColumns s column = 0 := by
  cases s with
  | nil => rfl
  | cons c s =>
    have hc : isSpaceOrTab c = false := by simpa using h
    simp only [isSpaceOrTab, Bool.or_eq_false_iff] at hc
    simp [leadingColumns, hc.1, hc.2]

private theorem leadingColumns_replicate_tab (count : Nat) (s : List Char) (column : Nat)
    (hcolumn : column % 4 = 0) :
    leadingColumns (List.replicate count '\t' ++ s) column =
      4 * count + leadingColumns s (column + 4 * count) := by
  induction count generalizing column with
  | zero => simp
  | succ count ih =>
    have hstep : leadingColumns (List.replicate (count + 1) '\t' ++ s) column =
        leadingColumns (List.replicate count '\t' ++ s) (column + columnsToTab column) +
          columnsToTab column := rfl
    have hwidth : columnsToTab column = 4 := by simp [columnsToTab, hcolumn]
    rw [hstep, hwidth, ih (column + 4) (by omega)]
    rw [show column + 4 + 4 * count = column + 4 * (count + 1) by omega]
    omega

theorem wellPlaced_of_whole {cursor : Cursor} (h : cursor.splitTab = false) :
    cursor.WellPlaced := fun hsplit => by simp [h] at hsplit

/-- The cursor stands before the text, behind some columns of tabs. The first tab may have lost
columns. -/
inductive Behind (s : List Char) : Cursor → Nat → Prop where
  | here (column : Nat) : Behind s ⟨s, column, false⟩ 0
  | tabs (count column : Nat) : Behind s
      ⟨List.replicate (count + 1) '\t' ++ s, column, decide (column % 4 ≠ 0)⟩
      (columnsToTab column + 4 * count)

theorem behind_start (tabs : Nat) (s : List Char) :
    Behind s ⟨List.replicate tabs '\t' ++ s, 0, false⟩ (4 * tabs) := by
  cases tabs with
  | zero => exact .here 0
  | succ count =>
    have hwidth : columnsToTab 0 + 4 * count = 4 * (count + 1) := by
      simp only [columnsToTab]
      omega
    exact hwidth ▸ .tabs count 0

variable {s : List Char} {cursor : Cursor} {left : Nat}

private theorem takeColumns_zero (rest : List Char) (column : Nat) (split : Bool) :
    takeColumns rest column 0 split = ⟨rest, column, split⟩ := by cases rest <;> rfl

private theorem takeColumns_past {column count : Nat} (h : columnsToTab column ≤ count)
    (rest : List Char) (split : Bool) :
    takeColumns ('\t' :: rest) column count split =
      takeColumns rest (column + columnsToTab column) (count - columnsToTab column) false := by
  have hpos : 0 < columnsToTab column := by
    simp only [columnsToTab]
    omega
  obtain ⟨count, rfl⟩ : ∃ k, count = k + 1 := ⟨count - 1, by omega⟩
  simp [takeColumns, Nat.not_lt.mpr h]

private theorem behind_within {column count : Nat} (h : count < columnsToTab column) (tabs : Nat) :
    Behind s
      (takeColumns (List.replicate (tabs + 1) '\t' ++ s) column count (decide (column % 4 ≠ 0)))
      (columnsToTab column + 4 * tabs - count) := by
  cases count with
  | zero =>
    rw [takeColumns_zero]
    exact .tabs tabs column
  | succ count =>
    have htake : takeColumns (List.replicate (tabs + 1) '\t' ++ s) column (count + 1)
        (decide (column % 4 ≠ 0)) =
        ⟨List.replicate (tabs + 1) '\t' ++ s, column + (count + 1), true⟩ := by
      simp [List.replicate_succ, takeColumns, h]
    simp only [columnsToTab] at h
    have hsplit : decide ((column + (count + 1)) % 4 ≠ 0) = true := by
      simp only [decide_eq_true_eq]
      omega
    have hleft : columnsToTab (column + (count + 1)) + 4 * tabs =
        columnsToTab column + 4 * tabs - (count + 1) := by
      simp only [columnsToTab]
      omega
    rw [htake, ← hleft, ← hsplit]
    exact .tabs tabs _

theorem Behind.advanceColumns (h : Behind s cursor left) {count : Nat} (hcount : count ≤ left) :
    Behind s (cursor.advanceColumns count) (left - count) := by
  unfold Cursor.advanceColumns
  cases h with
  | here column =>
    obtain rfl : count = 0 := by omega
    rw [takeColumns_zero]
    exact .here column
  | tabs tabs column =>
    induction tabs generalizing column count with
    | zero =>
      rcases Nat.lt_or_ge count (columnsToTab column) with hshort | hlong
      · exact behind_within hshort 0
      · obtain rfl : count = columnsToTab column := by omega
        rw [List.replicate_one, List.singleton_append, takeColumns_past hlong, Nat.sub_self,
          Nat.mul_zero, Nat.add_zero, Nat.sub_self, takeColumns_zero]
        exact .here _
    | succ tabs ih =>
      rcases Nat.lt_or_ge count (columnsToTab column) with hshort | hlong
      · exact behind_within hshort (tabs + 1)
      · have hstop : (column + columnsToTab column) % 4 = 0 := by
          simp only [columnsToTab]
          omega
        have hwidth : columnsToTab (column + columnsToTab column) = 4 := by
          simp only [columnsToTab] at hstop ⊢
          omega
        have hrest := ih (column + columnsToTab column) (show count - columnsToTab column ≤
          columnsToTab (column + columnsToTab column) + 4 * tabs by omega)
        rw [hwidth, hstop] at hrest
        rw [List.replicate_succ, List.cons_append, takeColumns_past hlong]
        have hleft : columnsToTab column + 4 * (tabs + 1) - count =
            4 + 4 * tabs - (count - columnsToTab column) := by omega
        rw [hleft]
        exact hrest

theorem Behind.wellPlaced (h : Behind s cursor left) : cursor.WellPlaced := by
  cases h with
  | here column => exact wellPlaced_of_whole rfl
  | tabs count column => exact fun _ => rfl

theorem Behind.text (h : Behind s cursor left) : cursor.text = s.dropWhile isSpaceOrTab := by
  cases h with
  | here column => rfl
  | tabs count column =>
    unfold Cursor.text
    rw [List.dropWhile_append_of_pos]
    intro c hc
    rw [List.eq_of_mem_replicate hc]
    rfl

theorem Behind.exists_indent (h : Behind s cursor left) :
    ∃ column, cursor.indent = left + leadingColumns s column := by
  cases h with
  | here column => exact ⟨column, (Nat.zero_add _).symm⟩
  | tabs count column =>
    have hstop : (column + columnsToTab column) % 4 = 0 := by
      simp only [columnsToTab]
      omega
    have hfirst : leadingColumns (List.replicate (count + 1) '\t' ++ s) column =
        leadingColumns (List.replicate count '\t' ++ s) (column + columnsToTab column) +
          columnsToTab column := rfl
    refine ⟨column + columnsToTab column + 4 * count, ?_⟩
    unfold Cursor.indent
    rw [hfirst, leadingColumns_replicate_tab count s _ hstop]
    omega

theorem leadingColumns_replicate_space (count : Nat) {text : List Char}
    (htext : text.head?.all (!isSpaceOrTab ·)) (column : Nat) :
    leadingColumns (List.replicate count ' ' ++ text) column = count := by
  induction count generalizing column with
  | zero => exact leadingColumns_of_head htext column
  | succ count ih => exact congrArg (· + 1) (ih (column + 1))

theorem Behind.indent (h : Behind s cursor left) {lead : Nat} {text : List Char}
    (hs : s = List.replicate lead ' ' ++ text) (htext : text.head?.all (!isSpaceOrTab ·)) :
    cursor.indent = left + lead := by
  obtain ⟨column, hindent⟩ := h.exists_indent
  rw [hindent, hs, leadingColumns_replicate_space lead htext]

theorem Behind.cases_le (h : Behind s cursor left) (hleft : left ≤ 3) :
    (left = 0 ∧ cursor.rest = s ∧ cursor.splitTab = false) ∨
      (0 < left ∧ cursor.rest = '\t' :: s ∧ columnsToTab cursor.column = left ∧
        cursor.splitTab = true) := by
  cases h with
  | here column => exact .inl ⟨rfl, rfl, rfl⟩
  | tabs count column =>
    simp only [columnsToTab] at hleft
    obtain rfl : count = 0 := by omega
    refine .inr ⟨?_, rfl, rfl, ?_⟩
    · simp only [columnsToTab]
      omega
    · simp only [decide_eq_true_eq]
      omega

theorem Behind.content (h : Behind s cursor 0) : cursor.content = s := by
  obtain ⟨_, hrest, hsplit⟩ | ⟨hpos, _⟩ := h.cases_le (Nat.zero_le 3)
  · simp [Cursor.content, hrest, hsplit]
  · exact absurd hpos (Nat.lt_irrefl 0)

theorem Behind.skipColumns (h : Behind s cursor left) (hleft : left ≤ 1) :
    Behind s (cursor.skipColumns left) 0 := by
  obtain rfl | rfl : left = 0 ∨ left = 1 := by omega
  · exact h
  · obtain ⟨hzero, _⟩ | ⟨_, hrest, _⟩ := h.cases_le (by omega)
    · exact absurd hzero (by decide)
    · have hskip : cursor.skipColumns 1 = cursor.advanceColumns 1 := by
        simp [Cursor.skipColumns, skipColumn, hrest, isSpaceOrTab]
      rw [hskip]
      exact h.advanceColumns (Nat.le_refl 1)

theorem Behind.advanceColumns_spaces (h : Behind ("    ".toList ++ s) cursor 0) :
    Behind s (cursor.advanceColumns 4) 0 := by
  obtain ⟨_, hrest, hsplit⟩ | ⟨hpos, _⟩ := h.cases_le (Nat.zero_le 3)
  · have hadvance : cursor.advanceColumns 4 = ⟨s, cursor.column + 4, false⟩ := by
      unfold Cursor.advanceColumns
      rw [hrest]
      exact takeColumns_zero s _ _
    rw [hadvance]
    exact .here _
  · exact absurd hpos (Nat.lt_irrefl 0)

theorem Behind.indentChars (h : Behind s cursor left) (hleft : left ≤ 3)
    (htext : s.head?.all (!isSpaceOrTab ·)) : cursor.indentChars = min left 1 := by
  have hown : s.takeWhile isSpaceOrTab = [] := by
    cases s with
    | nil => rfl
    | cons c s =>
      have hc : isSpaceOrTab c = false := by simpa using htext
      simp [hc]
  unfold Cursor.indentChars
  obtain ⟨hzero, hrest, _⟩ | ⟨hpos, hrest, _⟩ := h.cases_le hleft
  · simp [hrest, hown, hzero]
  · have htab : isSpaceOrTab '\t' = true := rfl
    simp [hrest, hown, htab]
    omega

end Cursor

end Markdown

end MarkdownOutline
