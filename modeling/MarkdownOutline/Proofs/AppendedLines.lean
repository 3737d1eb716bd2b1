import MarkdownOutline.Proofs.AppendedContent

/-!
# Sections below a text, line by line

A section that is added starts a line of its own, below a rule that was there or is put there,
unless the text stops short behind its own rule. A section counts as there already if the last lines
of the text are its lines; the first of them may be only the end of a line.
-/

namespace MarkdownOutline

open Text

/-- The lines of a text, without the line feeds between them. -/
def linesOf (text : List Char) : List (List Char) := splitAt '\n' text

theorem linesOf_ne_nil (text : List Char) : linesOf text ≠ [] := by
  rw [linesOf, splitAt_eq_splitOn]
  exact List.splitOn_ne_nil _ _

theorem linesOf_cons (c : Char) (text : List Char) :
    linesOf (c :: text) =
      if c = '\n' then [] :: linesOf text else (linesOf text).modifyHead (c :: ·) := by
  simp only [linesOf, splitAt_eq_splitOn, List.splitOn_cons_eq_if_modifyHead, beq_iff_eq]

theorem linesOf_of_not_mem {text : List Char} (h : '\n' ∉ text) : linesOf text = [text] := by
  rw [linesOf, splitAt_eq_splitOn, List.splitOn_eq_singleton h]

theorem intercalate_linesOf (text : List Char) : ['\n'].intercalate (linesOf text) = text := by
  rw [linesOf, splitAt_eq_splitOn, List.intercalate_splitOn]

theorem linesOf_append_newline (front back : List Char) :
    linesOf (front ++ '\n' :: back) = linesOf front ++ linesOf back := by
  simp only [linesOf, splitAt_eq_splitOn, List.splitOn_append_cons_self]

/-- Where two texts meet, the last line of the one and the first of the other are one line. -/
theorem linesOf_append {front back last first : List Char} {above below : List (List Char)}
    (hfront : linesOf front = above ++ [last]) (hback : linesOf back = first :: below) :
    linesOf (front ++ back) = above ++ (last ++ first) :: below := by
  induction front generalizing above last with
  | nil =>
    obtain ⟨rfl, rfl⟩ : above = [] ∧ last = [] := by
      simpa [linesOf, splitAt, List.singleton_eq_append_iff] using hfront
    exact hback
  | cons c front ih =>
    rw [linesOf_cons] at hfront
    rw [List.cons_append, linesOf_cons]
    by_cases hc : c = '\n'
    · rw [if_pos hc] at hfront ⊢
      cases above with
      | nil => exact absurd (List.cons.inj hfront).2 (linesOf_ne_nil front)
      | cons line above =>
        obtain ⟨rfl, hrest⟩ := List.cons.inj hfront
        rw [ih hrest, List.cons_append]
    · rw [if_neg hc] at hfront ⊢
      cases hlines : linesOf front with
      | nil => exact absurd hlines (linesOf_ne_nil front)
      | cons line lines =>
        rw [hlines, List.modifyHead_cons] at hfront
        cases above with
        | nil =>
          obtain ⟨rfl, rfl⟩ := List.cons.inj hfront
          have hlast : linesOf front = [] ++ [line] := hlines
          rw [ih hlast]
          rfl
        | cons other above =>
          obtain ⟨rfl, rfl⟩ := List.cons.inj hfront
          have hlast : linesOf front = (line :: above) ++ [last] := hlines
          rw [ih hlast]
          rfl

/-- The line is a rule: three or more dashes, and white space behind them if any. -/
def isRule (line : List Char) : Bool :=
  3 ≤ (trimEnd line).length && (trimEnd line).all (· == '-')

theorem isRule_dashes {count : Nat} (hcount : 3 ≤ count) {white : List Char}
    (hwhite : ∀ c ∈ white, isBlank c = true) :
    isRule (List.replicate count '-' ++ white) = true := by
  have hdashes : trimEnd (List.replicate count '-' ++ white) = List.replicate count '-' := by
    obtain ⟨more, rfl⟩ : ∃ more, count = more + 1 := ⟨count - 1, by omega⟩
    rw [trimEnd_append_of_blank _ hwhite, List.replicate_succ']
    exact dropTrailing_concat (by decide) _
  rw [isRule, hdashes]
  simpa using hcount

/-- A text that is not blank and needs no separator ends with an empty line, three or more dashes,
and white space if any. -/
theorem exists_rule_of_isSeparated {existing : List Char} (h : isSeparated existing = true)
    (hshown : existing.all isBlank = false) :
    ∃ above count white, existing = above ++ '\n' :: '\n' :: (List.replicate count '-' ++ white) ∧
      3 ≤ count ∧ ∀ c ∈ white, isBlank c = true := by
  obtain ⟨white, hwhite, hblank⟩ := exists_dropTrailing_append isBlank existing
  obtain ⟨dashes, hdashes, hdash⟩ := exists_dropTrailing_append (· == '-') (trimEnd existing)
  have hne : (trimEnd existing).isEmpty = false := by
    rw [List.isEmpty_eq_false_iff, Ne, trimEnd_eq_nil_iff, hshown]
    exact Bool.false_ne_true
  have hrule : 3 ≤ dashes.length ∧
      ['\n', '\n'] <:+ dropTrailing (· == '-') (trimEnd existing) := by
    have hlength := congrArg List.length hdashes
    rw [List.length_append] at hlength
    simp only [isSeparated, hne, Bool.false_or, Bool.and_eq_true, decide_eq_true_eq,
      List.isSuffixOf_iff_suffix] at h
    exact ⟨by omega, h.2⟩
  obtain ⟨above, habove⟩ := hrule.2
  refine ⟨above, dashes.length, white, ?_, hrule.1, hblank⟩
  have hreplicate : dashes = List.replicate dashes.length '-' :=
    List.eq_replicate_of_mem fun c hc => by simpa using hdash c hc
  calc existing = trimEnd existing ++ white := hwhite.symm
    _ = above ++ ['\n', '\n'] ++ dashes ++ white := by rw [habove, hdashes]
    _ = above ++ '\n' :: '\n' :: (List.replicate dashes.length '-' ++ white) := by
      rw [← hreplicate]
      simp only [List.append_assoc, List.cons_append, List.nil_append]

/-- The section stands at the end of the text and starts a line of its own. Above it stand the lines
in between, and above those a rule. -/
def StandsBelowRule (text addition : List Char) (between : List (List Char)) : Prop :=
  ∃ above rule, linesOf text = above ++ rule :: (between ++ linesOf addition) ∧ isRule rule = true

theorem exists_standsBelowRule (above addition : List Char) {count : Nat} (hcount : 3 ≤ count)
    {white : List Char} (hwhite : ∀ c ∈ white, isBlank c = true) :
    ∃ between,
      StandsBelowRule (above ++ '\n' :: (List.replicate count '-' ++ white ++ '\n' :: addition))
        addition between ∧
      (∀ line ∈ between, line.all isBlank = true) ∧ (white = [] → between = []) := by
  have hdashes : linesOf (List.replicate count '-') = [] ++ [List.replicate count '-'] :=
    linesOf_of_not_mem fun hmem => absurd (List.eq_of_mem_replicate hmem) (by decide)
  cases hlines : linesOf white with
  | nil => exact absurd hlines (linesOf_ne_nil white)
  | cons first between =>
    have hblank : ∀ line ∈ first :: between, ∀ c ∈ line, isBlank c = true := by
      intro line hline c hc
      rw [← hlines] at hline
      exact hwhite c (mem_of_mem_splitAt hline hc).1
    refine ⟨between, ⟨linesOf above, List.replicate count '-' ++ first, ?_, ?_⟩, ?_, ?_⟩
    · rw [linesOf_append_newline, linesOf_append_newline,
        linesOf_append hdashes hlines]
      simp only [List.nil_append, List.cons_append]
    · exact isRule_dashes hcount (hblank first List.mem_cons_self)
    · intro line hline
      exact List.all_eq_true.mpr (hblank line (List.mem_cons_of_mem _ hline))
    · rintro rfl
      exact (List.cons.inj hlines).2.symm

theorem exists_standsBelowRule_of_isSeparated {existing : List Char}
    (hseparated : isSeparated existing = true) (hshown : existing.all isBlank = false)
    (hend : existing.getLast? = some '\n') (addition : List Char) :
    ∃ between, StandsBelowRule (existing ++ addition) addition between ∧
      ∀ line ∈ between, line.all isBlank = true := by
  obtain ⟨above, count, white, rfl, hcount, hwhite⟩ := exists_rule_of_isSeparated hseparated hshown
  rcases List.eq_nil_or_concat white with rfl | ⟨front, last, rfl⟩
  · -- without white space the last character is a dash
    obtain ⟨more, rfl⟩ : ∃ more, count = more + 1 := ⟨count - 1, by omega⟩
    simp [List.replicate_succ', List.getLast?_cons] at hend
  · obtain rfl : last = '\n' := by simpa [List.getLast?_cons] using hend
    have hfront : ∀ c ∈ front, isBlank c = true := fun c hc => hwhite c (by simp [hc])
    obtain ⟨between, hstands, hblank, -⟩ :=
      exists_standsBelowRule (above ++ ['\n']) addition hcount hfront
    exact ⟨between, by simpa using hstands, hblank⟩

theorem standsBelowRule_sectionSeparator (existing addition : List Char) :
    StandsBelowRule (existing ++ (sectionSeparator.toList ++ addition)) addition [] := by
  have hnothing : ∀ c ∈ ([] : List Char), isBlank c = true := List.forall_mem_nil _
  obtain ⟨between, hstands, -, hnone⟩ :=
    exists_standsBelowRule (existing ++ ['\n']) addition (le_refl 3) hnothing
  obtain rfl := hnone rfl
  simpa [sectionSeparator] using hstands

/-- A section is added to a text behind nothing or a separator. If the text is not blank, and ends in
a line feed where no separator follows, the section starts a line of its own below a rule, and
between the two are only the blank lines that the text ended with. -/
theorem standsBelowRule_of_appendedContent {existing addition content : String}
    (h : appendedContent existing addition = some content) :
    ∃ separator, (separator = "" ∨ separator = sectionSeparator) ∧
      content = existing ++ separator ++ addition ∧
      (existing.toList.all isBlank = false →
        (separator = "" → existing.toList.getLast? = some '\n') →
        ∃ between, StandsBelowRule content.toList addition.toList between ∧
          (∀ line ∈ between, line.all isBlank = true) ∧
          (separator = sectionSeparator → between = [])) := by
  obtain ⟨-, rfl⟩ := appendedContent_eq_some_iff.mp h
  rw [separatorAfter]
  by_cases hseparated : isSeparated existing.toList
  · rw [if_pos hseparated]
    refine ⟨"", .inl rfl, by simp, fun hshown hend => ?_⟩
    obtain ⟨between, hstands, hblank⟩ :=
      exists_standsBelowRule_of_isSeparated hseparated hshown (hend rfl) addition.toList
    refine ⟨between, ?_, hblank, fun hempty => absurd hempty (by decide)⟩
    rwa [String.empty_append, String.toList_append]
  · rw [if_neg hseparated]
    refine ⟨sectionSeparator, .inr rfl, by rw [String.append_assoc], fun _ _ => ?_⟩
    refine ⟨[], ?_, List.forall_mem_nil _, fun _ => rfl⟩
    rw [String.toList_append, String.toList_append]
    exact standsBelowRule_sectionSeparator existing.toList addition.toList

theorem standsBelowRule_of_appendedContent_blank_lines :
    appendedContent "old\n\n----\t\n\n" "new\n" = some "old\n\n----\t\n\nnew\n" ∧
      ∃ between, StandsBelowRule "old\n\n----\t\n\nnew\n".toList "new\n".toList between ∧
        ∀ line ∈ between, line.all isBlank = true := by
  have h : appendedContent "old\n\n----\t\n\n" "new\n" = some "old\n\n----\t\n\nnew\n" := by
    decide +kernel
  have hshown : "old\n\n----\t\n\n".toList.all isBlank = false := by decide +kernel
  have hend : "old\n\n----\t\n\n".toList.getLast? = some '\n' := by decide +kernel
  obtain ⟨separator, -, -, hbelow⟩ := standsBelowRule_of_appendedContent h
  obtain ⟨between, hstands, hblank, -⟩ := hbelow hshown fun _ => hend
  exact ⟨h, between, hstands, hblank⟩

/-- A text that ends with a rule and an empty line takes a section without a separator, and the rule
is not directly above it. -/
theorem not_standsBelowRule_of_appendedContent :
    appendedContent "old\n\n---\n\n" "new\n" = some "old\n\n---\n\nnew\n" ∧
      "old\n\n---\n\n".toList.all isBlank = false ∧
      ¬ StandsBelowRule "old\n\n---\n\nnew\n".toList "new\n".toList [] := by
  refine ⟨by decide +kernel, by decide +kernel, ?_⟩
  rintro ⟨above, rule, hlines, hrule⟩
  have hsame : ["old".toList, [], "---".toList] ++ [[]] ++ linesOf "new\n".toList =
      above ++ [rule] ++ linesOf "new\n".toList := by
    rw [List.append_assoc above]
    exact Eq.trans (by decide +kernel) hlines
  obtain ⟨-, hempty⟩ := List.append_inj' (List.append_cancel_right hsame) rfl
  obtain rfl : [] = rule := (List.cons.inj hempty).1
  exact absurd hrule (by decide)

/-- The last lines of the text are those of the section, but the first of these may be only the end
of its line. -/
def EndsWithLines (text addition : List Char) : Prop :=
  ∃ above front first below,
    linesOf addition = first :: below ∧ linesOf text = above ++ (front ++ first) :: below

theorem endsWithLines_of_suffix {text addition : List Char} (h : addition <:+ text) :
    EndsWithLines text addition := by
  obtain ⟨before, rfl⟩ := h
  obtain ⟨above, front, hbefore⟩ :=
    List.eq_nil_or_concat (linesOf before) |>.resolve_left (linesOf_ne_nil before)
  obtain ⟨first, below, haddition⟩ := List.exists_cons_of_ne_nil (linesOf_ne_nil addition)
  exact ⟨above, front, first, below, haddition, linesOf_append (by simpa using hbefore) haddition⟩

theorem suffix_of_endsWithLines {text addition : List Char} (h : EndsWithLines text addition) :
    addition <:+ text := by
  obtain ⟨above, front, first, below, haddition, htext⟩ := h
  have hline : ['\n'].intercalate ((front ++ first) :: below) = front ++ addition := by
    rw [← intercalate_linesOf addition, haddition]
    cases below with
    | nil => simp only [List.intercalate_singleton]
    | cons next below => simp only [List.intercalate_cons_cons, List.append_assoc]
  rw [← intercalate_linesOf text, htext]
  cases above with
  | nil =>
    rw [List.nil_append, hline]
    exact List.suffix_append front addition
  | cons line above =>
    rw [intercalate_append _ (List.cons_ne_nil _ _) (List.cons_ne_nil _ _), hline,
      ← List.append_assoc]
    exact List.suffix_append _ addition

/-- A text is left as it is exactly if its last lines, white space behind them apart, are the lines
of the section, of which the first may be only the end of a line. -/
theorem appendedContent_eq_none_iff_endsWithLines (existing addition : String) :
    appendedContent existing addition = none ↔
      EndsWithLines (trimEnd existing.toList) (trimEnd addition.toList) := by
  rw [appendedContent_eq_none_iff, endsWithSection_iff]
  exact ⟨endsWithLines_of_suffix, suffix_of_endsWithLines⟩

/-- A section under a heading is taken for one under a heading of lesser depth. -/
theorem appendedContent_eq_none_inside_line :
    appendedContent "## Intro\n\nhello\n" "# Intro\n\nhello\n" = none ∧
      "# Intro\n\nhello\n".toList.all isBlank = false ∧
      ¬ linesOf (trimEnd "# Intro\n\nhello\n".toList) <:+
        linesOf (trimEnd "## Intro\n\nhello\n".toList) := by
  decide +kernel

end MarkdownOutline
