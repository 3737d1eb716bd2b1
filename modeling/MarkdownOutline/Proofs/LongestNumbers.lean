import MarkdownOutline.Proofs.IndexPrefix
import Mathlib.Computability.Language

/-!
# The longest number in front of a title

The numbers that can stand in front of titles are a regular language, and a title has many fronts in
it. Groups are taken off one by one, each with all the white space behind it, and this does not stop
before the longest of these fronts: no decimal digit is white space, so wherever a front goes on with
a group, a group is found there.
-/

namespace MarkdownOutline

open Text
open scoped Computability

def digitRuns : Language Char := {s | s ≠ [] ∧ ∀ c ∈ s, isDecimalDigit c = true}

def blankRuns : Language Char := {s | ∀ c ∈ s, isBlank c = true}

/-- A group of digits and a dot, with the white space behind it. -/
def numberGroups : Language Char := digitRuns * {['.']} * blankRuns

/-- What can stand in front of a title: any number of groups, and white space behind them. -/
def indexPrefixes : Language Char := numberGroups∗ * blankRuns

structure IsLongestFront (language : Language Char) (text word : List Char) : Prop where
  mem : word ∈ language
  isFront : word <+: text
  longest : ∀ other ∈ language, other <+: text → other.length ≤ word.length

theorem mem_numberGroups_iff {group : List Char} :
    group ∈ numberGroups ↔ ∃ digits ∈ digitRuns, ∃ blanks ∈ blankRuns,
      group = digits ++ '.' :: blanks := by
  constructor
  · intro h
    obtain ⟨dotted, hdotted, blanks, hblanks, rfl⟩ := Language.mem_mul.mp h
    obtain ⟨digits, hdigits, dot, rfl, rfl⟩ := Language.mem_mul.mp hdotted
    exact ⟨digits, hdigits, blanks, hblanks, by simp⟩
  · rintro ⟨digits, hdigits, blanks, hblanks, rfl⟩
    have hdotted : digits ++ ['.'] ∈ digitRuns * {['.']} := Language.append_mem_mul hdigits rfl
    have hgroup := Language.append_mem_mul hdotted hblanks
    rwa [List.append_assoc] at hgroup

theorem append_mem_indexPrefixes {group number : List Char} (hgroup : group ∈ numberGroups)
    (hnumber : number ∈ indexPrefixes) : group ++ number ∈ indexPrefixes := by
  obtain ⟨_, ⟨groups, rfl, hgroups⟩, blanks, hblanks, rfl⟩ := Language.mem_mul.mp hnumber
  have hall : ∀ g ∈ group :: groups, g ∈ numberGroups := List.forall_mem_cons.mpr ⟨hgroup, hgroups⟩
  have hmem := Language.append_mem_mul (Language.join_mem_kstar hall) hblanks
  rwa [List.flatten_cons, List.append_assoc] at hmem

theorem takeWhile_isBlank_mem (s : List Char) : s.takeWhile isBlank ∈ blankRuns :=
  List.all_eq_true.mp List.all_takeWhile

theorem mem_indexPrefixes_of_blank {blanks : List Char} (h : blanks ∈ blankRuns) :
    blanks ∈ indexPrefixes := Language.append_mem_mul (Language.nil_mem_kstar numberGroups) h

theorem exists_mem_indexPrefixes (title : List Char) :
    ∃ number ∈ indexPrefixes, number ++ dropIndexPrefix title = title := by
  induction title using group_induction with
  | group s rest hgroup ih =>
    obtain ⟨digits, hne, hdigits, rfl⟩ := afterNumberGroup?_eq_some_iff.mp hgroup
    obtain ⟨number, hnumber, hrest⟩ := ih
    have hfirst : digits ++ '.' :: rest.takeWhile isBlank ∈ numberGroups :=
      mem_numberGroups_iff.mpr ⟨digits, ⟨hne, hdigits⟩, _, takeWhile_isBlank_mem rest, rfl⟩
    refine ⟨_, append_mem_indexPrefixes hfirst hnumber, ?_⟩
    rw [dropIndexPrefix_of_group hgroup, List.append_assoc, hrest, List.append_assoc,
      List.cons_append, List.takeWhile_append_dropWhile]
  | other s hgroup =>
    refine ⟨_, mem_indexPrefixes_of_blank (takeWhile_isBlank_mem s), ?_⟩
    rw [dropIndexPrefix_of_no_group hgroup, List.takeWhile_append_dropWhile]

theorem afterNumberGroup?_of_isBlank {c : Char} (h : isBlank c = true) (s : List Char) :
    afterNumberGroup? (c :: s) = none := by
  cases hgroup : afterNumberGroup? (c :: s) with
  | none => rfl
  | some rest =>
    obtain ⟨digits, hne, hdigits, hs⟩ := afterNumberGroup?_eq_some_iff.mp hgroup
    obtain ⟨d, digits, rfl⟩ := List.exists_cons_of_ne_nil hne
    obtain ⟨rfl, -⟩ := List.cons.inj hs
    have hnot := isBlank_of_isDecimalDigit (hdigits c List.mem_cons_self)
    rw [hnot] at h
    cases h

/-- White space in front of a title can only keep a number from being taken off. -/
theorem dropIndexPrefix_dropWhile_suffix (s : List Char) :
    dropIndexPrefix (s.dropWhile isBlank) <:+ dropIndexPrefix s := by
  cases s with
  | nil => exact List.suffix_refl _
  | cons c s =>
    by_cases hc : isBlank c = true
    · rw [dropIndexPrefix_of_no_group (afterNumberGroup?_of_isBlank hc s)]
      exact dropIndexPrefix_suffix _
    · rw [List.dropWhile_cons_of_neg hc]

theorem dropIndexPrefix_blanks_suffix {blanks : List Char} (h : blanks ∈ blankRuns)
    (s : List Char) : dropIndexPrefix (blanks ++ s) <:+ s := by
  cases blanks with
  | nil => exact dropIndexPrefix_suffix s
  | cons c blanks =>
    have hgroup := afterNumberGroup?_of_isBlank (h c List.mem_cons_self) (blanks ++ s)
    rw [List.cons_append, dropIndexPrefix_of_no_group hgroup, ← List.cons_append,
      List.dropWhile_append_of_pos h]
    exact List.dropWhile_suffix _

theorem dropIndexPrefix_group_append {group : List Char} (h : group ∈ numberGroups)
    (s : List Char) : dropIndexPrefix (group ++ s) = dropIndexPrefix (s.dropWhile isBlank) := by
  obtain ⟨digits, ⟨hne, hdigits⟩, blanks, hblanks, rfl⟩ := mem_numberGroups_iff.mp h
  have hgroup : afterNumberGroup? (digits ++ '.' :: blanks ++ s) = some (blanks ++ s) :=
    afterNumberGroup?_eq_some_iff.mpr ⟨digits, hne, hdigits, by simp⟩
  rw [dropIndexPrefix_of_group hgroup, List.dropWhile_append_of_pos hblanks]

/-- A number in front of a title is taken off whole, whatever the title is. -/
theorem dropIndexPrefix_append_suffix {number : List Char} (h : number ∈ indexPrefixes)
    (title : List Char) : dropIndexPrefix (number ++ title) <:+ title := by
  obtain ⟨_, ⟨groups, rfl, hgroups⟩, blanks, hblanks, rfl⟩ := Language.mem_mul.mp h
  clear h
  induction groups with
  | nil => exact dropIndexPrefix_blanks_suffix hblanks title
  | cons group groups ih =>
    obtain ⟨hgroup, hgroups⟩ := List.forall_mem_cons.mp hgroups
    rw [List.flatten_cons, List.append_assoc, List.append_assoc,
      dropIndexPrefix_group_append hgroup, ← List.append_assoc]
    -- what is behind the group loses the white space at its front, which takes no less off
    exact (dropIndexPrefix_dropWhile_suffix _).trans (ih hgroups)

theorem isLongestFront_of_append {title number : List Char} (hmem : number ∈ indexPrefixes)
    (htitle : number ++ dropIndexPrefix title = title) :
    IsLongestFront indexPrefixes title number where
  mem := hmem
  isFront := ⟨_, htitle⟩
  longest := by
    rintro other hother ⟨rest, rfl⟩
    have hle := (dropIndexPrefix_append_suffix hother rest).length_le
    have hlength := congrArg List.length htitle
    rw [List.length_append, List.length_append] at hlength
    omega

/-- Taking the number off a title leaves what is behind the longest front that can be a number. In a
heading that starts with the title, the number written now stands in place of exactly this front,
and the rest of the title, the content behind it, the depth and the lines stay. Counting alone
changes nothing in the heading. -/
theorem longestFront_renumbered (title : String) :
    ∃ number rest : String, title = number ++ rest ∧
      IsLongestFront indexPrefixes title.toList number.toList ∧ stripIndexPrefix title = rest ∧
      ∀ (numbering : HeadingNumbering) (counters : HeadingCounters) (heading : Heading)
          (inlines : List Inline),
        let before := { heading with content := .text title :: inlines }
        let counted := counters.advance heading.depth
        numbering.observe counters before = (counted, match numbering.indexFrom with
          | none => before
          | some indexFrom => { heading with
              content := .text (numbering.indexPrefix indexFrom counted ++ rest) :: inlines }) := by
  obtain ⟨number, hnumber, htitle⟩ := exists_mem_indexPrefixes title.toList
  have hlist : (String.ofList number).toList = number := String.toList_ofList
  refine ⟨String.ofList number, stripIndexPrefix title, ?_, ?_, rfl, ?_⟩
  · rw [stripIndexPrefix, ← String.ofList_append, htitle, String.ofList_toList]
  · rw [hlist]
    exact isLongestFront_of_append hnumber htitle
  · intro numbering counters heading inlines
    obtain ⟨indexFrom, minDepth⟩ := numbering
    cases indexFrom <;> rfl

/-- Digits without a dot are no group, and white space in front keeps a group from being one. -/
example : ["1.2024 x", "1. 2", " 3.1. a", "٣.\u00a0b"].map stripIndexPrefix =
    ["2024 x", "2", "3.1. a", "b"] := by decide +kernel

end MarkdownOutline
