import Mathlib.Data.List.TakeWhile
import MarkdownOutline.Notes.Append

/-!
# Sections below a text

What a section is added with, and when it is not: a text in which it is already at the end stays,
and any other stands in front of what is added, so that it ends with the section afterwards.
-/

namespace MarkdownOutline

open Text

theorem trimEnd_eq_nil_iff {s : List Char} : trimEnd s = [] ↔ s.all isBlank = true := by
  rw [trimEnd, dropTrailing_eq, List.reverse_eq_nil_iff, List.dropWhile_eq_nil_iff,
    List.all_eq_true]
  simp only [List.mem_reverse]

theorem trimEnd_append_of_blank (text : List Char) {white : List Char}
    (h : ∀ c ∈ white, isBlank c = true) : trimEnd (text ++ white) = trimEnd text := by
  rw [trimEnd, trimEnd, dropTrailing_eq, dropTrailing_eq, List.reverse_append,
    List.dropWhile_append_of_pos fun c hc => h c (List.mem_reverse.mp hc)]

theorem trimEnd_suffix_trimEnd_append (front back : List Char) :
    trimEnd back <:+ trimEnd (front ++ back) := by
  rw [trimEnd, trimEnd, dropTrailing_eq, dropTrailing_eq, List.reverse_append,
    List.dropWhile_append]
  split
  · rename_i hblank
    simp [List.isEmpty_iff.mp hblank]
  · rw [List.reverse_append]
    exact List.suffix_append _ _

theorem endsWithSection_iff {existing addition : List Char} :
    endsWithSection existing addition = true ↔ trimEnd addition <:+ trimEnd existing :=
  List.isSuffixOf_iff_suffix

theorem endsWithSection_trans {first second third : List Char}
    (h : endsWithSection first second = true) (h' : endsWithSection second third = true) :
    endsWithSection first third = true := by
  rw [endsWithSection_iff] at h h' ⊢
  exact h'.trans h

theorem appendedContent_eq_none_iff {existing addition : String} :
    appendedContent existing addition = none ↔
      endsWithSection existing.toList addition.toList = true := by
  unfold appendedContent
  split
  · simp [*]
  · split <;> simp [*]

/-- What is put between a text and a section below it. -/
def separatorAfter (existing : String) : String :=
  if isSeparated existing.toList then "" else sectionSeparator

theorem appendedContent_eq_some_iff {existing addition content : String} :
    appendedContent existing addition = some content ↔
      endsWithSection existing.toList addition.toList = false ∧
        content = existing ++ (separatorAfter existing ++ addition) := by
  unfold appendedContent separatorAfter
  split
  · simp [*]
  · split <;> simp [*, String.append_assoc, eq_comm]

theorem exists_append_of_appendedContent {existing addition content : String}
    (h : appendedContent existing addition = some content) :
    ∃ between, content = existing ++ (between ++ addition) :=
  ⟨_, (appendedContent_eq_some_iff.mp h).2⟩

theorem appendedContent_ne_self {existing addition : String} :
    appendedContent existing addition ≠ some existing := by
  intro h
  obtain ⟨between, hcontent⟩ := exists_append_of_appendedContent h
  have hempty : between ++ addition = "" := by
    have hlist : existing.toList ++ (between ++ addition).toList = existing.toList := by
      rw [← String.toList_append, ← hcontent]
    exact String.toList_eq_nil_iff.mp (List.append_right_eq_self.mp hlist)
  have hnone : appendedContent existing addition = none := by
    rw [appendedContent_eq_none_iff, (String.append_eq_empty_iff.mp hempty).2]
    simp [endsWithSection, Text.trimEnd, Text.dropTrailing]
  rw [hnone] at h
  simp at h

theorem endsWithSection_appendedContent (existing addition : String) :
    endsWithSection ((appendedContent existing addition).getD existing).toList addition.toList =
      true := by
  cases hcontent : appendedContent existing addition with
  | none => exact appendedContent_eq_none_iff.mp hcontent
  | some content =>
    obtain ⟨between, rfl⟩ := exists_append_of_appendedContent hcontent
    rw [Option.getD_some, endsWithSection_iff, String.toList_append, String.toList_append,
      ← List.append_assoc]
    exact trimEnd_suffix_trimEnd_append _ _

end MarkdownOutline
