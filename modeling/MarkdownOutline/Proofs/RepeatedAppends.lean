import MarkdownOutline.Proofs.ExportSteps

/-!
# Adding sections again

A section that was added to a note is at its end, so adding it once more changes nothing. However
often sections are added and whatever fails, every file starts with what it held.
-/

namespace MarkdownOutline

open Text

namespace FileSystem

variable {fs : FileSystem} {path : Path} {existing : String}

theorem runOn_appendSection_of_readText (hread : fs.readText path = .ok existing)
    (addition : String) :
    (runOn (appendSection path addition) fs).1 =
        .ok (appendedContent existing addition).isSome ∧
      FileSystem.readText (runOn (appendSection path addition) fs).2 path =
        .ok ((appendedContent existing addition).getD existing) := by
  obtain ⟨location, hfind⟩ := readText_eq_ok_iff.mp hread
  rw [runOn_appendSection_of_find hfind]
  cases hcontent : appendedContent existing addition with
  | none => exact ⟨rfl, hread⟩
  | some content =>
    obtain ⟨htargets, hentry⟩ := find_eq_file_iff.mp hfind
    exact ⟨rfl, readText_eq_ok_iff.mpr
      ⟨location, find_put_file htargets (by simp [hentry]) (.text content)⟩⟩

theorem runOn_appendSection_of_endsWithSection (hread : fs.readText path = .ok existing)
    {addition : String} (hends : endsWithSection existing.toList addition.toList = true) :
    runOn (appendSection path addition) fs = (.ok false, fs) := by
  rw [runOn_appendSection, hread]
  simp only [appendedContent_eq_none_iff.mpr hends]

theorem grows_appendSection (fs : FileSystem) (path : Path) (addition : String) :
    Grows True fs (runOn (appendSection path addition) fs).2 := by
  cases hread : fs.readText path with
  | error cause =>
    rw [runOn_appendSection, hread]
    exact .refl _ fs
  | ok existing =>
    obtain ⟨location, hfind⟩ := readText_eq_ok_iff.mp hread
    rw [runOn_appendSection_of_find hfind]
    cases hcontent : appendedContent existing addition with
    | none => exact .refl _ fs
    | some content => exact grows_append hfind hcontent

/-- The files after sections were added to notes, one after the other. A failure does not stop the
ones behind it. -/
def afterAppends (fs : FileSystem) (calls : List (Path × String)) : FileSystem :=
  calls.foldl (fun fs call => (runOn (appendSection call.1 call.2) fs).2) fs

theorem grows_afterAppends (fs : FileSystem) (calls : List (Path × String)) :
    Grows True fs (fs.afterAppends calls) := by
  induction calls generalizing fs with
  | nil => exact .refl _ fs
  | cons call calls ih => exact (grows_appendSection fs call.1 call.2).trans (ih _)

theorem afterAppends_replicate {addition : String}
    (hsame : runOn (appendSection path addition) fs = (.ok false, fs)) (times : Nat) :
    fs.afterAppends (List.replicate times (path, addition)) = fs := by
  induction times with
  | zero => rfl
  | succ times ih =>
    rw [List.replicate_succ, afterAppends, List.foldl_cons, hsame]
    exact ih

end FileSystem

/-- A section that is added to a text stands at its end, behind all that the text held, and is not
added again: a note that can be read is after any number of calls what it is after the first. No
calls, whether they fail or not, take away what was in a file. -/
theorem appendSection_again (existing addition : String) :
    (∀ content, appendedContent existing addition = some content →
      existing.toList <+: content.toList ∧ addition.toList <:+ content.toList ∧
        appendedContent content addition = none) ∧
    (∀ (fs : FileSystem) (path : Path), fs.readText path = .ok existing →
      ∃ after : FileSystem,
        runOn (appendSection path addition) fs =
          (.ok (appendedContent existing addition).isSome, after) ∧
        after.readText path = .ok ((appendedContent existing addition).getD existing) ∧
        runOn (appendSection path addition) after = (.ok false, after) ∧
        ∀ times, fs.afterAppends (List.replicate (times + 1) (path, addition)) = after) ∧
    ∀ (fs : FileSystem) (calls : List (Path × String)) (location : Location)
      (content : FileContent), fs.entry? location = some (.file content) →
        ∃ content', FileSystem.entry? (fs.afterAppends calls) location =
          some (.file content') ∧ content.toBytes <+: content'.toBytes := by
  refine ⟨fun content hcontent => ?_, fun fs path hread => ?_,
    fun fs calls location content hentry => ?_⟩
  · have hends := endsWithSection_appendedContent existing addition
    rw [hcontent, Option.getD_some] at hends
    obtain ⟨-, rfl⟩ := appendedContent_eq_some_iff.mp hcontent
    refine ⟨?_, ?_, appendedContent_eq_none_iff.mpr hends⟩
    · rw [String.toList_append]
      exact List.prefix_append _ _
    · rw [String.toList_append, String.toList_append, ← List.append_assoc]
      exact List.suffix_append _ _
  · obtain ⟨hresult, hafter⟩ := FileSystem.runOn_appendSection_of_readText hread addition
    have hagain := FileSystem.runOn_appendSection_of_endsWithSection hafter
      (endsWithSection_appendedContent existing addition)
    exact ⟨_, Prod.ext hresult rfl, hafter, hagain, fun times =>
      FileSystem.afterAppends_replicate hagain times⟩
  · obtain ⟨content', hentry', hfront⟩ :=
      (FileSystem.grows_afterAppends fs calls).file location content hentry
    exact ⟨content', hentry', hfront trivial⟩

def noteHolding (text : String) : FileSystem where
  entries := [(["n.md"], .file (.text text))]

theorem appendSection_again_blank_end :
    (noteHolding "old\u2028").readText ⟨"n.md"⟩ = .ok "old\u2028" ∧
      appendedContent "old\u2028" "new\u00a0\n" = some "old\u2028\n\n---\nnew\u00a0\n" ∧
      appendedContent "old\u2028\n\n---\nnew\u00a0\n" "new\u00a0\n" = none ∧
      (∃ after : FileSystem,
        runOn (appendSection ⟨"n.md"⟩ "new\u00a0\n") (noteHolding "old\u2028") = (.ok true, after) ∧
          after.readText ⟨"n.md"⟩ = .ok "old\u2028\n\n---\nnew\u00a0\n" ∧
          runOn (appendSection ⟨"n.md"⟩ "new\u00a0\n") after = (.ok false, after)) ∧
      ∃ content, FileSystem.entry? ((noteHolding "old\u2028").afterAppends
            [(⟨"n.md"⟩, "new\u00a0\n"), (⟨"m.md"⟩, "new\u00a0\n")]) ["n.md"] =
          some (.file content) ∧
        (FileContent.text "old\u2028").toBytes <+: content.toBytes := by
  have hread : (noteHolding "old\u2028").readText ⟨"n.md"⟩ = .ok "old\u2028" := by decide +kernel
  have hcontent : appendedContent "old\u2028" "new\u00a0\n" =
      some "old\u2028\n\n---\nnew\u00a0\n" := by decide +kernel
  have hentry : FileSystem.entry? (noteHolding "old\u2028") ["n.md"] =
      some (.file (.text "old\u2028")) := by decide +kernel
  obtain ⟨hadded, hnote, hkept⟩ := appendSection_again "old\u2028" "new\u00a0\n"
  obtain ⟨after, hrun, hafter, hagain, -⟩ := hnote _ ⟨"n.md"⟩ hread
  rw [hcontent] at hrun hafter
  exact ⟨hread, hcontent, (hadded _ hcontent).2.2, ⟨after, hrun, hafter, hagain⟩,
    hkept _ _ _ _ hentry⟩

end MarkdownOutline
