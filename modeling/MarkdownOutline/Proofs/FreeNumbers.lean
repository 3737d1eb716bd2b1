import MarkdownOutline.Proofs.ExportSteps
import Mathlib.Data.Finset.Card
import Mathlib.Order.Bounds.Defs

/-!
# The least free number

The search for a numbered name ends at the least number whose name is not taken. The names of
different numbers differ, so that number is no greater than the number of names taken.
-/

namespace MarkdownOutline

variable {nameOf : Nat → String} {taken : List String}

theorem mem_taken_of_lt_leastFree {number : Nat} (h : number < leastFree nameOf taken) :
    nameOf number ∈ taken := by
  unfold leastFree at h
  cases hfind : (List.range (taken.length + 1)).find?
      fun number => !taken.contains (nameOf number) with
  | none =>
    rw [hfind, Option.getD_none] at h
    simpa using List.find?_eq_none.mp hfind number (List.mem_range.mpr (Nat.lt_succ_of_lt h))
  | some least =>
    rw [hfind, Option.getD_some] at h
    obtain ⟨-, -, hsmaller⟩ := List.find?_range_eq_some.mp hfind
    simpa using hsmaller number h

theorem isLeast_leastFree (hinj : Function.Injective nameOf) (taken : List String) :
    IsLeast {number | nameOf number ∉ taken} (leastFree nameOf taken) := by
  refine ⟨leastFree_not_mem hinj taken, fun number hfree => ?_⟩
  by_contra hless
  exact hfree (mem_taken_of_lt_leastFree (Nat.not_le.mp hless))

theorem leastFree_le_card (hinj : Function.Injective nameOf) (taken : List String) :
    leastFree nameOf taken ≤ taken.toFinset.card := by
  have hmaps : ∀ number ∈ Finset.range (leastFree nameOf taken), nameOf number ∈ taken.toFinset :=
    fun number hnumber =>
      List.mem_toFinset.mpr (mem_taken_of_lt_leastFree (Finset.mem_range.mp hnumber))
  simpa using Finset.card_le_card_of_injOn nameOf hmaps hinj.injOn

namespace FileSystem

variable {fs : FileSystem} {folder : Path}

theorem folderNames_eq_ok_iff {names : List String} :
    fs.folderNames folder = .ok names ↔
      ∃ location, fs.find folder = .ok (location, .folder) ∧ fs.names location = names := by
  unfold folderNames
  rw [Except.bind_eq_ok_iff]
  constructor
  · rintro ⟨⟨location, entry⟩, hfind, hnames⟩
    cases entry with
    | folder => exact ⟨location, hfind, Except.ok.inj hnames⟩
    | file content => simp at hnames
  · rintro ⟨location, hfind, rfl⟩
    exact ⟨_, hfind, rfl⟩

end FileSystem

theorem runOn_fallbackName (folder : Path) (stem : String) (extension? : Option String)
    (fs : FileSystem) :
    runOn (fallbackName folder stem extension?) fs =
      ((fs.takenNames folder).map (freeName stem extension?), fs) := by
  unfold fallbackName
  rw [runOn_bind, runOn_takenNames]
  cases fs.takenNames folder <;> rfl

/-- The search for a numbered name in a folder always ends and changes no file. If the folder can be
listed, the number is the least one whose name is not listed, it is at most the number of names
listed, and nothing in the folder has the name; nothing is at its path either, unless a slash in the
stem or the extension makes that lead elsewhere. If there is no such folder the number is 0, and any
other cause why it cannot be listed is reported. -/
theorem fallbackName_isLeast (fs : FileSystem) (folder : Path) (stem : String)
    (extension? : Option String) :
    let found := runOn (fallbackName folder stem extension?) fs
    let nameOf := numberedName stem extension?
    (∀ names, fs.folderNames folder = .ok names → ∃ number, found = (.ok (nameOf number), fs) ∧
      IsLeast {n | nameOf n ∉ names} number ∧ number ≤ names.toFinset.card ∧
      (∀ location, fs.find folder = .ok (location, .folder) →
        fs.entry? (nameOf number :: location) = none) ∧
      ('/' ∉ stem.toList → (∀ extension ∈ extension?, '/' ∉ extension.toList) →
        fs.kind? (folder.join (nameOf number)) = none)) ∧
    (fs.folderNames folder = .error .notFound → found = (.ok (nameOf 0), fs)) ∧
    ∀ cause, fs.folderNames folder = .error cause → cause ≠ .notFound →
      found = (.error (.file folder cause), fs) := by
  intro found nameOf
  have hrun : found = ((fs.takenNames folder).map (freeName stem extension?), fs) :=
    runOn_fallbackName folder stem extension? fs
  refine ⟨fun names hnames => ?_, fun hmissing => ?_, fun cause hcause hother => ?_⟩
  · have hinj : Function.Injective nameOf := numberedName_injective stem extension?
    obtain ⟨location, hfind, rfl⟩ := FileSystem.folderNames_eq_ok_iff.mp hnames
    have hleast := isLeast_leastFree hinj (fs.names location)
    have hnone : fs.entry? (nameOf (leastFree nameOf (fs.names location)) :: location) = none := by
      cases hentry : fs.entry? (nameOf (leastFree nameOf (fs.names location)) :: location) with
      | none => rfl
      | some entry => exact absurd (FileSystem.mem_names hentry) hleast.1
    refine ⟨_, ?_, hleast, leastFree_le_card hinj _, fun other hother => ?_, fun hstem hext => ?_⟩
    · rw [hrun, FileSystem.takenNames_of_find hfind]
      rfl
    · rw [hfind] at hother
      obtain rfl : location = other := by simpa using hother
      exact hnone
    · exact FileSystem.kind?_join_eq_none (.inr hfind)
        (isPlainName_numberedName hstem hext _) hnone
  · rw [hrun, FileSystem.takenNames, hmissing]
    rfl
  · rw [hrun, FileSystem.takenNames, hcause]
    cases cause <;> first | rfl | exact absurd rfl hother

def folderWithGap : FileSystem where
  entries := [(["d"], .folder), (["bad_0.md", "d"], .file (.text "")),
    (["bad_2.md", "d"], .file (.text ""))]

theorem fallbackName_isLeast_gap :
    folderWithGap.folderNames ⟨"d"⟩ = .ok ["bad_0.md", "bad_2.md"] ∧
      runOn (fallbackName ⟨"d"⟩ "bad" (some "md")) folderWithGap =
        (.ok "bad_1.md", folderWithGap) ∧
      '/' ∉ "bad".toList ∧ '/' ∉ "md".toList ∧ folderWithGap.kind? ⟨"d/bad_1.md"⟩ = none ∧
      folderWithGap.folderNames ⟨"e"⟩ = .error .notFound ∧
      runOn (fallbackName ⟨"e"⟩ "bad" none) folderWithGap = (.ok "bad_0", folderWithGap) := by
  have hnames : folderWithGap.folderNames ⟨"d"⟩ = .ok ["bad_0.md", "bad_2.md"] := by decide +kernel
  have hmissing : folderWithGap.folderNames ⟨"e"⟩ = .error .notFound := by decide +kernel
  have hstem : '/' ∉ "bad".toList := by decide
  have hextension : '/' ∉ "md".toList := by decide
  obtain ⟨number, hfound, hleast, -, -, hnone⟩ :=
    (fallbackName_isLeast folderWithGap ⟨"d"⟩ "bad" (some "md")).1 _ hnames
  have hone : IsLeast {n | numberedName "bad" (some "md") n ∉ ["bad_0.md", "bad_2.md"]} 1 := by
    refine ⟨by decide, fun n hfree => Nat.pos_of_ne_zero ?_⟩
    rintro rfl
    exact hfree (by decide)
  obtain rfl := hleast.unique hone
  exact ⟨hnames, hfound, hstem, hextension, hnone hstem (by simp), hmissing,
    (fallbackName_isLeast folderWithGap ⟨"e"⟩ "bad" none).2.1 hmissing⟩

end MarkdownOutline
