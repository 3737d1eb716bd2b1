import Mathlib.Data.List.Nodup
import Mathlib.Data.List.Perm.Subperm
import Mathlib.Data.Nat.Digits.Defs
import MarkdownOutline.Notes.Note
import MarkdownOutline.Proofs.Digits
import MarkdownOutline.Proofs.FileTree

/-!
# Names for notes

Names that can be used, names made from titles and numbered names all stay in the folder that they
are used in, and a numbered name that is picked is not taken.
-/

namespace MarkdownOutline

open Text

theorem isValidFileName_iff {name : String} :
    isValidFileName name = true ↔ (∀ c ∈ name.toList, isReservedInNames c = false) ∧
      ∃ last, name.toList.getLast? = some last ∧ isBlank last = false ∧ last ≠ '.' := by
  unfold isValidFileName
  split
  · simp [*]
  · rename_i last hlast
    simp [hlast, and_assoc]

theorem not_mem_of_isValidFileName {name : String} {c : Char} (h : isValidFileName name = true)
    (hc : isReservedInNames c = true) : c ∉ name.toList := by
  intro hmem
  rw [(isValidFileName_iff.mp h).1 c hmem] at hc
  exact absurd hc Bool.false_ne_true

theorem noSlash_of_isValidFileName {name : String} (h : isValidFileName name = true) :
    '/' ∉ name.toList := not_mem_of_isValidFileName h (by decide)

theorem isPlainName_of_isValidFileName {name : String} (h : isValidFileName name = true) :
    IsPlainName name where
  nonempty := by
    rintro rfl
    simp [isValidFileName] at h
  notDot := by
    rintro rfl
    simp [isValidFileName] at h
  notDots := by
    rintro rfl
    simp [isValidFileName] at h
  noSlash := noSlash_of_isValidFileName h

theorem isPlainName_of_mem {name : String} {c : Char} (hmem : c ∈ name.toList) (hc : c ≠ '.')
    (h : '/' ∉ name.toList) : IsPlainName name where
  nonempty := by
    rintro rfl
    simp at hmem
  notDot := by
    rintro rfl
    simp [hc] at hmem
  notDots := by
    rintro rfl
    simp [hc] at hmem
  noSlash := h

theorem isPlainName_noteFileName {title : String} (h : '/' ∉ title.toList) :
    IsPlainName (noteFileName title) :=
  isPlainName_of_mem (c := 'm') (by simp [noteFileName, noteExtension]) (by decide)
    (by simp [noteFileName, noteExtension, h])

/-- Behind a title there is an extension, so only the characters of the title matter. -/
theorem isValidFileName_noteFileName_iff {title : String} :
    isValidFileName (noteFileName title) = true ↔
      ∀ c ∈ title.toList, isReservedInNames c = false := by
  have hchars : (noteFileName title).toList = title.toList ++ ['.', 'm', 'd'] := by
    simp [noteFileName, noteExtension]
  rw [isValidFileName_iff, hchars]
  constructor
  · rintro ⟨hplain, -⟩ c hc
    exact hplain c (List.mem_append_left _ hc)
  · refine fun h => ⟨fun c hc => ?_, 'd', by simp, by decide, by decide⟩
    rcases List.mem_append.mp hc with hc | hc
    · exact h c hc
    · have hall : ['.', 'm', 'd'].all (!isReservedInNames ·) = true := by decide
      simpa using List.all_eq_true.mp hall c hc

theorem utf8ByteSize_noteFileName (title : String) :
    (noteFileName title).utf8ByteSize = title.utf8ByteSize + 3 := by
  have hend : ".".utf8ByteSize = 1 ∧ noteExtension.utf8ByteSize = 2 := ⟨rfl, rfl⟩
  simp only [noteFileName, String.utf8ByteSize_append]
  omega

private theorem noSlash_toDigits (n : Nat) : '/' ∉ Nat.toDigits 10 n :=
  fun h => absurd (isDigit_of_mem_toDigits h) (by decide)

theorem isPlainName_numberedName {stem : String} (hstem : '/' ∉ stem.toList)
    {extension? : Option String} (hextension : ∀ extension ∈ extension?, '/' ∉ extension.toList)
    (number : Nat) : IsPlainName (numberedName stem extension? number) := by
  refine isPlainName_of_mem (c := '_') (by simp [numberedName]) (by decide) ?_
  cases extension? with
  | none => simp [numberedName, hstem, noSlash_toDigits]
  | some extension => simp [numberedName, hstem, noSlash_toDigits, hextension extension rfl]

theorem isReservedInNames_of_isDigit {c : Char} (h : c.isDigit = true) :
    isReservedInNames c = false := by
  have hrange := Char.isDigit_iff_toNat.mp h
  have hlow : ¬ c < ' ' := by
    intro hlt
    have hnat : c.toNat < ' '.toNat := hlt
    have hspace : ' '.toNat < '0'.toNat := by decide
    omega
  have hmem : c ∉ ['<', '>', ':', '"', '/', '\\', '|', '?', '*'] := by
    intro hmem
    have hall : ['<', '>', ':', '"', '/', '\\', '|', '?', '*'].all (!·.isDigit) = true := by decide
    simpa [h] using List.all_eq_true.mp hall c hmem
  simpa [isReservedInNames, hlow] using hmem

theorem isValidFileName_numberedName {stem extension : String} (hstem : isValidFileName stem = true)
    (hextension : isValidFileName extension = true) (number : Nat) :
    isValidFileName (numberedName stem (some extension) number) = true := by
  obtain ⟨hstemChars, -⟩ := isValidFileName_iff.mp hstem
  obtain ⟨hextensionChars, last, hlast, hend⟩ := isValidFileName_iff.mp hextension
  have hchars : (numberedName stem (some extension) number).toList =
      stem.toList ++ '_' :: (Nat.toDigits 10 number ++ '.' :: extension.toList) := by
    simp [numberedName]
  refine isValidFileName_iff.mpr ⟨fun c hc => ?_, last, ?_, hend⟩
  · rw [hchars] at hc
    simp only [List.mem_append, List.mem_cons] at hc
    rcases hc with hc | rfl | hc | rfl | hc
    · exact hstemChars c hc
    · decide
    · exact isReservedInNames_of_isDigit (isDigit_of_mem_toDigits hc)
    · decide
    · exact hextensionChars c hc
  · simp [hchars, List.getLast?_cons, hlast]

theorem utf8ByteSize_numberedName_le (stem extension : String) {number digits : Nat}
    (hdigits : 0 < digits) (hnumber : number < 10 ^ digits) :
    (numberedName stem (some extension) number).utf8ByteSize ≤
      stem.utf8ByteSize + extension.utf8ByteSize + digits + 2 := by
  have hlength := Nat.toDigits_length 10 number digits hdigits hnumber
  have hrepr : (Nat.repr number).utf8ByteSize = (Nat.toDigits 10 number).length := by
    rw [Nat.repr_eq_ofList_toDigits, String.utf8ByteSize_ofList]
    exact utf8Len_of_isDigit fun c hc => isDigit_of_mem_toDigits hc
  have hmarks : "_".utf8ByteSize = 1 ∧ ".".utf8ByteSize = 1 := ⟨rfl, rfl⟩
  simp only [numberedName, String.utf8ByteSize_append]
  omega

theorem numberedName_injective (stem : String) (extension? : Option String) :
    Function.Injective (numberedName stem extension?) := by
  intro first second h
  have hdigits : Nat.toDigits 10 first = Nat.toDigits 10 second := by
    simpa [numberedName, ← String.toList_inj] using h
  rw [← decimalValue_toDigits first, hdigits, decimalValue_toDigits]

theorem exists_not_mem_taken {nameOf : Nat → String} (hinj : Function.Injective nameOf)
    (taken : List String) : ∃ number ≤ taken.length, nameOf number ∉ taken := by
  by_contra hall
  push Not at hall
  have hsub : (List.range (taken.length + 1)).map nameOf ⊆ taken := by
    intro name hname
    obtain ⟨number, hnumber, rfl⟩ := List.mem_map.mp hname
    exact hall number (by simpa [Nat.lt_succ_iff] using hnumber)
  have hnodup : ((List.range (taken.length + 1)).map nameOf).Nodup := List.nodup_range.map hinj
  have hlength := (List.subperm_of_subset hnodup hsub).length_le
  simp only [List.length_map, List.length_range] at hlength
  omega

theorem leastFree_not_mem {nameOf : Nat → String} (hinj : Function.Injective nameOf)
    (taken : List String) : nameOf (leastFree nameOf taken) ∉ taken := by
  obtain ⟨number, hnumber, hfree⟩ := exists_not_mem_taken hinj taken
  have hsome : ((List.range (taken.length + 1)).find?
      fun number => !taken.contains (nameOf number)).isSome = true := by
    rw [List.find?_isSome]
    exact ⟨number, by simpa [Nat.lt_succ_iff] using hnumber, by simpa using hfree⟩
  obtain ⟨least, hleast⟩ := Option.isSome_iff_exists.mp hsome
  rw [leastFree, hleast]
  simpa using List.find?_some hleast

theorem leastFree_le (nameOf : Nat → String) (taken : List String) :
    leastFree nameOf taken ≤ taken.length := by
  unfold leastFree
  cases hfind : (List.range (taken.length + 1)).find?
      fun number => !taken.contains (nameOf number) with
  | none => exact le_rfl
  | some number =>
    have hmem := List.mem_range.mp (List.mem_of_find?_eq_some hfind)
    exact Nat.lt_succ_iff.mp hmem

theorem freeName_not_mem (stem : String) (extension? : Option String) (taken : List String) :
    freeName stem extension? taken ∉ taken :=
  leastFree_not_mem (numberedName_injective stem extension?) taken

end MarkdownOutline
