import MarkdownOutline.Proofs.FirstExport

/-!
# Notes for titles

Seeing to the note of a title gives a note if the title is refused as a name, since the numbered
name in its place can be used. If the title is not refused, its name has to be short enough and no
folder may have it, and the check of names looks at neither.
-/

namespace MarkdownOutline

open Text

namespace FileSystem

variable {fs : FileSystem} {folder : Path} {location : Location} {stem : String}

/-- A file in the folder can be written under the name: the name and its path are not too long, and
it is not the name of a folder. -/
structure Takes (fs : FileSystem) (folder : Path) (location : Location) (name : String) : Prop where
  shortName : name.utf8ByteSize ≤ maxNameBytes
  shortPath : (folder.join name).text.utf8ByteSize ≤ maxPathBytes
  notFolder : fs.entry? (name :: location) ≠ some .folder

theorem writeText_join_iff (hfolder : fs.find folder = .ok (location, .folder)) {name : String}
    (hvalid : isValidFileName name = true) (value : String) :
    (∃ fs', fs.writeText (folder.join name) value = .ok fs') ↔ fs.Takes folder location name := by
  have hname := isPlainName_of_isValidFileName hvalid
  have hopens : fs.Opens folder location := .inr hfolder
  constructor
  · rintro ⟨fs', hwrite⟩
    obtain ⟨place, htargets, hentry, -⟩ := writeText_eq_ok_iff.mp hwrite
    obtain ⟨hpath, hshort, rfl⟩ := (targets_join_iff hname hopens).mp htargets
    exact ⟨hshort, hpath.short, hentry⟩
  · intro htakes
    have hpath := followable_join hopens.noNul hvalid htakes.shortPath
    have htargets := (targets_join_iff hname hopens).mpr ⟨hpath, htakes.shortName, rfl⟩
    exact ⟨_, writeText_eq_ok_iff.mpr ⟨_, htargets, htakes.notFolder, rfl⟩⟩

/-- A numbered name that is free can be written, unless the path of the folder is too long for it.
Even with a number of 151 digits it has no more than 255 bytes. -/
theorem takes_freeName_iff (hshort : stem.utf8ByteSize ≤ 100)
    (hnames : (fs.names location).length < 10 ^ 151) :
    fs.Takes folder location (freeName stem (some noteExtension) (fs.names location)) ↔
      (folder.join (freeName stem (some noteExtension) (fs.names location))).text.utf8ByteSize ≤
        maxPathBytes := by
  refine ⟨Takes.shortPath, fun hpath => ⟨?_, hpath, fun hentry => ?_⟩⟩
  · have hnumber := (leastFree_le (numberedName stem (some noteExtension)) _).trans_lt hnames
    have hsize := utf8ByteSize_numberedName_le stem noteExtension (by decide) hnumber
    have hextension : noteExtension.utf8ByteSize = 2 := rfl
    rw [freeName, maxNameBytes]
    omega
  · exact freeName_not_mem _ _ _ (mem_names hentry)

/-- The name that a new note gets for a title: that of the title, or a free numbered one. -/
def newNoteName (fs : FileSystem) (location : Location) (title stem : String) : String :=
  if isValidFileName (noteFileName title) then noteFileName title
  else freeName stem (some noteExtension) (fs.names location)

theorem isValidFileName_newNoteName (hstem : isValidFileName stem = true) (fs : FileSystem)
    (location : Location) (title : String) :
    isValidFileName (fs.newNoteName location title stem) = true := by
  unfold newNoteName
  split
  · assumption
  · exact isValidFileName_numberedName hstem (by decide) _

theorem newPath_eq (hfolder : fs.find folder = .ok (location, .folder)) (title stem : String) :
    fs.newPath folder (noteFileName title) stem (some noteExtension) =
      .ok (folder.join (fs.newNoteName location title stem)) := by
  unfold newPath newNoteName
  split
  · rfl
  · rw [takenNames_of_find hfolder]
    rfl

theorem takes_newNoteName_iff {title : String} (hshort : stem.utf8ByteSize ≤ 100)
    (hnames : (fs.names location).length < 10 ^ 151) :
    fs.Takes folder location (fs.newNoteName location title stem) ↔
      (folder.join (fs.newNoteName location title stem)).text.utf8ByteSize ≤ maxPathBytes ∧
        (isValidFileName (noteFileName title) = true →
          (noteFileName title).utf8ByteSize ≤ maxNameBytes ∧
            fs.entry? (noteFileName title :: location) ≠ some .folder) := by
  unfold newNoteName
  split
  · rename_i hvalid
    exact ⟨fun h => ⟨h.shortPath, fun _ => ⟨h.shortName, h.notFolder⟩⟩,
      fun h => ⟨(h.2 hvalid).1, h.1, (h.2 hvalid).2⟩⟩
  · rename_i hinvalid
    simp [takes_freeName_iff hshort hnames, hinvalid]

/-- A note comes of a title exactly if it is there or its new name can be written. -/
theorem isOk_ensureNote_iff_takes (hfolder : fs.find folder = .ok (location, .folder))
    (hstem : isValidFileName stem = true) (title : String) :
    (runOn (ensureNote folder title stem) fs).1.isOk = true ↔
      fs.kind? (folder.join (noteFileName title)) = some .file ∨
        fs.Takes folder location (fs.newNoteName location title stem) := by
  have hvalid := isValidFileName_newNoteName hstem fs location title
  rw [runOn_ensureNote, newPath_eq hfolder, ← writeText_join_iff hfolder hvalid ""]
  split
  · rename_i hkind
    simp [hkind, Except.isOk, Except.toBool]
  · rename_i hkind
    cases hwrite : fs.writeText (folder.join (fs.newNoteName location title stem)) "" with
    | error cause => simp [hwrite, hkind, Except.isOk, Except.toBool]
    | ok fs' => simp [hwrite, Except.isOk, Except.toBool]

theorem kind?_of_ensureNote (hfolder : fs.find folder = .ok (location, .folder)) {title : String}
    {path : Path} (hpath : (runOn (ensureNote folder title stem) fs).1 = .ok path) :
    FileSystem.kind? (runOn (ensureNote folder title stem) fs).2 path = some .file ∧
      path = if fs.kind? (folder.join (noteFileName title)) = some .file then
          folder.join (noteFileName title)
        else folder.join (fs.newNoteName location title stem) := by
  rw [runOn_ensureNote, newPath_eq hfolder] at hpath ⊢
  split at hpath
  · rename_i hkind
    obtain rfl := Except.ok.inj hpath
    simp only [if_pos hkind]
    exact ⟨hkind, trivial⟩
  · rename_i hkind
    simp only [if_neg hkind]
    cases hwrite : fs.writeText (folder.join (fs.newNoteName location title stem)) "" with
    | error cause => simp [hwrite] at hpath
    | ok fs' =>
      simp only [hwrite, Except.ok.injEq] at hpath
      subst hpath
      obtain ⟨place, htargets, hentry, rfl⟩ := writeText_eq_ok_iff.mp hwrite
      exact ⟨kind?_eq_file_iff.mpr ⟨place, _, find_put_file htargets hentry _⟩, rfl⟩

theorem kind?_ne_file_of_long (hfolder : fs.find folder = .ok (location, .folder)) {name : String}
    (hvalid : isValidFileName name = true) (hlong : maxNameBytes < name.utf8ByteSize) :
    fs.kind? (folder.join name) ≠ some .file := by
  intro hkind
  obtain ⟨place, content, hfind⟩ := kind?_eq_file_iff.mp hkind
  have htargets := (targets_join_iff (isPlainName_of_isValidFileName hvalid) (.inr hfolder)).mp
    (find_eq_file_iff.mp hfind).1
  exact absurd htargets.2.1 (Nat.not_le.mpr hlong)

end FileSystem

/-- Seeing to the note of a title in a folder gives a note exactly if there is one already, or the
path of the new one is not too long and, where the title is not refused as a name, the name of the
title is not too long either and is not that of a folder. A title that is refused and leads to no
file is replaced by the numbered name that is free. -/
theorem isOk_ensureNote_iff {fs : FileSystem} {folder : Path} {location : Location}
    {title stem : String} (hfolder : fs.find folder = .ok (location, .folder))
    (hstem : isValidFileName stem = true) (hshort : stem.utf8ByteSize ≤ 100)
    (hnames : (fs.names location).length < 10 ^ 151) :
    let after := runOn (ensureNote folder title stem) fs
    (after.1.isOk = true ↔
      fs.kind? (folder.join (noteFileName title)) = some .file ∨
        (folder.join (fs.newNoteName location title stem)).text.utf8ByteSize ≤
            FileSystem.maxPathBytes ∧
          (isValidFileName (noteFileName title) = true →
            (noteFileName title).utf8ByteSize ≤ FileSystem.maxNameBytes ∧
              fs.entry? (noteFileName title :: location) ≠ some .folder)) ∧
    ∀ path, after.1 = .ok path → FileSystem.kind? after.2 path = some .file ∧
      path = if fs.kind? (folder.join (noteFileName title)) = some .file then
          folder.join (noteFileName title)
        else folder.join (fs.newNoteName location title stem) := by
  rw [← FileSystem.takes_newNoteName_iff hshort hnames]
  exact ⟨FileSystem.isOk_ensureNote_iff_takes hfolder hstem title,
    fun _ => FileSystem.kind?_of_ensureNote hfolder⟩

def folderOfNames : FileSystem where
  entries := [(["d"], .folder), (["bad_0.md", "d"], .file (.text "")), (["x.md", "d"], .folder)]

theorem isOk_ensureNote_iff_slash :
    folderOfNames.find ⟨"d"⟩ = .ok (["d"], .folder) ∧ isValidFileName "bad" = true ∧
      "bad".utf8ByteSize ≤ 100 ∧ (folderOfNames.names ["d"]).length < 10 ^ 151 ∧
      (runOn (ensureNote ⟨"d"⟩ "a/b" "bad") folderOfNames).1 = .ok ⟨"d/bad_1.md"⟩ ∧
      (runOn (ensureNote ⟨"d"⟩ "a/b" "bad") folderOfNames).1.isOk = true ∧
      FileSystem.kind? (runOn (ensureNote ⟨"d"⟩ "a/b" "bad") folderOfNames).2 ⟨"d/bad_1.md"⟩ =
        some .file := by
  have hfolder : folderOfNames.find ⟨"d"⟩ = .ok (["d"], .folder) := by decide +kernel
  have hstem : isValidFileName "bad" = true := by decide +kernel
  have hshort : "bad".utf8ByteSize ≤ 100 := by decide +kernel
  have hnames : (folderOfNames.names ["d"]).length < 10 ^ 151 := by decide +kernel
  have hresult : (runOn (ensureNote ⟨"d"⟩ "a/b" "bad") folderOfNames).1 = .ok ⟨"d/bad_1.md"⟩ := by
    decide +kernel
  have hinvalid : isValidFileName (noteFileName "a/b") = false := by decide +kernel
  obtain ⟨hok, hpath⟩ := isOk_ensureNote_iff hfolder hstem hshort hnames
  refine ⟨hfolder, hstem, hshort, hnames, hresult, hok.mpr (.inr ⟨?_, ?_⟩), (hpath _ hresult).1⟩
  · decide +kernel
  · simp [hinvalid]

def titleOfLength (length : Nat) : String := String.ofList (List.replicate length 'a')

theorem eq_of_mem_titleOfLength {length : Nat} {c : Char}
    (h : c ∈ (titleOfLength length).toList) : c = 'a' := by
  rw [titleOfLength, String.toList_ofList] at h
  exact List.eq_of_mem_replicate h

theorem utf8ByteSize_titleOfLength (length : Nat) :
    (titleOfLength length).utf8ByteSize = length := by
  rw [titleOfLength, String.utf8ByteSize_ofList, utf8Len_of_ascii, List.length_replicate]
  exact fun c hc => List.eq_of_mem_replicate hc ▸ by decide

/-- A title that makes a name of 256 bytes, and one whose name is that of a folder, are not refused
as names, and no note comes of them. -/
theorem isOk_ensureNote_ne :
    folderOfNames.find ⟨"d"⟩ = .ok (["d"], .folder) ∧ isValidFileName "bad" = true ∧
      isValidFileName (noteFileName (titleOfLength 253)) = true ∧
      (runOn (ensureNote ⟨"d"⟩ (titleOfLength 253) "bad") folderOfNames).1.isOk = false ∧
      isValidFileName (noteFileName "x") = true ∧
      (runOn (ensureNote ⟨"d"⟩ "x" "bad") folderOfNames).1.isOk = false := by
  have hfolder : folderOfNames.find ⟨"d"⟩ = .ok (["d"], .folder) := by decide +kernel
  have hstem : isValidFileName "bad" = true := by decide +kernel
  have hvalid : isValidFileName (noteFileName (titleOfLength 253)) = true :=
    isValidFileName_noteFileName_iff.mpr fun c hc => eq_of_mem_titleOfLength hc ▸ by decide
  have hlong : FileSystem.maxNameBytes < (noteFileName (titleOfLength 253)).utf8ByteSize := by
    rw [utf8ByteSize_noteFileName, utf8ByteSize_titleOfLength]
    decide
  refine ⟨hfolder, hstem, hvalid, ?_, by decide +kernel, by decide +kernel⟩
  rw [← Bool.not_eq_true, FileSystem.isOk_ensureNote_iff_takes hfolder hstem]
  rintro (hkind | htakes)
  · exact FileSystem.kind?_ne_file_of_long hfolder hvalid hlong hkind
  · rw [FileSystem.newNoteName, if_pos hvalid] at htakes
    exact absurd htakes.shortName (Nat.not_le.mpr hlong)

end MarkdownOutline
