import MarkdownOutline.Proofs.AppendedContent
import MarkdownOutline.Proofs.NoteRuns

/-!
# What exporting sections does to files

Each section is added to one file or makes one. Files stay files, and as long as the numbered names
are looked up in the folder that they are used in, what was in a file stays in front.
-/

namespace MarkdownOutline

def FileContent.toBytes : FileContent → List UInt8
  | .text value => value.toUTF8.data.toList
  | .binary bytes => bytes.data.toList

theorem FileContent.length_toBytes (value : String) :
    (FileContent.text value).toBytes.length = value.utf8ByteSize := by
  simp [toBytes]

theorem FileContent.toBytes_prefix (front rest : String) :
    (FileContent.text front).toBytes <+: (FileContent.text (front ++ rest)).toBytes :=
  ⟨rest.toUTF8.data.toList, by simp [toBytes]⟩

namespace FileSystem

variable {fs fs' fs₁ fs'' : FileSystem} {folder : Path} {options : ExportOptions} {s : Section}
  {rest sections : List Section} {location : Location}

theorem newPath_cases {path : Path} {name stem : String} {extension? : Option String}
    (h : fs.newPath folder name stem extension? = .ok path) :
    isValidFileName name = true ∧ path = folder.join name ∨
      isValidFileName name = false ∧ ∃ taken, fs.takenNames folder = .ok taken ∧
        path = folder.join (freeName stem extension? taken) := by
  unfold newPath at h
  split at h
  · exact .inl ⟨‹_›, (Except.ok.inj h).symm⟩
  · rename_i hinvalid
    cases htaken : fs.takenNames folder with
    | error e => simp [htaken, Except.map] at h
    | ok taken =>
      exact .inr ⟨by simpa using hinvalid, taken, rfl,
        by simpa [htaken, Except.map, eq_comm] using h⟩

theorem takenNames_of_find (h : fs.find folder = .ok (location, .folder)) :
    fs.takenNames folder = .ok (fs.names location) := by
  rw [takenNames, folderNames, h]
  rfl

/-- A numbered name that is not listed in the folder is the name of nothing: the folder has a path
that it is listed under, and the number is put to a stem that does not lead elsewhere. -/
def ChecksNames (fs : FileSystem) (folder : Path) (stem : String) : Prop :=
  (∃ location, fs.find folder = .ok (location, .folder)) ∧ '/' ∉ stem.toList

theorem ChecksNames.of_keepsFolders {stem : String} (h : fs.ChecksNames folder stem)
    (hkeeps : KeepsFolders fs fs') :
    fs'.ChecksNames folder stem :=
  ⟨h.1.imp fun _ hfind => hkeeps.find hfind, h.2⟩

/-- The section gets a numbered name only where such names are checked. -/
def SafelyNamed (fs : FileSystem) (folder : Path) (options : ExportOptions) (s : Section) : Prop :=
  isValidFileName (noteFileName s.title) = false → fs.ChecksNames folder options.notePrefix

theorem SafelyNamed.of_keepsFolders (h : fs.SafelyNamed folder options s)
    (hkeeps : KeepsFolders fs fs') :
    fs'.SafelyNamed folder options s :=
  fun hinvalid => (h hinvalid).of_keepsFolders hkeeps

theorem none_of_absent {path : Path} (habsent : fs.kind? path ≠ some .file)
    (htargets : fs.Targets path location) (hentry : fs.entry? location ≠ some .folder) :
    fs.entry? location = none := by
  match hfound : fs.entry? location with
  | none => rfl
  | some .folder => exact absurd hfound hentry
  | some (.file content) =>
    exact absurd (kind?_eq_file_iff.mpr ⟨_, _, find_eq_file_iff.mpr ⟨htargets, hfound⟩⟩) habsent

/-- Nothing is written over where a new note is made. -/
theorem none_of_newPath {path : Path} (hsafe : fs.SafelyNamed folder options s)
    (hpath : fs.newPath folder (noteFileName s.title) options.notePrefix (some noteExtension) =
      .ok path) (habsent : fs.kind? (folder.join (noteFileName s.title)) ≠ some .file)
    (htargets : fs.Targets path location) (hentry : fs.entry? location ≠ some .folder) :
    fs.entry? location = none := by
  rcases newPath_cases hpath with ⟨-, rfl⟩ | ⟨hinvalid, taken, htaken, rfl⟩
  · exact none_of_absent habsent htargets hentry
  · obtain ⟨⟨around, hfind⟩, hstem⟩ := hsafe hinvalid
    rw [takenNames_of_find hfind, Except.ok.injEq] at htaken
    have hname : IsPlainName (freeName options.notePrefix (some noteExtension) taken) :=
      isPlainName_numberedName hstem (by simp [noteExtension]) _
    obtain ⟨-, -, rfl⟩ := (targets_join_iff hname (.inr hfind)).mp htargets
    cases hfound : fs.entry? (freeName options.notePrefix (some noteExtension) taken :: around) with
    | none => rfl
    | some entry => exact absurd (htaken ▸ mem_names hfound) (freeName_not_mem _ _ _)

/-- The folders are the same and every file is still one; if names are checked, it still starts with
what it held. -/
structure Grows (checked : Prop) (fs fs' : FileSystem) : Prop where
  keeps : KeepsFolders fs fs'
  kept : KeepsFolders fs' fs
  file : ∀ location content, fs.entry? location = some (.file content) →
    ∃ content', fs'.entry? location = some (.file content') ∧
      (checked → content.toBytes <+: content'.toBytes)

theorem Grows.refl (checked : Prop) (fs : FileSystem) : Grows checked fs fs :=
  ⟨.refl fs, .refl fs, fun _ content h => ⟨content, h, fun _ => List.prefix_refl _⟩⟩

theorem Grows.weaken {checked checked' : Prop} (himp : checked' → checked)
    (h : Grows checked fs fs') : Grows checked' fs fs' where
  keeps := h.keeps
  kept := h.kept
  file location content hentry := by
    obtain ⟨content', hentry', hfront⟩ := h.file location content hentry
    exact ⟨content', hentry', fun hc => hfront (himp hc)⟩

theorem Grows.trans {checked : Prop} (h : Grows checked fs fs') (h' : Grows checked fs' fs'') :
    Grows checked fs fs'' where
  keeps := h.keeps.trans h'.keeps
  kept := h'.kept.trans h.kept
  file location content hentry := by
    obtain ⟨content', hentry', hfront⟩ := h.file location content hentry
    obtain ⟨content'', hentry'', hfront'⟩ := h'.file location content' hentry'
    exact ⟨content'', hentry'', fun hc => (hfront hc).trans (hfront' hc)⟩

theorem Grows.fileAt? {checked : Prop} (h : Grows checked fs fs') {path : Path}
    (hfile : fs.fileAt? path = some location) :
    fs'.fileAt? path = some location := by
  obtain ⟨content, hfind⟩ := fileAt?_eq_some_iff.mp hfile
  obtain ⟨htargets, hentry⟩ := find_eq_file_iff.mp hfind
  obtain ⟨content', hentry', -⟩ := h.file location content hentry
  exact (fileAt?_eq_some_iff_targets hentry').mpr (h.keeps.targets htargets)

theorem Grows.kind?_file {checked : Prop} (h : Grows checked fs fs') {path : Path}
    (hkind : fs.kind? path = some .file) : fs'.kind? path = some .file := by
  obtain ⟨location, hfind⟩ := kind?_eq_file_iff.mp hkind
  exact kind?_eq_file_iff.mpr
    ⟨location, fileAt?_eq_some_iff.mp (h.fileAt? (fileAt?_eq_some_iff.mpr hfind))⟩

theorem grows_put {checked : Prop} {content : FileContent} (hlocation : location ≠ [])
    (hentry : fs.entry? location ≠ some .folder)
    (hcontent : ∀ old, fs.entry? location = some (.file old) → checked →
      old.toBytes <+: content.toBytes) :
    Grows checked fs (fs.put location (.file content)) where
  keeps := keepsFolders_put hlocation hentry content
  kept := keepsFolders_of_put hlocation content
  file other old hold := by
    rw [lookup_put fs hlocation]
    split
    · rename_i hother
      exact ⟨content, rfl, hcontent old (hother ▸ hold)⟩
    · exact ⟨old, hold, fun _ => List.prefix_refl _⟩

theorem grows_append {checked : Prop} {path : Path} {old content addition : String}
    (hfind : fs.find path = .ok (location, .file (.text old)))
    (hsection : appendedContent old addition = some content) :
    Grows checked fs (fs.put location (.file (.text content))) := by
  obtain ⟨htargets, hentry⟩ := find_eq_file_iff.mp hfind
  refine grows_put htargets.ne_nil (by simp [hentry]) fun found hfound _ => ?_
  obtain ⟨between, rfl⟩ := exists_append_of_appendedContent hsection
  obtain rfl : FileContent.text old = found := by simpa [hentry] using hfound
  exact FileContent.toBytes_prefix _ _

theorem SectionOutcome.grows {result : Except NoteError ExportedNote}
    (h : SectionOutcome fs folder options s result fs') :
    Grows (fs.SafelyNamed folder options s) fs fs' := by
  cases h with
  | failed => exact .refl _ fs
  | present hfind hsection => exact .refl _ fs
  | appended hfind hsection => exact grows_append hfind hsection
  | @made path location habsent hpath htargets hentry =>
    refine grows_put htargets.ne_nil hentry fun found hfound hsafe => ?_
    rw [none_of_newPath hsafe hpath habsent htargets hentry] at hfound
    simp at hfound

theorem SectionOutcome.text_cases {result : Except NoteError ExportedNote}
    (h : SectionOutcome fs folder options s result fs') (hsafe : fs.SafelyNamed folder options s)
    {text : String} (hentry : fs.entry? location = some (.file (.text text))) :
    fs'.entry? location = some (.file (.text text)) ∨
      ∃ content, fs.Targets (folder.join (noteFileName s.title)) location ∧
        appendedContent text s.content = some content ∧
        fs'.entry? location = some (.file (.text content)) := by
  cases h with
  | failed => exact .inl hentry
  | present => exact .inl hentry
  | @appended place old content hfind hsection =>
    obtain ⟨htargets, hold⟩ := find_eq_file_iff.mp hfind
    by_cases hplace : location = place
    · subst hplace
      obtain rfl : text = old := by simpa [hentry] using hold
      exact .inr ⟨content, htargets, hsection, by rw [lookup_put fs htargets.ne_nil, if_pos rfl]⟩
    · exact .inl (by rw [lookup_put fs htargets.ne_nil, if_neg hplace, hentry])
  | @made path place habsent hpath htargets hplace =>
    have hne : location ≠ place := by
      rintro rfl
      simp [none_of_newPath hsafe hpath habsent htargets hplace] at hentry
    exact .inl (by rw [lookup_put fs htargets.ne_nil, if_neg hne, hentry])

theorem SectionOutcome.endsWithSection {note : ExportedNote}
    (h : SectionOutcome fs folder options s (.ok note) fs') {text : String}
    (htargets : fs.Targets (folder.join (noteFileName s.title)) location)
    (hentry : fs.entry? location = some (.file (.text text)))
    (hkept : fs'.entry? location = some (.file (.text text))) :
    endsWithSection text.toList s.content.toList = true := by
  have hfound : fs.find (folder.join (noteFileName s.title)) = .ok (location, .file (.text text)) :=
    find_eq_file_iff.mpr ⟨htargets, hentry⟩
  cases h with
  | present hfind hsection =>
    obtain ⟨-, rfl⟩ : location = _ ∧ text = _ := by simpa [hfound] using hfind
    exact appendedContent_eq_none_iff.mp hsection
  | appended hfind hsection =>
    obtain ⟨rfl, rfl⟩ : location = _ ∧ text = _ := by simpa [hfound] using hfind
    rw [lookup_put fs htargets.ne_nil, if_pos rfl] at hkept
    obtain rfl : _ = text := by simpa using hkept
    exact absurd hsection appendedContent_ne_self
  | made habsent => exact absurd (kind?_eq_file_iff.mpr ⟨_, _, hfound⟩) habsent

theorem SectionOutcome.safelyNamed {result : Except NoteError ExportedNote}
    (h : SectionOutcome fs folder options s result fs')
    (hsafe : ∀ t ∈ s :: rest, fs.SafelyNamed folder options t) :
    ∀ t ∈ rest, fs'.SafelyNamed folder options t :=
  fun t ht => (hsafe t (List.mem_cons_of_mem s ht)).of_keepsFolders h.grows.keeps

/-- What exporting sections one after the other comes to: each finds what those before it left, and
the first that fails is the last. -/
inductive SectionsRun (folder : Path) (options : ExportOptions) :
    FileSystem → List Section → Except NoteError (List ExportedNote) → FileSystem → Prop
  | done {fs : FileSystem} : SectionsRun folder options fs [] (.ok []) fs
  | stopped {fs fs' : FileSystem} {s : Section} {rest : List Section} {e : NoteError}
      (hstep : SectionOutcome fs folder options s (.error e) fs') :
      SectionsRun folder options fs (s :: rest) (.error e) fs'
  | next {fs fs₁ fs' : FileSystem} {s : Section} {rest : List Section} {note : ExportedNote}
      {result : Except NoteError (List ExportedNote)}
      (hstep : SectionOutcome fs folder options s (.ok note) fs₁)
      (hrest : SectionsRun folder options fs₁ rest result fs') :
      SectionsRun folder options fs (s :: rest) (result.map (note :: ·)) fs'

theorem runOn_exportSections_cons (fs : FileSystem) (folder : Path) (options : ExportOptions)
    (s : Section) (rest : List Section) :
    runOn ((s :: rest).mapM (exportSection folder options)) fs =
      match runOn (exportSection folder options s) fs with
      | (.error e, fs₁) => (.error e, fs₁)
      | (.ok note, fs₁) =>
        ((runOn (rest.mapM (exportSection folder options)) fs₁).1.map (note :: ·),
          (runOn (rest.mapM (exportSection folder options)) fs₁).2) := by
  rw [List.mapM_cons, runOn_bind]
  rcases runOn (exportSection folder options s) fs with ⟨_ | note, fs₁⟩
  · rfl
  · simp only [runOn_bind, runOn_pure]
    rcases runOn (rest.mapM (exportSection folder options)) fs₁ with ⟨_ | notes, fs'⟩ <;> rfl

theorem sectionsRun_exportSections (fs : FileSystem) (folder : Path) (options : ExportOptions)
    (sections : List Section) :
    SectionsRun folder options fs sections
      (runOn (sections.mapM (exportSection folder options)) fs).1
      (runOn (sections.mapM (exportSection folder options)) fs).2 := by
  induction sections generalizing fs with
  | nil => exact .done
  | cons s rest ih =>
    have hstep := sectionOutcome_exportSection fs folder options s
    rw [runOn_exportSections_cons]
    generalize runOn (exportSection folder options s) fs = outcome at hstep ⊢
    rcases outcome with ⟨e | note, fs₁⟩
    · exact .stopped hstep
    · exact .next hstep (ih fs₁)

theorem SectionsRun.grows {result : Except NoteError (List ExportedNote)}
    (h : SectionsRun folder options fs sections result fs') :
    Grows (∀ s ∈ sections, fs.SafelyNamed folder options s) fs fs' := by
  induction h with
  | done => exact .refl _ _
  | stopped hstep => exact hstep.grows.weaken fun hsafe => hsafe _ List.mem_cons_self
  | next hstep hrest ih =>
    exact (hstep.grows.weaken fun hsafe => hsafe _ List.mem_cons_self).trans
      (ih.weaken hstep.safelyNamed)

/-- Induction on a run that came to its end: every step of it gave a note. -/
@[elab_as_elim]
theorem SectionsRun.ok_induction {notes : List ExportedNote}
    {motive : ∀ {fs fs' : FileSystem} {sections : List Section} {notes : List ExportedNote},
      SectionsRun folder options fs sections (.ok notes) fs' → Prop}
    (done : ∀ fs, motive (.done : SectionsRun folder options fs [] (.ok []) fs))
    (next : ∀ {fs fs₁ fs' : FileSystem} {s : Section} {rest : List Section} {note : ExportedNote}
      {notes : List ExportedNote} (hstep : SectionOutcome fs folder options s (.ok note) fs₁)
      (hrest : SectionsRun folder options fs₁ rest (.ok notes) fs'), motive hrest →
        motive (.next hstep hrest : SectionsRun folder options fs (s :: rest)
          (.ok (note :: notes)) fs'))
    (h : SectionsRun folder options fs sections (.ok notes) fs') : motive h := by
  have hall : ∀ {fs sections result fs'}, SectionsRun folder options fs sections result fs' →
      ∀ notes (h : SectionsRun folder options fs sections (.ok notes) fs'),
        result = .ok notes → motive h := by
    intro fs sections result fs' hrun
    induction hrun with
    | done =>
      rintro _ _ ⟨⟩
      exact done _
    | stopped =>
      rintro _ _ ⟨⟩
    | @next _ _ _ _ _ _ result hstep hrest ih =>
      intro notes h hresult
      cases result with
      | error e => cases hresult
      | ok others =>
        cases hresult
        exact next hstep hrest (ih others hrest rfl)
  exact hall h notes h rfl

theorem SectionsRun.length_eq {notes : List ExportedNote}
    (h : SectionsRun folder options fs sections (.ok notes) fs') :
    notes.length = sections.length := by
  induction h using SectionsRun.ok_induction with
  | done => rfl
  | next hstep hrest ih => rw [List.length_cons, List.length_cons, ih]

theorem SectionsRun.text_kept {result : Except NoteError (List ExportedNote)}
    (h : SectionsRun folder options fs sections result fs')
    (hsafe : ∀ s ∈ sections, fs.SafelyNamed folder options s) {text : String}
    (hentry : fs.entry? location = some (.file (.text text)))
    (hends : ∀ s ∈ sections, fs'.Targets (folder.join (noteFileName s.title)) location →
      endsWithSection text.toList s.content.toList = true) :
    fs'.entry? location = some (.file (.text text)) := by
  induction h with
  | done => exact hentry
  | @stopped fs fs' s rest e hstep =>
    rcases hstep.text_cases (hsafe s List.mem_cons_self) hentry with
      hkept | ⟨content, htargets, hsection, -⟩
    · exact hkept
    · have hnone := hends s List.mem_cons_self (hstep.grows.keeps.targets htargets)
      simp [appendedContent_eq_none_iff.mpr hnone] at hsection
  | @next fs fs₁ fs' s rest note result hstep hrest ih =>
    rcases hstep.text_cases (hsafe s List.mem_cons_self) hentry with
      hkept | ⟨content, htargets, hsection, -⟩
    · exact ih (hstep.safelyNamed hsafe) hkept fun t ht => hends t (List.mem_cons_of_mem s ht)
    · have hnone := hends s List.mem_cons_self
        ((hstep.grows.keeps.trans hrest.grows.keeps).targets htargets)
      simp [appendedContent_eq_none_iff.mpr hnone] at hsection

theorem SectionOutcome.text_between {first : Except NoteError ExportedNote}
    {result : Except NoteError (List ExportedNote)}
    (hstep : SectionOutcome fs folder options s first fs₁)
    (hrest : SectionsRun folder options fs₁ rest result fs')
    (hsafe : ∀ t ∈ s :: rest, fs.SafelyNamed folder options t) {text : String}
    (hentry : fs.entry? location = some (.file (.text text)))
    (hkept : fs'.entry? location = some (.file (.text text))) :
    fs₁.entry? location = some (.file (.text text)) := by
  rcases hstep.text_cases (hsafe s List.mem_cons_self) hentry with
    hkept₁ | ⟨content, -, hsection, hcontent⟩
  · exact hkept₁
  · -- What is added now stays in front, so the text at the end would be longer.
    obtain ⟨content', hcontent', hfront⟩ := hrest.grows.file location _ hcontent
    obtain rfl : FileContent.text text = content' := by simpa [hkept] using hcontent'
    obtain ⟨between, rfl⟩ := exists_append_of_appendedContent hsection
    have hlength := (hfront (hstep.safelyNamed hsafe)).length_le
    have hempty : between ++ s.content = "" := by
      rw [FileContent.length_toBytes, FileContent.length_toBytes,
        String.utf8ByteSize_append] at hlength
      exact String.utf8ByteSize_eq_zero_iff.mp (by omega)
    rw [hempty, String.append_empty] at hsection
    exact absurd hsection appendedContent_ne_self

/-- After a run that came to its end, a file that has kept its text ends with every section that has
the title of the file. -/
theorem SectionsRun.endsWithSection {notes : List ExportedNote}
    (h : SectionsRun folder options fs sections (.ok notes) fs')
    (hsafe : ∀ s ∈ sections, fs.SafelyNamed folder options s) {text : String}
    (hentry : fs.entry? location = some (.file (.text text)))
    (hkept : fs'.entry? location = some (.file (.text text))) :
    ∀ s ∈ sections, fs'.Targets (folder.join (noteFileName s.title)) location →
      endsWithSection text.toList s.content.toList = true := by
  induction h using SectionsRun.ok_induction with
  | done => simp
  | next hstep hrest ih =>
    have hkept₁ := hstep.text_between hrest hsafe hentry hkept
    refine List.forall_mem_cons.mpr ⟨fun htargets => ?_, ih (hstep.safelyNamed hsafe) hkept₁ hkept⟩
    exact hstep.endsWithSection ((hrest.grows.kept.trans hstep.grows.kept).targets htargets) hentry
      hkept₁

end FileSystem

end MarkdownOutline
