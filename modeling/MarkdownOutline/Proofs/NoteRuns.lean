import MarkdownOutline.Notes.Export
import MarkdownOutline.Proofs.FolderMaking
import MarkdownOutline.Proofs.SpareNames

/-!
# Writing notes

What making a note and adding a section to it do to the files: at most one file is made or written
below, and what was in it stays in front.
-/

namespace MarkdownOutline

def runOn {α : Type} (operation : ExceptT NoteError (StateM FileSystem) α) (fs : FileSystem) :
    Except NoteError α × FileSystem := operation.run.run fs

theorem runOn_pure {α : Type} (a : α) (fs : FileSystem) :
    runOn (pure a) fs = (.ok a, fs) := rfl

theorem runOn_bind {α β : Type} (x : ExceptT NoteError (StateM FileSystem) α)
    (f : α → ExceptT NoteError (StateM FileSystem) β) (fs : FileSystem) :
    runOn (x >>= f) fs =
      match runOn x fs with
      | (.ok a, fs') => runOn (f a) fs'
      | (.error e, fs') => (.error e, fs') := by
  change (match (runOn x fs) with
    | (a, s') => (ExceptT.bindCont f a).run s') = _
  rcases runOn x fs with ⟨_ | _, _⟩ <;> rfl

theorem runOn_onPath {α : Type} (path : Path) (operation : StateM FileSystem (Except FileError α))
    (fs : FileSystem) :
    runOn (onPath path operation) fs =
      ((operation.run fs).1.mapError (.file path), (operation.run fs).2) := by
  simp only [runOn, onPath, ExceptT.run_mk, StateT.run_bind]
  change (match operation.run fs with | (a, s) => _) = _
  rcases operation.run fs with ⟨_ | _, _⟩ <;> rfl

theorem runOn_isFile (path : Path) (fs : FileSystem) :
   runOn (MonadFiles.isFile path) fs = (.ok (fs.kind? path == some .file), fs) := rfl

theorem runOn_isFolder (path : Path) (fs : FileSystem) :
   runOn (MonadFiles.isFolder path) fs = (.ok (fs.kind? path == some .folder), fs) := rfl

theorem runOn_readText (path : Path) (fs : FileSystem) :
    runOn (onPath path (MonadFiles.readText path)) fs =
      ((fs.readText path).mapError (.file path), fs) :=
  runOn_onPath _ _ _

theorem runOn_writeText (path : Path) (value : String) (fs : FileSystem) :
    runOn (onPath path (MonadFiles.writeText path value)) fs =
      ((fs.change (fs.writeText path value)).1.mapError (.file path),
        (fs.change (fs.writeText path value)).2) :=
  runOn_onPath _ _ _

def FileSystem.takenNames (fs : FileSystem) (folder : Path) : Except NoteError (List String) :=
  match fs.folderNames folder with
  | .ok names => .ok names
  | .error .notFound => .ok []
  | .error cause => .error (.file folder cause)

theorem runOn_takenNames (folder : Path) (fs : FileSystem) :
    runOn (takenNames folder) fs = (fs.takenNames folder, fs) := by
  unfold takenNames FileSystem.takenNames
  rw [runOn_onPath, StateT.run_bind]
  rw [show (MonadFiles.folderNames folder : StateM FileSystem _).run fs =
    (fs.folderNames folder, fs) from rfl]
  cases h : fs.folderNames folder with
  | ok names => rfl
  | error cause => cases cause <;> rfl

/-- The path that something new gets in a folder: that of its name, or of a numbered one. -/
def FileSystem.newPath (fs : FileSystem) (folder : Path) (name stem : String)
    (extension? : Option String) : Except NoteError Path :=
  if isValidFileName name then .ok (folder.join name)
  else (fs.takenNames folder).map fun taken => folder.join (freeName stem extension? taken)

theorem runOn_newPath {α : Type} (fs : FileSystem) (folder : Path) (name stem : String)
    (extension? : Option String) (f : Path → ExceptT NoteError (StateM FileSystem) α) :
    runOn (if isValidFileName name then pure (folder.join name) >>= f
      else folder.join <$> fallbackName folder stem extension? >>= f) fs =
      match fs.newPath folder name stem extension? with
      | .ok path => runOn (f path) fs
      | .error e => (.error e, fs) := by
  unfold FileSystem.newPath
  split
  · rfl
  · unfold fallbackName
    rw [map_eq_pure_bind, bind_assoc, bind_assoc, runOn_bind, runOn_takenNames]
    cases fs.takenNames folder <;> rfl

theorem runOn_ensureNote (fs : FileSystem) (folder : Path) (title stem : String) :
    runOn (ensureNote folder title stem) fs =
      if fs.kind? (folder.join (noteFileName title)) = some .file then
        (.ok (folder.join (noteFileName title)), fs)
      else
        match fs.newPath folder (noteFileName title) stem (some noteExtension) with
        | .error e => (.error e, fs)
        | .ok path =>
          match fs.writeText path "" with
          | .ok fs' => (.ok path, fs')
          | .error cause => (.error (.file path cause), fs) := by
  unfold ensureNote
  simp only [runOn_bind, runOn_isFile, beq_iff_eq]
  split
  · rfl
  · rw [runOn_newPath]
    cases fs.newPath folder (noteFileName title) stem (some noteExtension) with
    | error e => rfl
    | ok path =>
      simp only [runOn_bind, runOn_writeText]
      cases fs.writeText path "" <;> rfl

theorem runOn_ensureFolder (fs : FileSystem) (folder : Path) (name stem : String) :
    runOn (ensureFolder folder name stem) fs =
      if fs.kind? (folder.join name) = some .folder then (.ok (folder.join name), fs)
      else
        match fs.newPath folder name stem none with
        | .error e => (.error e, fs)
        | .ok path =>
          match fs.makeFolders path.withParents with
          | (.ok (), fs') => (.ok path, fs')
          | (.error cause, fs') => (.error (.file path cause), fs') := by
  unfold ensureFolder
  simp only [runOn_bind, runOn_isFolder, beq_iff_eq]
  split
  · rfl
  · rw [runOn_newPath]
    cases fs.newPath folder name stem none with
    | error e => rfl
    | ok path =>
      simp only [runOn_bind, runOn_onPath, show (MonadFiles.ensureFolderAt path :
        StateM FileSystem _).run fs = fs.makeFolders path.withParents from rfl]
      rcases fs.makeFolders path.withParents with ⟨_ | _, fs'⟩ <;> rfl

theorem runOn_appendSection (fs : FileSystem) (path : Path) (addition : String) :
    runOn (appendSection path addition) fs =
      match fs.readText path with
      | .error cause => (.error (.file path cause), fs)
      | .ok existing =>
        match appendedContent existing addition with
        | none => (.ok false, fs)
        | some content =>
          match fs.writeText path content with
          | .ok fs' => (.ok true, fs')
          | .error cause => (.error (.file path cause), fs) := by
  unfold appendSection
  rw [runOn_bind, runOn_readText]
  cases fs.readText path with
  | error cause => rfl
  | ok existing =>
    simp only [Except.mapError]
    cases appendedContent existing addition with
    | none => rfl
    | some content =>
      simp only [runOn_bind, runOn_writeText]
      cases fs.writeText path content <;> rfl

namespace FileSystem

inductive SectionOutcome (fs : FileSystem) (folder : Path) (options : ExportOptions) (s : Section) :
    Except NoteError ExportedNote → FileSystem → Prop
  | failed {e : NoteError} : SectionOutcome fs folder options s (.error e) fs
  | present {location : Location} {old : String}
      (hfind : fs.find (folder.join (noteFileName s.title)) = .ok (location, .file (.text old)))
      (hsection : appendedContent old s.content = none) :
      SectionOutcome fs folder options s (.ok ⟨folder.join (noteFileName s.title), false⟩) fs
  | appended {location : Location} {old content : String}
      (hfind : fs.find (folder.join (noteFileName s.title)) = .ok (location, .file (.text old)))
      (hsection : appendedContent old s.content = some content) :
      SectionOutcome fs folder options s (.ok ⟨folder.join (noteFileName s.title), true⟩)
        (fs.put location (.file (.text content)))
  | made {path : Path} {location : Location}
      (habsent : fs.kind? (folder.join (noteFileName s.title)) ≠ some .file)
      (hpath : fs.newPath folder (noteFileName s.title) options.notePrefix (some noteExtension) =
        .ok path)
      (htargets : fs.Targets path location) (hentry : fs.entry? location ≠ some .folder) :
      SectionOutcome fs folder options s (.ok ⟨path, (appendedContent "" s.content).isSome⟩)
        (fs.put location (.file (.text ((appendedContent "" s.content).getD ""))))

theorem readText_eq_ok_iff {fs : FileSystem} {path : Path} {text : String} :
    fs.readText path = .ok text ↔ ∃ location, fs.find path = .ok (location, .file (.text text)) := by
  rw [readText, Except.bind_eq_ok_iff]
  constructor
  · rintro ⟨⟨location, entry⟩, hfind, h⟩
    refine ⟨location, ?_⟩
    match entry with
    | .folder => simp at h
    | .file (.binary bytes) => simp at h
    | .file (.text value) => exact Except.ok.inj h ▸ hfind
  · rintro ⟨location, hfind⟩
    exact ⟨_, hfind, rfl⟩

theorem keepsFolders_put {fs : FileSystem} {location : Location} (hlocation : location ≠ [])
    (hentry : fs.entry? location ≠ some .folder) (content : FileContent) :
    KeepsFolders fs (fs.put location (.file content)) where
  current := rfl
  folder other hother := by
    rw [lookup_put fs hlocation, if_neg]
    · exact hother
    · rintro rfl
      exact hentry hother

theorem keepsFolders_of_put {fs : FileSystem} {location : Location} (hlocation : location ≠ [])
    (content : FileContent) : KeepsFolders (fs.put location (.file content)) fs where
  current := rfl
  folder other hother := by
    rw [lookup_put fs hlocation] at hother
    split at hother
    · simp at hother
    · exact hother

theorem find_put_file {fs : FileSystem} {path : Path} {location : Location}
    (htargets : fs.Targets path location) (hentry : fs.entry? location ≠ some .folder)
    (content : FileContent) :
    FileSystem.find (fs.put location (.file content)) path = .ok (location, .file content) := by
  refine find_eq_file_iff.mpr ⟨(keepsFolders_put htargets.ne_nil hentry _).targets htargets, ?_⟩
  rw [lookup_put fs htargets.ne_nil, if_pos rfl]

theorem runOn_appendSection_of_find {fs : FileSystem} {path : Path} {location : Location}
    {old : String} (hfind : fs.find path = .ok (location, .file (.text old))) (addition : String) :
    runOn (appendSection path addition) fs =
      match appendedContent old addition with
      | none => (.ok false, fs)
      | some content => (.ok true, fs.put location (.file (.text content))) := by
  obtain ⟨htargets, hentry⟩ := find_eq_file_iff.mp hfind
  rw [runOn_appendSection, readText_eq_ok_iff.mpr ⟨location, hfind⟩]
  cases hsection : appendedContent old addition with
  | none => simp only [hsection]
  | some content =>
    have hwrite : fs.writeText path content = .ok (fs.put location (.file (.text content))) :=
      writeText_eq_ok_iff.mpr ⟨location, htargets, by simp [hentry], rfl⟩
    simp only [hsection, hwrite]

theorem runOn_appendSection_of_new {fs : FileSystem} {path : Path} {location : Location}
    (htargets : fs.Targets path location) (hentry : fs.entry? location ≠ some .folder)
    (addition : String) :
    runOn (appendSection path addition) (fs.put location (.file (.text ""))) =
      (.ok (appendedContent "" addition).isSome,
        fs.put location (.file (.text ((appendedContent "" addition).getD "")))) := by
  rw [runOn_appendSection_of_find (find_put_file htargets hentry (.text ""))]
  cases appendedContent "" addition with
  | none => rfl
  | some content => simp only [put_put, Option.isSome_some, Option.getD_some]

theorem sectionOutcome_exportSection (fs : FileSystem) (folder : Path) (options : ExportOptions)
    (s : Section) :
    SectionOutcome fs folder options s (runOn (exportSection folder options s) fs).1
      (runOn (exportSection folder options s) fs).2 := by
  unfold exportSection
  rw [runOn_bind, runOn_ensureNote]
  by_cases hkind : fs.kind? (folder.join (noteFileName s.title)) = some .file
  · rw [if_pos hkind]
    simp only [runOn_bind]
    cases hread : fs.readText (folder.join (noteFileName s.title)) with
    | error cause =>
      simp only [runOn_appendSection, hread]
      exact .failed
    | ok old =>
      obtain ⟨location, hfind⟩ := readText_eq_ok_iff.mp hread
      rw [runOn_appendSection_of_find hfind]
      cases hsection : appendedContent old s.content with
      | none => exact .present hfind hsection
      | some content => exact .appended hfind hsection
  · rw [if_neg hkind]
    cases hpath : fs.newPath folder (noteFileName s.title) options.notePrefix (some noteExtension) with
    | error e => exact .failed
    | ok path =>
      cases hwrite : fs.writeText path "" with
      | error cause =>
        simp only [hwrite]
        exact .failed
      | ok fs' =>
        obtain ⟨location, htargets, hentry, rfl⟩ := writeText_eq_ok_iff.mp hwrite
        simp only [hwrite, runOn_bind, runOn_appendSection_of_new htargets hentry]
        exact .made hkind hpath htargets hentry

end FileSystem

end MarkdownOutline
