import MarkdownOutline.Proofs.ExportSteps

/-!
# Runs of the export

An export reads its source, sees to the folder for the notes, and adds the sections to notes in it
one after the other.
-/

namespace MarkdownOutline

def Document.exportedSections (document : Document) (line : Nat) (peers : Bool) : List Section :=
  if peers then document.peerSectionsAt line
  else [document.sectionAt line].filter (!·.isEmpty)

/-- The path of the folder for the notes: the one around the source, or one in it that is named
after the source and made if it is missing. -/
def exportFolder {m : Type → Type} [Monad m] [MonadFiles m] (source parent : Path) (peers : Bool)
    (options : ExportOptions) : ExceptT NoteError m Path :=
  if peers then ensureFolder parent source.stem options.folderPrefix else pure parent

namespace FileSystem

def exportedSections (fs : FileSystem) (source : Path) (line : Nat) (peers : Bool) : List Section :=
  match fs.readText source with
  | .ok text => (Document.ofMarkdown text).exportedSections line peers
  | .error _ => []

/-- The exported sections with the paths of the notes that are named after them. -/
def titledSections (fs : FileSystem) (source : Path) (line : Nat) (peers : Bool)
    (options : ExportOptions) : List (Section × Path) :=
  match source.parent? with
  | none => []
  | some parent =>
    match (runOn (exportFolder source parent peers options) fs).1 with
    | .error _ => []
    | .ok folder =>
      (fs.exportedSections source line peers).map fun s => (s, folder.join (noteFileName s.title))

theorem exportedSections_eq {fs : FileSystem} {source : Path} {text : String}
    (hread : fs.readText source = .ok text) (line : Nat) (peers : Bool) :
    fs.exportedSections source line peers =
      (Document.ofMarkdown text).exportedSections line peers := by
  rw [exportedSections, hread]

theorem titledSections_eq {fs fs₁ : FileSystem} {source parent folder : Path} {peers : Bool}
    {options : ExportOptions} (hparent : source.parent? = some parent)
    (hfolder : runOn (exportFolder source parent peers options) fs = (.ok folder, fs₁))
    (line : Nat) :
    fs.titledSections source line peers options =
      (fs.exportedSections source line peers).map
        fun s => (s, folder.join (noteFileName s.title)) := by
  rw [titledSections, hparent]
  simp only [hfolder]

theorem titledSections_forall {fs fs₁ : FileSystem} {source parent folder : Path} {line : Nat}
    {peers : Bool} {options : ExportOptions} (hparent : source.parent? = some parent)
    (hfolder : runOn (exportFolder source parent peers options) fs = (.ok folder, fs₁))
    {P : Section × Path → Prop} :
    (∀ p ∈ fs.titledSections source line peers options, P p) ↔
      ∀ s ∈ fs.exportedSections source line peers, P (s, folder.join (noteFileName s.title)) := by
  simp [titledSections_eq hparent hfolder]

theorem titledSections_of_no_sections {fs : FileSystem} {source : Path} {line : Nat} {peers : Bool}
    (h : fs.exportedSections source line peers = []) (options : ExportOptions) :
    fs.titledSections source line peers options = [] := by
  unfold titledSections
  split
  · rfl
  · split
    · rfl
    · simp [h]

theorem runOn_exportHeading {fs : FileSystem} {source parent : Path} {text : String}
    (hread : fs.readText source = .ok text) (hparent : source.parent? = some parent) (line : Nat)
    (peers : Bool) (options : ExportOptions) :
    runOn (exportHeading source line peers options) fs =
      if fs.exportedSections source line peers = [] then (.ok [], fs)
      else
        match runOn (exportFolder source parent peers options) fs with
        | (.ok folder, fs₁) =>
          runOn ((fs.exportedSections source line peers).mapM (exportSection folder options)) fs₁
        | (.error e, fs₁) => (.error e, fs₁) := by
  rw [exportedSections_eq hread, exportHeading, runOn_bind, runOn_readText, hread]
  simp only [Except.mapError, hparent]
  cases peers with
  | true =>
    simp only [Document.exportedSections, exportFolder, if_true, List.isEmpty_iff]
    split
    · rfl
    · rw [runOn_bind]
      rcases runOn (ensureFolder parent source.stem options.folderPrefix) fs with ⟨_ | _, _⟩ <;> rfl
  | false =>
    simp only [Document.exportedSections, exportFolder, Bool.false_eq_true, if_false, runOn_pure]
    cases hempty : ((Document.ofMarkdown text).sectionAt line).isEmpty with
    | true => simp [hempty, runOn_pure]
    | false =>
      simp only [Bool.false_eq_true, if_false, List.filter_cons, hempty, Bool.not_false, if_true,
        List.filter_nil, reduceCtorEq, runOn_exportSections_cons]
      rw [runOn_bind]
      rcases runOn (exportSection parent options _) fs with ⟨_ | note, fs₁⟩ <;> rfl

inductive ExportOutcome (fs : FileSystem) (source : Path) (line : Nat) (peers : Bool)
    (options : ExportOptions) : Except NoteError (List ExportedNote) → FileSystem → Prop
  | unread {cause : FileError} (hread : fs.readText source = .error cause) :
      ExportOutcome fs source line peers options (.error (.file source cause)) fs
  | noParent (hparent : source.parent? = none) :
      ExportOutcome fs source line peers options (.error (.noParent source)) fs
  | noSections (hsections : fs.exportedSections source line peers = []) :
      ExportOutcome fs source line peers options (.ok []) fs
  | noFolder {text : String} {parent : Path} {e : NoteError} {fs₁ : FileSystem}
      (hread : fs.readText source = .ok text) (hparent : source.parent? = some parent)
      (hfolder : runOn (exportFolder source parent peers options) fs = (.error e, fs₁)) :
      ExportOutcome fs source line peers options (.error e) fs₁
  | written {text : String} {parent folder : Path} {fs₁ fs' : FileSystem}
      {result : Except NoteError (List ExportedNote)}
      (hread : fs.readText source = .ok text) (hparent : source.parent? = some parent)
      (hsections : fs.exportedSections source line peers ≠ [])
      (hfolder : runOn (exportFolder source parent peers options) fs = (.ok folder, fs₁))
      (hrun : SectionsRun folder options fs₁ (fs.exportedSections source line peers) result fs') :
      ExportOutcome fs source line peers options result fs'

theorem exportOutcome_exportHeading (fs : FileSystem) (source : Path) (line : Nat) (peers : Bool)
    (options : ExportOptions) :
    ExportOutcome fs source line peers options
      (runOn (exportHeading source line peers options) fs).1
      (runOn (exportHeading source line peers options) fs).2 := by
  cases hread : fs.readText source with
  | error cause =>
    rw [exportHeading, runOn_bind, runOn_readText, hread]
    exact .unread hread
  | ok text =>
    cases hparent : source.parent? with
    | none =>
      rw [exportHeading, runOn_bind, runOn_readText, hread]
      simp only [Except.mapError, hparent]
      exact .noParent hparent
    | some parent =>
      rw [runOn_exportHeading hread hparent]
      split
      · exact .noSections ‹_›
      · rename_i hsections
        cases hfolder : runOn (exportFolder source parent peers options) fs with
        | mk result fs₁ =>
          cases result with
          | error e => exact .noFolder hread hparent hfolder
          | ok folder =>
            exact .written hread hparent hsections hfolder (sectionsRun_exportSections _ _ _ _)

/-- What seeing to a folder with a name comes to: it is there already, or a new one is made together
with the folders around it. -/
inductive FolderOutcome (fs : FileSystem) (around : Path) (name stem : String) :
    Except NoteError Path → FileSystem → Prop
  | present (hkind : fs.kind? (around.join name) = some .folder) :
      FolderOutcome fs around name stem (.ok (around.join name)) fs
  | unnamed {e : NoteError} : FolderOutcome fs around name stem (.error e) fs
  | made {path : Path} {fs' : FileSystem} (habsent : fs.kind? (around.join name) ≠ some .folder)
      (hpath : fs.newPath around name stem none = .ok path)
      (hmade : fs.makeFolders path.withParents = (.ok (), fs')) :
      FolderOutcome fs around name stem (.ok path) fs'
  | failed {path : Path} {cause : FileError} {fs' : FileSystem}
      (hpath : fs.newPath around name stem none = .ok path)
      (hmade : fs.makeFolders path.withParents = (.error cause, fs')) :
      FolderOutcome fs around name stem (.error (.file path cause)) fs'

theorem folderOutcome_ensureFolder (fs : FileSystem) (around : Path) (name stem : String) :
    FolderOutcome fs around name stem (runOn (ensureFolder around name stem) fs).1
      (runOn (ensureFolder around name stem) fs).2 := by
  rw [runOn_ensureFolder]
  split
  · exact .present ‹_›
  · rename_i habsent
    cases hpath : fs.newPath around name stem none with
    | error e => exact .unnamed
    | ok path =>
      rcases hmade : fs.makeFolders path.withParents with ⟨cause | _, fs'⟩
      · simpa only [hmade] using FolderOutcome.failed hpath hmade
      · simpa only [hmade] using FolderOutcome.made habsent hpath hmade

theorem FolderOutcome.addsFolders {fs fs' : FileSystem} {around : Path} {name stem : String}
    {result : Except NoteError Path} (h : FolderOutcome fs around name stem result fs') :
    AddsFolders fs fs' := by
  cases h with
  | present => exact .refl fs
  | unnamed => exact .refl fs
  | @made path fs' _ _ hmade => simpa only [hmade] using addsFolders_makeFolders fs path.withParents
  | @failed path _ fs' _ hmade =>
    simpa only [hmade] using addsFolders_makeFolders fs path.withParents

theorem folderOutcome_exportFolder {fs fs₁ : FileSystem} {source parent : Path}
    {options : ExportOptions} {result : Except NoteError Path}
    (h : runOn (exportFolder source parent true options) fs = (result, fs₁)) :
    FolderOutcome fs parent source.stem options.folderPrefix result fs₁ := by
  have houtcome := folderOutcome_ensureFolder fs parent source.stem options.folderPrefix
  rw [exportFolder, if_pos rfl] at h
  rwa [h] at houtcome

theorem addsFolders_exportFolder {fs fs₁ : FileSystem} {source parent : Path} {peers : Bool}
    {options : ExportOptions} {result : Except NoteError Path}
    (h : runOn (exportFolder source parent peers options) fs = (result, fs₁)) :
    AddsFolders fs fs₁ := by
  cases peers with
  | false =>
    obtain ⟨-, rfl⟩ := Prod.mk.inj h
    exact .refl fs
  | true => exact (folderOutcome_exportFolder h).addsFolders

theorem newPath_text_ne_empty {fs : FileSystem} {folder path : Path} {name stem : String}
    {extension? : Option String} (h : fs.newPath folder name stem extension? = .ok path) :
    path.text ≠ "" := by
  rcases newPath_cases h with ⟨hvalid, rfl⟩ | ⟨-, taken, -, rfl⟩
  · exact Path.join_text_ne_empty folder (isPlainName_of_isValidFileName hvalid).nonempty
  · refine Path.join_text_ne_empty folder fun hempty => ?_
    simp [freeName, numberedName, String.append_eq_empty_iff] at hempty

theorem FolderOutcome.kind? {fs fs' : FileSystem} {around folder : Path} {name stem : String}
    (h : FolderOutcome fs around name stem (.ok folder) fs') : fs'.kind? folder = some .folder := by
  cases h with
  | present hkind => exact hkind
  | made _ hpath hmade =>
    obtain ⟨others, hothers⟩ := folder.withParents_eq_cons
    exact kind?_of_makeFolders (newPath_text_ne_empty hpath) (hothers ▸ hmade)

end FileSystem

end MarkdownOutline
