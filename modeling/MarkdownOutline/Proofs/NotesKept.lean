import MarkdownOutline.Proofs.ExportRuns

/-!
# Files that an export keeps

An export takes no file away, and what was in a file stays in front of what is added. That needs
numbered names to be looked up where they are used. The empty path, which is all that is around a
source given by its name alone, counts as an empty folder; and a stem with a slash in it is put in
another folder than the one that is looked at. The source is kept as long as no exported section
has its name.
-/

namespace MarkdownOutline

def FileContent.endsWithSection (s : Section) : FileContent → Bool
  | .text value => MarkdownOutline.endsWithSection value.toList s.content.toList
  | .binary _ => false

namespace FileSystem

/-- Exported sections with titles that cannot be used get numbered names only where those are looked
up: in a folder that has a path, under a stem that stays in it. -/
def NamesSafely (fs : FileSystem) (source : Path) (line : Nat) (peers : Bool)
    (options : ExportOptions) : Prop :=
  ∀ s ∈ fs.exportedSections source line peers, isValidFileName (noteFileName s.title) = false →
    (peers = true ∨ source.parent? ≠ some ⟨""⟩) ∧ '/' ∉ options.notePrefix.toList

instance (fs : FileSystem) (source : Path) (line : Nat) (peers : Bool) (options : ExportOptions) :
    Decidable (fs.NamesSafely source line peers options) :=
  inferInstanceAs (Decidable (∀ s ∈ fs.exportedSections source line peers, _))

theorem NamesSafely.safelyNamed {fs fs₁ : FileSystem} {source parent folder : Path} {line : Nat}
    {peers : Bool} {options : ExportOptions} (h : fs.NamesSafely source line peers options)
    {text : String} (hread : fs.readText source = .ok text)
    (hparent : source.parent? = some parent)
    (hfolder : runOn (exportFolder source parent peers options) fs = (.ok folder, fs₁)) :
    ∀ s ∈ fs.exportedSections source line peers, fs₁.SafelyNamed folder options s := by
  intro s hs hinvalid
  obtain ⟨hlisted, hslash⟩ := h s hs hinvalid
  refine ⟨?_, hslash⟩
  cases peers with
  | true => exact kind?_eq_folder_iff.mp (folderOutcome_exportFolder hfolder).kind?
  | false =>
    obtain ⟨hsame, rfl⟩ : Except.ok parent = Except.ok folder ∧ fs = fs₁ := Prod.mk.inj hfolder
    obtain rfl : parent = folder := Except.ok.inj hsame
    obtain ⟨location, hfind⟩ := readText_eq_ok_iff.mp hread
    obtain ⟨name, around, -, hopens⟩ := (find_eq_file_iff.mp hfind).1.opens_parent hparent
    rcases hopens with ⟨hempty, -⟩ | hopens
    · obtain rfl : parent = ⟨""⟩ := congrArg Path.mk hempty
      simp [hparent] at hlisted
    · exact ⟨around, hopens⟩

theorem ExportOutcome.file_kept {fs fs' : FileSystem} {source : Path} {line : Nat} {peers : Bool}
    {options : ExportOptions} {result : Except NoteError (List ExportedNote)}
    (h : ExportOutcome fs source line peers options result fs') {location : Location}
    {content : FileContent} (hentry : fs.entry? location = some (.file content)) :
    ∃ content', fs'.entry? location = some (.file content') ∧
      (fs.NamesSafely source line peers options → content.toBytes <+: content'.toBytes) := by
  cases h with
  | unread => exact ⟨content, hentry, fun _ => List.prefix_refl _⟩
  | noParent => exact ⟨content, hentry, fun _ => List.prefix_refl _⟩
  | noSections => exact ⟨content, hentry, fun _ => List.prefix_refl _⟩
  | @noFolder text parent e fs₁ hread hparent hfolder =>
    have hadds := addsFolders_exportFolder hfolder
    exact ⟨content, hadds.file_iff.mpr hentry, fun _ => List.prefix_refl _⟩
  | @written text parent folder fs₁ fs' result hread hparent hsections hfolder hrun =>
    have hadds := addsFolders_exportFolder hfolder
    obtain ⟨content', hentry', hfront⟩ :=
      hrun.grows.file location content (hadds.file_iff.mpr hentry)
    exact ⟨content', hentry', fun hsafe => hfront (hsafe.safelyNamed hread hparent hfolder)⟩

end FileSystem

/-- After an export, whether it fails or not, every file is still there; and if numbered names are
looked up where they are used, it starts with what it held. -/
theorem file_kept_of_exportHeading (fs : FileSystem) (source : Path) (line : Nat) (peers : Bool)
    (options : ExportOptions) {location : Location} {content : FileContent}
    (hentry : fs.entry? location = some (.file content)) :
    ∃ content',
      FileSystem.entry? (runOn (exportHeading source line peers options) fs).2 location =
        some (.file content') ∧
      (fs.NamesSafely source line peers options → content.toBytes <+: content'.toBytes) :=
  (FileSystem.exportOutcome_exportHeading fs source line peers options).file_kept hentry

/-- A note with a title that cannot be used, and one with the first numbered name. -/
def numberedNotes : FileSystem where
  entries := [(["book.md"], .file (.text "# a/b\n\nx\n")),
    (["invalid_note_title_0.md"], .file (.text "keep"))]

theorem file_kept_of_exportHeading_absolute :
    FileSystem.entry? numberedNotes ["invalid_note_title_0.md"] = some (.file (.text "keep")) ∧
      numberedNotes.NamesSafely ⟨"/book.md"⟩ 1 false {} ∧
      ∃ content', FileSystem.entry?
          (runOn (exportHeading ⟨"/book.md"⟩ 1 false {}) numberedNotes).2
          ["invalid_note_title_0.md"] = some (.file content') ∧
        (FileContent.text "keep").toBytes <+: content'.toBytes := by
  have hentry : FileSystem.entry? numberedNotes ["invalid_note_title_0.md"] =
      some (.file (.text "keep")) := by decide +kernel
  have hnames : numberedNotes.NamesSafely ⟨"/book.md"⟩ 1 false {} := by decide +kernel
  obtain ⟨content', hkept, hfront⟩ := file_kept_of_exportHeading _ ⟨"/book.md"⟩ 1 false {} hentry
  exact ⟨hentry, hnames, content', hkept, hfront hnames⟩

/-- The same note given by its name alone: the numbered name counts as free, and the file that has
it is written over. -/
theorem file_lost_of_exportHeading :
    FileSystem.entry? numberedNotes ["invalid_note_title_0.md"] = some (.file (.text "keep")) ∧
      FileSystem.entry? (runOn (exportHeading ⟨"book.md"⟩ 1 false {}) numberedNotes).2
        ["invalid_note_title_0.md"] = some (.file (.text "x\n")) ∧
      ¬ (FileContent.text "keep").toBytes <+: (FileContent.text "x\n").toBytes := by
  decide +kernel

namespace FileSystem

theorem ExportOutcome.text_kept {fs fs' : FileSystem} {source : Path} {line : Nat} {peers : Bool}
    {options : ExportOptions} {result : Except NoteError (List ExportedNote)}
    (h : ExportOutcome fs source line peers options result fs')
    (hsafe : fs.NamesSafely source line peers options) {location : Location} {text : String}
    (hentry : fs.entry? location = some (.file (.text text)))
    (hends : ∀ p ∈ fs.titledSections source line peers options,
      fs'.fileAt? p.2 = some location →
        endsWithSection text.toList p.1.content.toList = true) :
    fs'.entry? location = some (.file (.text text)) := by
  obtain ⟨content, hentry', -⟩ := h.file_kept hentry
  cases h with
  | unread => exact hentry
  | noParent => exact hentry
  | noSections => exact hentry
  | @noFolder _ parent e fs₁ hread hparent hfolder =>
    have hadds := addsFolders_exportFolder hfolder
    exact hadds.file_iff.mpr hentry
  | @written _ parent folder fs₁ fs' result hread hparent hsections hfolder hrun =>
    have hadds := addsFolders_exportFolder hfolder
    rw [titledSections_forall hparent hfolder] at hends
    exact hrun.text_kept (hsafe.safelyNamed hread hparent hfolder) (hadds.file_iff.mpr hentry)
      fun s hs htargets => hends s hs ((fileAt?_eq_some_iff_targets hentry').mpr htargets)

theorem ExportOutcome.endsWithSection {fs fs' : FileSystem} {source : Path} {line : Nat}
    {peers : Bool} {options : ExportOptions} {notes : List ExportedNote}
    (h : ExportOutcome fs source line peers options (.ok notes) fs')
    (hsafe : fs.NamesSafely source line peers options) {location : Location} {text : String}
    (hentry : fs.entry? location = some (.file (.text text)))
    (hkept : fs'.entry? location = some (.file (.text text))) :
    ∀ p ∈ fs.titledSections source line peers options, fs'.fileAt? p.2 = some location →
      endsWithSection text.toList p.1.content.toList = true := by
  cases h with
  | noSections hsections => simp [titledSections_of_no_sections hsections]
  | @written _ parent folder fs₁ fs' _ hread hparent hsections hfolder hrun =>
    have hadds := addsFolders_exportFolder hfolder
    rw [titledSections_forall hparent hfolder]
    intro s hs hfile
    exact hrun.endsWithSection (hsafe.safelyNamed hread hparent hfolder)
      (hadds.file_iff.mpr hentry) hkept s hs ((fileAt?_eq_some_iff_targets hkept).mp hfile)

theorem ExportOutcome.eq_of_unread {fs fs' : FileSystem} {source : Path} {line : Nat} {peers : Bool}
    {options : ExportOptions} {result : Except NoteError (List ExportedNote)}
    (h : ExportOutcome fs source line peers options result fs') {cause : FileError}
    (hunread : fs.readText source = .error cause) : fs' = fs := by
  cases h with
  | unread => rfl
  | noParent => rfl
  | noSections => rfl
  | noFolder hread => simp [hunread] at hread
  | written hread => simp [hunread] at hread

/-- The exported sections that have the name of the file at a location after the export. -/
def sectionsNamed (fs : FileSystem) (source : Path) (line : Nat) (peers : Bool)
    (options : ExportOptions) (location : Location) : List Section :=
  ((fs.titledSections source line peers options).filter fun p =>
    (runOn (exportHeading source line peers options) fs).2.fileAt? p.2 == some location).map (·.1)

theorem sectionsNamed_forall {fs : FileSystem} {source : Path} {line : Nat} {peers : Bool}
    {options : ExportOptions} {location : Location} {P : Section → Prop} :
    (∀ s ∈ fs.sectionsNamed source line peers options location, P s) ↔
      ∀ p ∈ fs.titledSections source line peers options,
        (runOn (exportHeading source line peers options) fs).2.fileAt? p.2 = some location →
          P p.1 := by
  simp only [sectionsNamed, List.forall_mem_map, List.mem_filter, beq_iff_eq, and_imp]

theorem sectionsNamed_of_unread {fs : FileSystem} {source : Path} {cause : FileError}
    (hunread : fs.readText source = .error cause) (line : Nat) (peers : Bool)
    (options : ExportOptions) (location : Location) :
    fs.sectionsNamed source line peers options location = [] := by
  have hsections : fs.exportedSections source line peers = [] := by rw [exportedSections, hunread]
  rw [sectionsNamed, titledSections_of_no_sections hsections]
  rfl

end FileSystem

/-- An export leaves its source as it was, whether it fails or not, if the source ends with every
exported section that has its name. Unless it fails, it leaves no other source as it was. -/
theorem source_kept_of_exportHeading (fs : FileSystem) (source : Path) (line : Nat) (peers : Bool)
    (options : ExportOptions) {location : Location} {content : FileContent}
    (hsource : fs.find source = .ok (location, .file content))
    (hnames : fs.NamesSafely source line peers options) :
    let after := runOn (exportHeading source line peers options) fs
    ((∀ s ∈ fs.sectionsNamed source line peers options location, content.endsWithSection s = true) →
      FileSystem.entry? after.2 location = some (.file content)) ∧
    (after.1.isOk = true → FileSystem.entry? after.2 location = some (.file content) →
      ∀ s ∈ fs.sectionsNamed source line peers options location,
        content.endsWithSection s = true) := by
  intro after
  have houtcome := FileSystem.exportOutcome_exportHeading fs source line peers options
  have hentry := (FileSystem.find_eq_file_iff.mp hsource).2
  cases content with
  | binary bytes =>
    have hunread : fs.readText source = .error .notText := by
      rw [FileSystem.readText, hsource]
      rfl
    have hsame : after.2 = fs := houtcome.eq_of_unread hunread
    rw [hsame, FileSystem.sectionsNamed_of_unread hunread]
    exact ⟨fun _ => hentry, fun _ _ => by simp⟩
  | text text =>
    rw [FileSystem.sectionsNamed_forall]
    refine ⟨houtcome.text_kept hnames hentry, fun hok hkept => ?_⟩
    cases hresult : after.1 with
    | error e => simp [hresult, Except.isOk, Except.toBool] at hok
    | ok notes =>
      exact (hresult ▸ houtcome : FileSystem.ExportOutcome fs source line peers options (.ok notes)
        after.2).endsWithSection hnames hentry hkept

def bookInFolder (text : String) : FileSystem where
  entries := [(["d"], .folder), (["book.md", "d"], .file (.text text))]

theorem source_kept_of_exportHeading_last :
    (bookInFolder "# book\n\nx\n").find ⟨"d/book.md"⟩ =
        .ok (["book.md", "d"], .file (.text "# book\n\nx\n")) ∧
      (bookInFolder "# book\n\nx\n").NamesSafely ⟨"d/book.md"⟩ 1 false {} ∧
      (bookInFolder "# book\n\nx\n").sectionsNamed ⟨"d/book.md"⟩ 1 false {} ["book.md", "d"] =
        [⟨"book", "x\n"⟩] ∧
      FileSystem.entry?
        (runOn (exportHeading ⟨"d/book.md"⟩ 1 false {}) (bookInFolder "# book\n\nx\n")).2
        ["book.md", "d"] = some (.file (.text "# book\n\nx\n")) := by
  have hsource : (bookInFolder "# book\n\nx\n").find ⟨"d/book.md"⟩ =
      .ok (["book.md", "d"], .file (.text "# book\n\nx\n")) := by decide +kernel
  have hnames : (bookInFolder "# book\n\nx\n").NamesSafely ⟨"d/book.md"⟩ 1 false {} := by
    decide +kernel
  have hnamed : (bookInFolder "# book\n\nx\n").sectionsNamed ⟨"d/book.md"⟩ 1 false {}
      ["book.md", "d"] = [⟨"book", "x\n"⟩] := by decide +kernel
  refine ⟨hsource, hnames, hnamed,
    (source_kept_of_exportHeading _ ⟨"d/book.md"⟩ 1 false {} hsource hnames).1 ?_⟩
  rw [hnamed]
  decide +kernel

/-- The section under a heading with the name of the note is added to the note that it is from. -/
theorem source_changed_of_exportHeading :
    (bookInFolder "# book\n\nx\n\n# other\n\ny\n").find ⟨"d/book.md"⟩ =
        .ok (["book.md", "d"], .file (.text "# book\n\nx\n\n# other\n\ny\n")) ∧
      FileSystem.entry? (runOn (exportHeading ⟨"d/book.md"⟩ 1 false {})
          (bookInFolder "# book\n\nx\n\n# other\n\ny\n")).2 ["book.md", "d"] =
        some (.file (.text "# book\n\nx\n\n# other\n\ny\n\n\n---\nx\n")) := by
  decide +kernel

end MarkdownOutline
