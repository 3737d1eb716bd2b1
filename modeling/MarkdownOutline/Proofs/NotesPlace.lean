import MarkdownOutline.Proofs.NotesKept

/-!
# Where an export writes

New notes are direct children of one folder: the one around the source, or one in it that is named
after the source. Two names lead elsewhere. A title with a slash is looked up before it is checked,
so the file that it leads to counts as the note; and a source named `...md` has two dots for a
stem, which is the folder further out.
-/

namespace MarkdownOutline

namespace FileSystem

variable {fs fs' fs₁ fs'' : FileSystem} {folder : Path} {options : ExportOptions} {s : Section}
  {sections : List Section} {location inside : Location}

theorem exists_plainName_of_newPath {path : Path} {name stem : String}
    {extension? : Option String} (hstem : '/' ∉ stem.toList)
    (hextension : ∀ extension ∈ extension?, '/' ∉ extension.toList)
    (h : fs.newPath folder name stem extension? = .ok path) :
    ∃ child, IsPlainName child ∧ path = folder.join child := by
  rcases newPath_cases h with ⟨hvalid, rfl⟩ | ⟨-, taken, -, rfl⟩
  · exact ⟨name, isPlainName_of_isValidFileName hvalid, rfl⟩
  · exact ⟨_, isPlainName_numberedName hstem hextension _, rfl⟩

theorem settleFolder_other (hopens : fs.Opens folder location) {name : String}
    (hname : IsPlainName name) {result : Except FileError Unit}
    (h : fs.settleFolder (folder.join name) = (result, fs')) {other : Location}
    (hother : other ≠ name :: location) :
    fs'.entry? other = fs.entry? other := by
  unfold settleFolder at h
  cases hmake : fs.makeFolder (folder.join name) with
  | error cause =>
    rw [hmake] at h
    rw [(Prod.mk.inj h).2]
  | ok made =>
    rw [hmake] at h
    obtain ⟨-, rfl⟩ := Prod.mk.inj h
    obtain ⟨child, around, hplace, -, rfl⟩ := makeFolder_eq_ok_iff.mp hmake
    obtain ⟨location', hopens', hplace'⟩ := opens_of_place_join hname hplace
    obtain ⟨rfl, rfl⟩ : around = location' ∧ child = name := by simpa using hplace'
    obtain rfl := hopens.unique hopens'
    rw [lookup_put fs (List.cons_ne_nil _ _), if_neg hother]

theorem settleFolder_error {path : Path} {cause : FileError}
    (h : fs.settleFolder path = (.error cause, fs')) : fs' = fs := by
  unfold settleFolder at h
  split at h
  · simp at h
  · exact (Prod.mk.inj h).2.symm

theorem FolderOutcome.child {around : Path} {name stem : String} {result : Except NoteError Path}
    (h : FolderOutcome fs around name stem result fs') (hopens : fs.Opens around location)
    (hname : IsPlainName name) (hstem : '/' ∉ stem.toList) :
    (fs' = fs ∧ ∃ e, result = .error e) ∨
      ∃ child, IsPlainName child ∧ result = .ok (around.join child) ∧
        fs'.Opens (around.join child) (child :: location) ∧
        ∀ other, other ≠ child :: location → fs'.entry? other = fs.entry? other := by
  cases h with
  | present hkind =>
    obtain ⟨place, hfind⟩ := kind?_eq_folder_iff.mp hkind
    obtain rfl := hopens.join hname hfind
    exact .inr ⟨name, hname, rfl, .inr hfind, fun _ _ => rfl⟩
  | unnamed => exact .inl ⟨rfl, _, rfl⟩
  | @made path fs' _ hpath hmade =>
    -- The folder around is in place, so no other folder is made on the way.
    obtain ⟨child, hchild, rfl⟩ := exists_plainName_of_newPath hstem (by simp) hpath
    obtain ⟨others, hothers⟩ := (around.join child).withParents_eq_cons
    rw [hothers, makeFolders_of_opens hopens hchild] at hmade
    obtain ⟨place, hfind⟩ := kind?_eq_folder_iff.mp (kind?_of_settleFolder hmade)
    have hadds := addsFolders_settleFolder fs (around.join child)
    rw [hmade] at hadds
    obtain rfl := (hadds.keepsFolders.opens hopens).join hchild hfind
    exact .inr ⟨child, hchild, rfl, .inr hfind, fun _ => settleFolder_other hopens hchild hmade⟩
  | @failed path cause fs' hpath hmade =>
    obtain ⟨child, hchild, rfl⟩ := exists_plainName_of_newPath hstem (by simp) hpath
    obtain ⟨others, hothers⟩ := (around.join child).withParents_eq_cons
    rw [hothers, makeFolders_of_opens hopens hchild] at hmade
    exact .inl ⟨settleFolder_error hmade, _, rfl⟩

def ChangesIn (inside : Location) (fs fs' : FileSystem) : Prop :=
  ∀ location, fs'.entry? location ≠ fs.entry? location → ∃ name, location = name :: inside

theorem ChangesIn.refl (inside : Location) (fs : FileSystem) : ChangesIn inside fs fs :=
  fun _ h => absurd rfl h

theorem ChangesIn.trans (h : ChangesIn inside fs fs') (h' : ChangesIn inside fs' fs'') :
    ChangesIn inside fs fs'' := by
  intro location hchanged
  by_cases hsame : fs'.entry? location = fs.entry? location
  · exact h' location (hsame ▸ hchanged)
  · exact h location hsame

theorem changesIn_put {name : String} {entry : Entry} :
    ChangesIn inside fs (fs.put (name :: inside) entry) := by
  intro location hchanged
  rw [lookup_put fs (List.cons_ne_nil _ _)] at hchanged
  split at hchanged
  · exact ⟨name, ‹_›⟩
  · exact absurd rfl hchanged

def IsChildPath (folder path : Path) : Prop := ∃ name, IsPlainName name ∧ path = folder.join name

theorem SectionOutcome.changesIn {result : Except NoteError ExportedNote}
    (h : SectionOutcome fs folder options s result fs') (hopens : fs.Opens folder inside)
    (hnoSlash : '/' ∉ options.notePrefix.toList)
    (htitle : '/' ∈ s.title.toList → fs.kind? (folder.join (noteFileName s.title)) ≠ some .file) :
    ChangesIn inside fs fs' ∧ ∀ note, result = .ok note → IsChildPath folder note.path := by
  have hplain : ∀ {location content},
      fs.find (folder.join (noteFileName s.title)) = .ok (location, .file content) →
        IsPlainName (noteFileName s.title) := fun hfind =>
    isPlainName_noteFileName fun hslash => htitle hslash (kind?_eq_file_iff.mpr ⟨_, _, hfind⟩)
  cases h with
  | failed => exact ⟨.refl _ _, nofun⟩
  | present hfind hsection =>
    refine ⟨.refl _ _, ?_⟩
    rintro _ ⟨⟩
    exact ⟨_, hplain hfind, rfl⟩
  | appended hfind hsection =>
    obtain ⟨-, -, rfl⟩ :=
      (targets_join_iff (hplain hfind) hopens).mp (find_eq_file_iff.mp hfind).1
    refine ⟨changesIn_put, ?_⟩
    rintro _ ⟨⟩
    exact ⟨_, hplain hfind, rfl⟩
  | made habsent hpath htargets hentry =>
    obtain ⟨child, hchild, rfl⟩ :=
      exists_plainName_of_newPath hnoSlash (by simp [noteExtension]) hpath
    obtain ⟨-, -, rfl⟩ := (targets_join_iff hchild hopens).mp htargets
    refine ⟨changesIn_put, ?_⟩
    rintro _ ⟨⟩
    exact ⟨child, hchild, rfl⟩

theorem SectionsRun.changesIn {result : Except NoteError (List ExportedNote)}
    (h : SectionsRun folder options fs sections result fs') (hopens : fs.Opens folder inside)
    (hnoSlash : '/' ∉ options.notePrefix.toList) (htitles : ∀ s ∈ sections, '/' ∈ s.title.toList →
      fs'.kind? (folder.join (noteFileName s.title)) ≠ some .file) :
    ChangesIn inside fs fs' ∧
      ∀ notes, result = .ok notes → ∀ note ∈ notes, IsChildPath folder note.path := by
  induction h with
  | done => exact ⟨.refl _ _, by rintro _ ⟨⟩; simp⟩
  | @stopped fs fs' s rest e hstep =>
    refine ⟨(hstep.changesIn hopens hnoSlash fun hslash hkind => ?_).1, nofun⟩
    exact htitles s List.mem_cons_self hslash (hstep.grows.kind?_file hkind)
  | @next fs fs₁ fs' s rest note result hstep hrest ih =>
    have hfirst := hstep.changesIn hopens hnoSlash fun hslash hkind =>
      htitles s List.mem_cons_self hslash
        (hrest.grows.kind?_file (hstep.grows.kind?_file hkind))
    have hothers := ih (hstep.grows.keeps.opens hopens)
      fun t ht => htitles t (List.mem_cons_of_mem s ht)
    refine ⟨hfirst.1.trans hothers.1, fun notes hnotes => ?_⟩
    cases result with
    | error e => simp [Except.map] at hnotes
    | ok others =>
      obtain rfl : note :: others = notes := by simpa [Except.map] using hnotes
      exact List.forall_mem_cons.mpr ⟨hfirst.2 note rfl, hothers.2 others rfl⟩

/-- The path and the location of the one folder that an export writes to: the folder around its
source, or with peers a direct child of that. -/
inductive NoteFolder (fs : FileSystem) (source : Path) : Bool → Path → Location → Prop
  | around {parent : Path} {name : String} {around : Location}
      (hsource : fs.fileAt? source = some (name :: around))
      (hparent : source.parent? = some parent) : NoteFolder fs source false parent around
  | child {parent : Path} {name child : String} {around : Location}
      (hsource : fs.fileAt? source = some (name :: around)) (hparent : source.parent? = some parent)
      (hchild : IsPlainName child) :
      NoteFolder fs source true (parent.join child) (child :: around)

/-- An export that may write finds the folder for the notes, and makes at most that folder; or it
ends there with all as it was. -/
theorem noteFolder_of_exportFolder {source parent : Path} {peers : Bool} {text : String}
    (hread : fs.readText source = .ok text) (hparent : source.parent? = some parent)
    (hnoSlash : '/' ∉ options.folderPrefix.toList)
    (hstem : peers = true → source.stem ≠ "." ∧ source.stem ≠ "..")
    {result : Except NoteError Path}
    (h : runOn (exportFolder source parent peers options) fs = (result, fs₁)) :
    (fs₁ = fs ∧ ∃ e, result = .error e) ∨
      ∃ folder inside, result = .ok folder ∧ NoteFolder fs source peers folder inside ∧
        fs₁.Opens folder inside ∧ ∀ location, fs₁.entry? location ≠ fs.entry? location →
          peers = true ∧ location = inside ∧ fs.entry? location = none ∧
            fs₁.entry? location = some .folder := by
  obtain ⟨place, hfind⟩ := readText_eq_ok_iff.mp hread
  have htargets := (find_eq_file_iff.mp hfind).1
  obtain ⟨name, around, rfl, hopens⟩ := htargets.opens_parent hparent
  have hsource : fs.fileAt? source = some (name :: around) := fileAt?_eq_some_iff.mpr ⟨_, hfind⟩
  cases peers with
  | false =>
    obtain ⟨rfl, rfl⟩ := Prod.mk.inj h
    exact .inr ⟨parent, around, rfl, .around hsource hparent, hopens, fun _ h => absurd rfl h⟩
  | true =>
    have houtcome := folderOutcome_exportFolder h
    obtain ⟨hdot, hdots⟩ := hstem rfl
    rcases houtcome.child hopens (htargets.isPlainName_stem hdot hdots) hnoSlash with
      hidle | ⟨child, hchild, hresult, hopens₁, hothers⟩
    · exact .inl hidle
    · refine .inr ⟨_, _, hresult, .child hsource hparent hchild, hopens₁, ?_⟩
      intro location hchanged
      have hlocation : location = child :: around := by
        by_contra hne
        exact hchanged (hothers location hne)
      exact ⟨rfl, hlocation, (houtcome.addsFolders.entry location).resolve_left hchanged⟩

/-- Only what is directly in the folder is written, and the folder itself if it was not there. -/
structure WritesIn (folder : Path) (inside : Location) (peers : Bool) (fs fs' : FileSystem)
    (result : Except NoteError (List ExportedNote)) : Prop where
  opens : fs'.Opens folder inside
  changed : ∀ location, fs'.entry? location ≠ fs.entry? location →
    (peers = true ∧ location = inside ∧ fs.entry? location = none ∧
      fs'.entry? location = some .folder) ∨
    ∃ name, location = name :: inside
  paths : ∀ notes, result = .ok notes → ∀ note ∈ notes, IsChildPath folder note.path

end FileSystem

/-- With prefixes that can be used as names, an export writes to one folder only: the one around its
source, or with peers a direct child of it, which it may make; it gives one path for each section,
that of a name in the folder. All stays as it was only on a failure or with no section. This needs
titles with a slash to lead to no file, and for peers a stem that is neither a dot nor two. -/
theorem exportHeading_writes_inside {fs fs' : FileSystem} {source : Path} {line : Nat}
    {peers : Bool} {options : ExportOptions} {result : Except NoteError (List ExportedNote)}
    (hexport : runOn (exportHeading source line peers options) fs = (result, fs'))
    (hnote : isValidFileName options.notePrefix = true)
    (hfolder : isValidFileName options.folderPrefix = true)
    (hstem : peers = true → source.stem ≠ "." ∧ source.stem ≠ "..")
    (htitles : ∀ p ∈ fs.titledSections source line peers options, '/' ∈ p.1.title.toList →
      fs'.kind? p.2 ≠ some .file) :
    (fs' = fs ∧ ((∃ e, result = .error e) ∨
        fs.exportedSections source line peers = [] ∧ result = .ok [])) ∨
      ∃ folder inside, fs.NoteFolder source peers folder inside ∧
        FileSystem.WritesIn folder inside peers fs fs' result ∧
        ∀ notes, result = .ok notes →
          notes.length = (fs.exportedSections source line peers).length := by
  have houtcome := FileSystem.exportOutcome_exportHeading fs source line peers options
  rw [hexport] at houtcome
  cases houtcome with
  | unread => exact .inl ⟨rfl, .inl ⟨_, rfl⟩⟩
  | noParent => exact .inl ⟨rfl, .inl ⟨_, rfl⟩⟩
  | noSections hsections => exact .inl ⟨rfl, .inr ⟨hsections, rfl⟩⟩
  | noFolder hread hparent hmade =>
    rcases FileSystem.noteFolder_of_exportFolder hread hparent (noSlash_of_isValidFileName hfolder)
      hstem hmade with ⟨hsame, -⟩ | ⟨_, _, hresult, -⟩
    · exact .inl ⟨hsame, .inl ⟨_, rfl⟩⟩
    · simp at hresult
  | @written text parent folder fs₁ _ _ hread hparent hsections hmade hrun =>
    rcases FileSystem.noteFolder_of_exportFolder hread hparent (noSlash_of_isValidFileName hfolder)
      hstem hmade with ⟨-, e, hresult⟩ | ⟨_, inside, hresult, hplace, hopens, hchanged⟩
    · simp at hresult
    · obtain rfl := Except.ok.inj hresult
      rw [FileSystem.titledSections_forall hparent hmade] at htitles
      obtain ⟨hchanges, hpaths⟩ :=
        hrun.changesIn hopens (noSlash_of_isValidFileName hnote) htitles
      refine .inr ⟨folder, inside, hplace, ⟨hrun.grows.keeps.opens hopens,
        fun location hdiffers => ?_, hpaths⟩, fun notes hok => ?_⟩
      · by_cases hsame : fs₁.entry? location = fs.entry? location
        · exact .inr (hchanges location (hsame ▸ hdiffers))
        · obtain ⟨hpeers, hlocation, hnone, hnew⟩ := hchanged location hsame
          exact .inl ⟨hpeers, hlocation, hnone, hrun.grows.keeps.folder location hnew⟩
      · subst hok
        exact hrun.length_eq

def peersInFolder : FileSystem := bookInFolder "# a/b\n\nx\n\n# c\n\ny\n"

theorem exportHeading_writes_inside_peers :
    ∃ fs', runOn (exportHeading ⟨"d/book.md"⟩ 1 true {}) peersInFolder =
        (.ok [⟨⟨"d/book/invalid_note_title_0.md"⟩, true⟩, ⟨⟨"d/book/c.md"⟩, true⟩], fs') ∧
      (∀ p ∈ peersInFolder.titledSections ⟨"d/book.md"⟩ 1 true {}, '/' ∈ p.1.title.toList →
        fs'.kind? p.2 ≠ some .file) ∧
      ∃ folder inside, peersInFolder.NoteFolder ⟨"d/book.md"⟩ true folder inside ∧
        FileSystem.WritesIn folder inside true peersInFolder fs'
          (.ok [⟨⟨"d/book/invalid_note_title_0.md"⟩, true⟩, ⟨⟨"d/book/c.md"⟩, true⟩]) := by
  have hresult : (runOn (exportHeading ⟨"d/book.md"⟩ 1 true {}) peersInFolder).1 =
      .ok [⟨⟨"d/book/invalid_note_title_0.md"⟩, true⟩, ⟨⟨"d/book/c.md"⟩, true⟩] := by
    decide +kernel
  have htitles : ∀ p ∈ peersInFolder.titledSections ⟨"d/book.md"⟩ 1 true {},
      '/' ∈ p.1.title.toList →
        (runOn (exportHeading ⟨"d/book.md"⟩ 1 true {}) peersInFolder).2.kind? p.2 ≠
          some .file := by
    decide +kernel
  have hstem : true = true → Path.stem ⟨"d/book.md"⟩ ≠ "." ∧ Path.stem ⟨"d/book.md"⟩ ≠ ".." := by
    decide +kernel
  generalize hrun : runOn (exportHeading ⟨"d/book.md"⟩ 1 true {}) peersInFolder = after
    at hresult htitles
  obtain ⟨result, fs'⟩ := after
  obtain rfl : result = _ := hresult
  refine ⟨fs', rfl, htitles, ?_⟩
  rcases exportHeading_writes_inside hrun (by decide +kernel) (by decide +kernel) hstem htitles with
    ⟨-, hidle⟩ | ⟨folder, inside, hplace, hwrites, -⟩
  · simp at hidle
  · exact ⟨folder, inside, hplace, hwrites⟩

/-- A note in a folder with a title that leads out of it, and the note that it leads to. -/
def titleLeadingOut : FileSystem where
  entries := [(["d"], .folder), (["book.md", "d"], .file (.text "# ../x\n\nhello\n")),
    (["x.md"], .file (.text "old"))]

/-- Both prefixes can be used, and the export writes to a note outside the folder of its source. -/
theorem exportHeading_writes_outside :
    isValidFileName ({} : ExportOptions).notePrefix = true ∧
      isValidFileName ({} : ExportOptions).folderPrefix = true ∧
      titleLeadingOut.fileAt? ⟨"d/book.md"⟩ = some ["book.md", "d"] ∧
      (runOn (exportHeading ⟨"d/book.md"⟩ 1 false {}) titleLeadingOut).1 =
        .ok [⟨⟨"d/../x.md"⟩, true⟩] ∧
      FileSystem.entry? (runOn (exportHeading ⟨"d/book.md"⟩ 1 false {}) titleLeadingOut).2
        ["x.md"] = some (.file (.text "old\n\n---\nhello\n")) := by
  decide +kernel

end MarkdownOutline
