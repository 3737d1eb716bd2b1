import MarkdownOutline.Proofs.NotesKept

/-!
# Exporting again

A second run of an export finds a section where the first one put it if the note has its name, and
leaves the note alone if it ends with the section. Numbered names are picked anew each time, and of
two sections in one note only the last is sure to be at the end. So the second run changes nothing
exactly if, of any two sections that went into one note, one ends with the other.
-/

namespace MarkdownOutline

open Text

def Section.Overlaps (s t : Section) : Prop :=
  endsWithSection s.content.toList t.content.toList = true ∨
    endsWithSection t.content.toList s.content.toList = true

instance (s t : Section) : Decidable (s.Overlaps t) := inferInstanceAs (Decidable (_ ∨ _))

theorem Section.overlaps_of_endsWithSection {s t : Section} {text : List Char}
    (hs : endsWithSection text s.content.toList = true)
    (ht : endsWithSection text t.content.toList = true) : s.Overlaps t := by
  rw [endsWithSection_iff] at hs ht
  rcases List.suffix_or_suffix_of_suffix hs ht with h | h
  · exact .inr (endsWithSection_iff.mpr h)
  · exact .inl (endsWithSection_iff.mpr h)

theorem Section.Overlaps.endsWithSection_appendedContent {s t : Section} {text : String}
    (h : s.Overlaps t) (hs : endsWithSection text.toList s.content.toList = true) :
    endsWithSection ((appendedContent text t.content).getD text).toList s.content.toList = true := by
  have ht := MarkdownOutline.endsWithSection_appendedContent text t.content
  rcases h with hst | hts
  · have hnone : appendedContent text t.content = none :=
      appendedContent_eq_none_iff.mpr (endsWithSection_trans hs hst)
    simpa [hnone] using hs
  · exact endsWithSection_trans ht hts

namespace FileSystem

variable {fs fs' : FileSystem} {folder : Path} {options : ExportOptions} {s : Section}
  {sections : List Section} {location : Location}

def Holds (fs : FileSystem) (p : Section × Path) : Prop :=
  ∃ location text, fs.find p.2 = .ok (location, .file (.text text)) ∧
    endsWithSection text.toList p.1.content.toList = true

theorem Holds.overlaps {p q : Section × Path} (hp : fs.Holds p) (hq : fs.Holds q)
    (hsame : fs.fileAt? p.2 = fs.fileAt? q.2) : p.1.Overlaps q.1 := by
  obtain ⟨location, text, hfind, hends⟩ := hp
  obtain ⟨location', text', hfind', hends'⟩ := hq
  obtain rfl : location = location' := by simpa [fileAt?, hfind, hfind'] using hsame
  have hentry := (find_eq_file_iff.mp hfind).2
  have hentry' := (find_eq_file_iff.mp hfind').2
  obtain rfl : text = text' := by simpa [hentry] using hentry'
  exact Section.overlaps_of_endsWithSection hends hends'

theorem runOn_exportSection_of_holds (h : fs.Holds (s, folder.join (noteFileName s.title)))
    (options : ExportOptions) :
    runOn (exportSection folder options s) fs =
      (.ok ⟨folder.join (noteFileName s.title), false⟩, fs) := by
  obtain ⟨location, text, hfind, hends⟩ := h
  have hkind : fs.kind? (folder.join (noteFileName s.title)) = some .file :=
    kind?_eq_file_iff.mpr ⟨_, _, hfind⟩
  rw [exportSection, runOn_bind, runOn_ensureNote, if_pos hkind]
  simp only [runOn_bind, runOn_appendSection_of_find hfind, appendedContent_eq_none_iff.mpr hends,
    runOn_pure]

theorem runOn_exportSections_of_holds
    (h : ∀ s ∈ sections, fs.Holds (s, folder.join (noteFileName s.title)))
    (options : ExportOptions) :
    runOn (sections.mapM (exportSection folder options)) fs =
      (.ok (sections.map fun s => ⟨folder.join (noteFileName s.title), false⟩), fs) := by
  induction sections with
  | nil => rfl
  | cons s rest ih =>
    rw [runOn_exportSections_cons, runOn_exportSection_of_holds (h s List.mem_cons_self)]
    simp only [ih fun t ht => h t (List.mem_cons_of_mem s ht)]
    rfl

/-- A section is added to the note with its name: what the note held, nothing if it is new, with the
section at the end. Other files stay as they are. -/
theorem SectionOutcome.titled {note : ExportedNote}
    (h : SectionOutcome fs folder options s (.ok note) fs')
    (hpath : note.path = folder.join (noteFileName s.title)) :
    ∃ location old, fs.Targets (folder.join (noteFileName s.title)) location ∧
      (fs.entry? location = some (.file (.text old)) ∨ fs.entry? location = none ∧ old = "") ∧
      fs'.entry? location =
        some (.file (.text ((appendedContent old s.content).getD old))) ∧
      ∀ other, other ≠ location → fs'.entry? other = fs.entry? other := by
  cases h with
  | @present location old hfind hsection =>
    obtain ⟨htargets, hentry⟩ := find_eq_file_iff.mp hfind
    exact ⟨location, old, htargets, .inl hentry, by rw [hsection, Option.getD_none, hentry],
      fun _ _ => rfl⟩
  | @appended location old content hfind hsection =>
    obtain ⟨htargets, hentry⟩ := find_eq_file_iff.mp hfind
    refine ⟨location, old, htargets, .inl hentry, ?_, fun other hother => ?_⟩
    · rw [lookup_put fs htargets.ne_nil, if_pos rfl, hsection, Option.getD_some]
    · rw [lookup_put fs htargets.ne_nil, if_neg hother]
  | @made path location habsent hnew htargets hentry =>
    obtain rfl : path = folder.join (noteFileName s.title) := hpath
    refine ⟨location, "", htargets, .inr ⟨none_of_absent habsent htargets hentry, rfl⟩, ?_,
      fun other hother => ?_⟩
    · rw [lookup_put fs htargets.ne_nil, if_pos rfl]
    · rw [lookup_put fs htargets.ne_nil, if_neg hother]

theorem SectionOutcome.holds {note : ExportedNote}
    (h : SectionOutcome fs folder options s (.ok note) fs')
    (hpath : note.path = folder.join (noteFileName s.title)) :
    fs'.Holds (s, folder.join (noteFileName s.title)) := by
  obtain ⟨location, old, htargets, -, hentry, -⟩ := h.titled hpath
  exact ⟨location, _, find_eq_file_iff.mpr ⟨h.grows.keeps.targets htargets, hentry⟩,
    endsWithSection_appendedContent old s.content⟩

theorem Holds.of_sectionOutcome {note : ExportedNote}
    (h : SectionOutcome fs folder options s (.ok note) fs')
    (hpath : note.path = folder.join (noteFileName s.title)) {p : Section × Path}
    (hholds : fs.Holds p)
    (hoverlaps : fs'.fileAt? p.2 = fs'.fileAt? (folder.join (noteFileName s.title)) →
      p.1.Overlaps s) : fs'.Holds p := by
  obtain ⟨location, text, hfind, hends⟩ := hholds
  obtain ⟨htargets, hentry⟩ := find_eq_file_iff.mp hfind
  have htargets' := h.grows.keeps.targets htargets
  obtain ⟨place, old, hplace, hold, hnew, hothers⟩ := h.titled hpath
  by_cases hsame : location = place
  · -- The section that is added goes into the same note, and overlaps what is at its end.
    subst hsame
    obtain rfl : text = old := by
      rcases hold with hold | ⟨hnone, -⟩
      · simpa [hentry] using hold
      · simp [hentry] at hnone
    refine ⟨location, _, find_eq_file_iff.mpr ⟨htargets', hnew⟩,
      (hoverlaps ?_).endsWithSection_appendedContent hends⟩
    rw [(fileAt?_eq_some_iff_targets hnew).mpr htargets',
      (fileAt?_eq_some_iff_targets hnew).mpr (h.grows.keeps.targets hplace)]
  · exact ⟨location, text,
      find_eq_file_iff.mpr ⟨htargets', by rw [hothers location hsame, hentry]⟩, hends⟩

theorem Holds.exists_fileAt? {p : Section × Path} (h : fs.Holds p) :
    ∃ location, fs.fileAt? p.2 = some location := by
  obtain ⟨location, text, hfind, -⟩ := h
  exact ⟨location, fileAt?_eq_some_iff.mpr ⟨_, hfind⟩⟩

/-- If sections in one note overlap, a run leaves each of them at the end of its note, and those that
were at the end before as well. -/
theorem SectionsRun.holds {notes : List ExportedNote}
    (h : SectionsRun folder options fs sections (.ok notes) fs')
    (hpaths : notes.map (·.path) = sections.map fun s => folder.join (noteFileName s.title))
    {before : List (Section × Path)} (hbefore : ∀ p ∈ before, fs.Holds p)
    (hoverlaps : ∀ p ∈ before ++ sections.map fun s => (s, folder.join (noteFileName s.title)),
      ∀ s ∈ sections, fs'.fileAt? p.2 = fs'.fileAt? (folder.join (noteFileName s.title)) →
        p.1.Overlaps s) :
    ∀ p ∈ before ++ sections.map fun s => (s, folder.join (noteFileName s.title)),
      fs'.Holds p := by
  -- Each step moves its section to those that were at the end before the rest of the run.
  induction h using SectionsRun.ok_induction generalizing before with
  | done => simpa using hbefore
  | @next fs fs₁ fs' s rest note notes hstep hrest ih =>
    obtain ⟨hpath, hothers⟩ := List.cons.inj hpaths
    have hfirst := hstep.holds hpath
    have hmore : ∀ p ∈ before ++ [(s, folder.join (noteFileName s.title))], fs₁.Holds p := by
      intro p hp
      rcases List.mem_append.mp hp with hp | hp
      · refine (hbefore p hp).of_sectionOutcome hstep hpath fun hsame => ?_
        obtain ⟨location, hfile⟩ := hfirst.exists_fileAt?
        refine hoverlaps p (List.mem_append_left _ hp) s List.mem_cons_self ?_
        rw [hrest.grows.fileAt? hfile, hrest.grows.fileAt? (hsame.trans hfile)]
      · exact List.mem_singleton.mp hp ▸ hfirst
    rw [List.map_cons, List.append_cons] at hoverlaps ⊢
    exact ih hothers hmore fun p hp t ht => hoverlaps p hp t (List.mem_cons_of_mem s ht)

theorem SectionsRun.exists_file {notes : List ExportedNote}
    (h : SectionsRun folder options fs sections (.ok notes) fs')
    (hpaths : notes.map (·.path) = sections.map fun s => folder.join (noteFileName s.title)) :
    ∀ s ∈ sections, ∃ location,
      fs'.fileAt? (folder.join (noteFileName s.title)) = some location := by
  induction h using SectionsRun.ok_induction with
  | done => simp
  | next hstep hrest ih =>
    obtain ⟨hpath, hothers⟩ := List.cons.inj hpaths
    obtain ⟨location, hfile⟩ := (hstep.holds hpath).exists_fileAt?
    exact List.forall_mem_cons.mpr ⟨⟨location, hrest.grows.fileAt? hfile⟩, ih hothers⟩

theorem SectionsRun.holds_of_unchanged {notes : List ExportedNote}
    (h : SectionsRun folder options fs sections (.ok notes) fs')
    (hunchanged : ∀ note ∈ notes, note.changed = false)
    (hfiles : ∀ s ∈ sections,
      ∃ location, fs.fileAt? (folder.join (noteFileName s.title)) = some location) :
    ∀ s ∈ sections, fs.Holds (s, folder.join (noteFileName s.title)) := by
  induction h using SectionsRun.ok_induction with
  | done => simp
  | next hstep hrest ih =>
    obtain ⟨hfirst, hothers⟩ := List.forall_mem_cons.mp hunchanged
    obtain ⟨⟨location, hfile⟩, hfiles⟩ := List.forall_mem_cons.mp hfiles
    cases hstep with
    | present hfind hsection =>
      exact List.forall_mem_cons.mpr
        ⟨⟨_, _, hfind, appendedContent_eq_none_iff.mp hsection⟩, ih hothers hfiles⟩
    | appended hfind hsection => simp at hfirst
    | made habsent =>
      obtain ⟨content, hfind⟩ := fileAt?_eq_some_iff.mp hfile
      exact absurd (kind?_eq_file_iff.mpr ⟨_, _, hfind⟩) habsent

/-- A run that has put each section into the note with its name finds all as it left it when it is
done again, exactly if sections in one note overlap. -/
theorem SectionsRun.again_iff {notes : List ExportedNote}
    (h : SectionsRun folder options fs sections (.ok notes) fs')
    (hpaths : notes.map (·.path) = sections.map fun s => folder.join (noteFileName s.title)) :
    runOn (sections.mapM (exportSection folder options)) fs' =
        (.ok (notes.map fun note => { note with changed := false }), fs') ↔
      ∀ s ∈ sections, ∀ t ∈ sections,
        fs'.fileAt? (folder.join (noteFileName s.title)) =
          fs'.fileAt? (folder.join (noteFileName t.title)) → s.Overlaps t := by
  constructor
  · intro hagain s hs t ht hfile
    have hrun := sectionsRun_exportSections fs' folder options sections
    rw [hagain] at hrun
    have hholds := hrun.holds_of_unchanged (by simp) (h.exists_file hpaths)
    have hoverlaps := (hholds s hs).overlaps (hholds t ht) hfile
    exact hoverlaps
  · intro hoverlaps
    have hholds := h.holds hpaths (List.forall_mem_nil _) <| List.forall_mem_map.mpr
      fun s hs t ht => hoverlaps s hs t ht
    rw [List.nil_append, List.forall_mem_map] at hholds
    have hnotes : notes.map (fun note => { note with changed := false }) =
        (notes.map (·.path)).map fun path => (⟨path, false⟩ : ExportedNote) := by
      rw [List.map_map]
      rfl
    rw [runOn_exportSections_of_holds hholds, hnotes, hpaths, List.map_map]
    rfl

theorem FolderOutcome.eq_join {around : Path} {name stem : String}
    (h : FolderOutcome fs around name stem (.ok folder) fs')
    (hname : isValidFileName name = true ∨ fs.kind? (around.join name) = some .folder) :
    folder = around.join name := by
  cases h with
  | present => rfl
  | made habsent hpath =>
    rcases newPath_cases hpath with ⟨-, hfolder⟩ | ⟨hinvalid, -⟩
    · exact hfolder
    · exact absurd (hname.resolve_right habsent) (by simp [hinvalid])

theorem KeepsFolders.kind?_folder (h : KeepsFolders fs fs') {path : Path}
    (hkind : fs.kind? path = some .folder) : fs'.kind? path = some .folder := by
  obtain ⟨location, hfind⟩ := kind?_eq_folder_iff.mp hkind
  exact kind?_eq_folder_iff.mpr ⟨location, h.find hfind⟩

/-- With peers the folder for the notes is named after the source: there is one with the name, or the
name can be used. -/
def FolderNamed (fs : FileSystem) (source : Path) (peers : Bool) : Prop :=
  peers = true → ∀ parent ∈ source.parent?,
    isValidFileName source.stem = true ∨ fs.kind? (parent.join source.stem) = some .folder

instance (fs : FileSystem) (source : Path) (peers : Bool) :
    Decidable (fs.FolderNamed source peers) :=
  inferInstanceAs (Decidable (_ → _))

theorem exportFolder_again {source parent : Path} {peers : Bool}
    (hparent : source.parent? = some parent) (hnamed : fs.FolderNamed source peers)
    (h : runOn (exportFolder source parent peers options) fs = (.ok folder, fs₁))
    (hkeeps : KeepsFolders fs₁ fs') :
    runOn (exportFolder source parent peers options) fs' = (.ok folder, fs') := by
  cases peers with
  | false =>
    obtain ⟨hfolder, -⟩ := Prod.mk.inj h
    exact Prod.ext hfolder rfl
  | true =>
    have houtcome := folderOutcome_exportFolder h
    have hfolder := houtcome.eq_join (hnamed rfl parent hparent)
    rw [exportFolder, if_pos rfl, runOn_ensureFolder,
      if_pos (hkeeps.kind?_folder (hfolder ▸ houtcome.kind?)), hfolder]

end FileSystem

/-- Run once more on what it left, an export that came to its end, left its source as it was and made
up no names gives the same paths, reports no change and leaves all files as they are, exactly if any
two sections that went into one note overlap. -/
theorem exportHeading_again_iff {fs fs' : FileSystem} {source : Path} {line : Nat} {peers : Bool}
    {options : ExportOptions} {notes : List ExportedNote}
    (hexport : runOn (exportHeading source line peers options) fs = (.ok notes, fs'))
    (hsource : fs'.readText source = fs.readText source)
    (hfolder : notes ≠ [] → fs.FolderNamed source peers)
    (hnotes : notes.map (·.path) =
      (fs.titledSections source line peers options).map (·.2)) :
    runOn (exportHeading source line peers options) fs' =
        (.ok (notes.map fun note => { note with changed := false }), fs') ↔
      ∀ p ∈ fs.titledSections source line peers options,
        ∀ q ∈ fs.titledSections source line peers options,
          fs'.fileAt? p.2 = fs'.fileAt? q.2 → p.1.Overlaps q.1 := by
  have houtcome := FileSystem.exportOutcome_exportHeading fs source line peers options
  rw [hexport] at houtcome
  cases houtcome with
  | noSections hsections =>
    simp [FileSystem.titledSections_of_no_sections hsections, hexport]
  | @written text parent folder fs₁ _ _ hread hparent hsections hmade hrun =>
    have hread' : fs'.readText source = .ok text := hsource.trans hread
    have hsame : fs'.exportedSections source line peers = fs.exportedSections source line peers := by
      rw [FileSystem.exportedSections_eq hread', FileSystem.exportedSections_eq hread]
    rw [FileSystem.titledSections_eq hparent hmade, List.map_map] at hnotes
    have hne : notes ≠ [] := by
      rintro rfl
      exact hsections (List.map_eq_nil_iff.mp hnotes.symm)
    rw [FileSystem.runOn_exportHeading hread' hparent, hsame, if_neg hsections,
      FileSystem.exportFolder_again hparent (hfolder hne) hmade hrun.grows.keeps,
      FileSystem.titledSections_eq hparent hmade, List.forall_mem_map]
    simp only [List.forall_mem_map]
    exact hrun.again_iff hnotes

def twoSections : FileSystem := bookInFolder "# a\n\nx\n\n# b\n\ny\n"

theorem exportHeading_again_peers :
    ∃ fs', runOn (exportHeading ⟨"d/book.md"⟩ 1 true {}) twoSections =
        (.ok [⟨⟨"d/book/a.md"⟩, true⟩, ⟨⟨"d/book/b.md"⟩, true⟩], fs') ∧
      runOn (exportHeading ⟨"d/book.md"⟩ 1 true {}) fs' =
        (.ok [⟨⟨"d/book/a.md"⟩, false⟩, ⟨⟨"d/book/b.md"⟩, false⟩], fs') := by
  have hresult : (runOn (exportHeading ⟨"d/book.md"⟩ 1 true {}) twoSections).1 =
      .ok [⟨⟨"d/book/a.md"⟩, true⟩, ⟨⟨"d/book/b.md"⟩, true⟩] := by decide +kernel
  have hsource : (runOn (exportHeading ⟨"d/book.md"⟩ 1 true {}) twoSections).2.readText
      ⟨"d/book.md"⟩ = twoSections.readText ⟨"d/book.md"⟩ := by decide +kernel
  have hfolder : twoSections.FolderNamed ⟨"d/book.md"⟩ true := by decide +kernel
  have hnotes : [ExportedNote.mk ⟨"d/book/a.md"⟩ true, ⟨⟨"d/book/b.md"⟩, true⟩].map (·.path) =
      (twoSections.titledSections ⟨"d/book.md"⟩ 1 true {}).map (·.2) := by decide +kernel
  have hoverlaps : ∀ p ∈ twoSections.titledSections ⟨"d/book.md"⟩ 1 true {},
      ∀ q ∈ twoSections.titledSections ⟨"d/book.md"⟩ 1 true {},
        (runOn (exportHeading ⟨"d/book.md"⟩ 1 true {}) twoSections).2.fileAt? p.2 =
          (runOn (exportHeading ⟨"d/book.md"⟩ 1 true {}) twoSections).2.fileAt? q.2 →
            p.1.Overlaps q.1 := by
    decide +kernel
  generalize hexport : runOn (exportHeading ⟨"d/book.md"⟩ 1 true {}) twoSections = after
    at hresult hsource hoverlaps
  obtain ⟨result, fs'⟩ := after
  obtain rfl : result = _ := hresult
  have hagain := (exportHeading_again_iff hexport hsource (fun _ => hfolder) hnotes).mpr hoverlaps
  exact ⟨fs', rfl, by simpa only [List.map_cons, List.map_nil] using hagain⟩

/-- Run once more, the export of a title that cannot be used makes another note, and that of two
sections with one title adds both to their note again. -/
theorem exportHeading_again_ne :
    (let first := runOn (exportHeading ⟨"d/book.md"⟩ 1 false {}) (bookInFolder "# a/b\n\nx\n")
     first.1 = .ok [⟨⟨"d/invalid_note_title_0.md"⟩, true⟩] ∧
      first.2.readText ⟨"d/book.md"⟩ = .ok "# a/b\n\nx\n" ∧
      (runOn (exportHeading ⟨"d/book.md"⟩ 1 false {}) first.2).1 =
        .ok [⟨⟨"d/invalid_note_title_1.md"⟩, true⟩]) ∧
    (let first := runOn (exportHeading ⟨"d/book.md"⟩ 1 true {})
      (bookInFolder "# a\n\nx\n\n# a\n\ny\n")
     first.1 = .ok [⟨⟨"d/book/a.md"⟩, true⟩, ⟨⟨"d/book/a.md"⟩, true⟩] ∧
      first.2.readText ⟨"d/book.md"⟩ = .ok "# a\n\nx\n\n# a\n\ny\n" ∧
      (runOn (exportHeading ⟨"d/book.md"⟩ 1 true {}) first.2).1 =
        .ok [⟨⟨"d/book/a.md"⟩, true⟩, ⟨⟨"d/book/a.md"⟩, true⟩]) := by
  decide +kernel

end MarkdownOutline
