import MarkdownOutline.Proofs.NotesAgain
import MarkdownOutline.Proofs.NotesPlace
import MarkdownOutline.Proofs.PeerSections

/-!
# The first export of peers

Where nothing has the name of the folder yet, an export of a heading and its peers makes the folder
and one note in it for each section, if the titles are different and can be used. The paths of the
notes have to be short enough to be followed, which that of the source alone does not make sure.
-/

namespace MarkdownOutline

open Text

def Section.isBlankBelow (s : Section) : Bool := s.content.toList.all isBlank

def Section.newText (s : Section) : String := if s.isBlankBelow then "" else s.content

theorem appendedContent_empty (addition : String) :
    appendedContent "" addition =
      if addition.toList.all isBlank then none else some addition := by
  have hends : endsWithSection "".toList addition.toList = addition.toList.all isBlank := by
    rw [Bool.eq_iff_iff, endsWithSection_iff, ← trimEnd_eq_nil_iff]
    exact List.suffix_nil
  have hseparated : isSeparated "".toList = true := rfl
  rw [appendedContent, hends, hseparated]
  split
  · rfl
  · simp

theorem Section.newText_eq (s : Section) : (appendedContent "" s.content).getD "" = s.newText := by
  rw [appendedContent_empty, newText, isBlankBelow]
  split <;> rfl

theorem Section.isSome_appendedContent (s : Section) :
    (appendedContent "" s.content).isSome = !s.isBlankBelow := by
  rw [appendedContent_empty, isBlankBelow]
  cases s.content.toList.all isBlank <;> rfl

theorem noteFileName_injective : Function.Injective noteFileName := by
  intro first second h
  simpa [noteFileName] using h

theorem Path.mem_join {folder : Path} {name : String} (h : IsPlainName name) {c : Char}
    (hc : c ∈ (folder.join name).text.toList) :
    c ∈ folder.text.toList ∨ c = '/' ∨ c ∈ name.toList := by
  rw [join_eq h] at hc
  split at hc
  · rw [String.toList_append, List.mem_append] at hc
    exact hc.imp_right .inr
  · simpa [String.toList_append, or_assoc] using hc

theorem Path.utf8ByteSize_join_le (folder : Path) {name : String} (h : IsPlainName name) :
    folder.text.utf8ByteSize + name.utf8ByteSize ≤ (folder.join name).text.utf8ByteSize := by
  rw [join_eq h]
  split
  · simp [String.utf8ByteSize_append]
  · simp only [String.utf8ByteSize_append]
    omega

theorem Path.beforeLastDot_prefix (name : List Char) : beforeLastDot name <+: name := by
  rw [beforeLastDot, ← List.reverse_suffix, List.reverse_reverse]
  exact (List.drop_suffix _ _).trans (List.dropWhile_suffix _)

namespace FileSystem

variable {fs fs' : FileSystem} {folder : Path} {location inside around : Location}
  {options : ExportOptions} {s : Section} {sections : List Section}

theorem Targets.utf8ByteSize_stem_le {source : Path} (h : fs.Targets source location) :
    source.stem.utf8ByteSize ≤ maxNameBytes := by
  obtain ⟨name, around, hlocation, hname, -⟩ := h.name?_eq
  obtain ⟨-, name', around', hlocation', hshort, -⟩ := h
  obtain ⟨rfl, rfl⟩ : name = name' ∧ around = around' := by simpa [hlocation] using hlocation'
  rw [Path.stem, hname]
  dsimp only
  split
  · rwa [String.ofList_toList]
  · obtain ⟨rest, hrest⟩ := Path.beforeLastDot_prefix name.toList
    have hsize : (String.ofList (Path.beforeLastDot name.toList) ++
        String.ofList rest).utf8ByteSize = name.utf8ByteSize := by
      rw [← String.ofList_append, hrest, String.ofList_toList]
    rw [String.utf8ByteSize_append] at hsize
    omega

theorem Opens.noNul (h : fs.Opens folder location) : '\x00' ∉ folder.text.toList := by
  rcases h with ⟨hempty, -⟩ | hfind
  · simp [hempty]
  · exact (followable_of_find hfind).noNul

theorem followable_join {name : String} (hfolder : '\x00' ∉ folder.text.toList)
    (hvalid : isValidFileName name = true)
    (hshort : (folder.join name).text.utf8ByteSize ≤ maxPathBytes) :
    Followable (folder.join name) where
  noNul := by
    intro hmem
    rcases Path.mem_join (isPlainName_of_isValidFileName hvalid) hmem with hmem | hslash | hmem
    · exact hfolder hmem
    · exact absurd hslash (by decide)
    · exact not_mem_of_isValidFileName hvalid (by decide) hmem
  nonempty := Path.join_text_ne_empty folder (isPlainName_of_isValidFileName hvalid).nonempty
  short := hshort

theorem makeFolder_join {name : String} (hopens : fs.Opens folder location)
    (hname : IsPlainName name) (hpath : Followable (folder.join name))
    (hshort : name.utf8ByteSize ≤ maxNameBytes) (hnew : fs.entry? (name :: location) = none) :
    fs.makeFolder (folder.join name) = .ok (fs.put (name :: location) .folder) := by
  apply makeFolder_eq_ok_iff.mpr
  refine ⟨name, location, ?_, named_eq_ok_iff.mpr ⟨hshort, hnew⟩, rfl⟩
  rw [hpath.place, hopens.follow hname]

theorem opens_put_folder {name : String} (hopens : fs.Opens folder location)
    (hname : IsPlainName name) (hpath : Followable (folder.join name))
    (hshort : name.utf8ByteSize ≤ maxNameBytes) (hnew : fs.entry? (name :: location) = none) :
    FileSystem.Opens (fs.put (name :: location) .folder) (folder.join name) (name :: location) := by
  have hkeeps := (addsFolders_put (List.cons_ne_nil name location) hnew).keepsFolders
  refine .inr (find_eq_ok_iff.mpr (.inr ⟨name, location, rfl, ?_, ?_, .inl rfl⟩))
  · rw [hpath.place, (hkeeps.opens hopens).follow hname]
  · refine named_eq_ok_iff.mpr ⟨hshort, ?_⟩
    rw [lookup_put fs (List.cons_ne_nil _ _), if_pos rfl]

theorem runOn_exportFolder_new {source parent : Path} (hopens : fs.Opens parent around)
    (hvalid : isValidFileName source.stem = true) (hpath : Followable (parent.join source.stem))
    (hshort : source.stem.utf8ByteSize ≤ maxNameBytes)
    (hnew : fs.entry? (source.stem :: around) = none) :
    runOn (exportFolder source parent true options) fs =
      (.ok (parent.join source.stem), fs.put (source.stem :: around) .folder) := by
  have hname := isPlainName_of_isValidFileName hvalid
  have hkind := kind?_join_eq_none hopens hname hnew
  obtain ⟨others, hothers⟩ := (parent.join source.stem).withParents_eq_cons
  have hmade : fs.makeFolders (parent.join source.stem).withParents =
      (.ok (), fs.put (source.stem :: around) .folder) := by
    rw [hothers, makeFolders_of_opens hopens hname, settleFolder,
      makeFolder_join hopens hname hpath hshort hnew]
  rw [exportFolder, if_pos rfl, runOn_ensureFolder, hkind, if_neg (by simp), newPath, if_pos hvalid]
  simp only [hmade]

def putNotes (fs : FileSystem) (inside : Location) (sections : List Section) : FileSystem :=
  sections.foldl (fun fs s => fs.put (noteFileName s.title :: inside) (.file (.text s.newText))) fs

theorem putNotes_current (fs : FileSystem) (inside : Location) (sections : List Section) :
    (fs.putNotes inside sections).current = fs.current := by
  induction sections generalizing fs with
  | nil => rfl
  | cons s rest ih => exact ih _

theorem putNotes_other (fs : FileSystem)
    (h : ∀ s ∈ sections, location ≠ noteFileName s.title :: inside) :
    FileSystem.entry? (fs.putNotes inside sections) location = fs.entry? location := by
  induction sections generalizing fs with
  | nil => rfl
  | cons s rest ih =>
    have hrest := ih (fs.put (noteFileName s.title :: inside) (.file (.text s.newText)))
      fun t ht => h t (List.mem_cons_of_mem s ht)
    rw [lookup_put fs (List.cons_ne_nil _ _), if_neg (h s List.mem_cons_self)] at hrest
    exact hrest

theorem putNotes_note (hnodup : (sections.map Section.title).Nodup) (hs : s ∈ sections) :
    FileSystem.entry? (fs.putNotes inside sections) (noteFileName s.title :: inside) =
      some (.file (.text s.newText)) := by
  induction sections generalizing fs with
  | nil => simp at hs
  | cons t rest ih =>
    obtain ⟨hfirst, hrest⟩ := List.nodup_cons.mp hnodup
    rcases List.mem_cons.mp hs with rfl | hs
    · have hlater : ∀ t ∈ rest,
          noteFileName s.title :: inside ≠ noteFileName t.title :: inside := by
        intro t ht heq
        apply hfirst
        rw [noteFileName_injective (List.cons.inj heq).1]
        exact List.mem_map_of_mem ht
      have hkept := putNotes_other
        (fs.put (noteFileName s.title :: inside) (.file (.text s.newText))) hlater
      rw [lookup_put fs (List.cons_ne_nil _ _), if_pos rfl] at hkept
      exact hkept
    · exact ih hrest hs

theorem keepsFolders_putNotes
    (hnew : ∀ s ∈ sections, fs.entry? (noteFileName s.title :: inside) = none) :
    KeepsFolders fs (fs.putNotes inside sections) where
  current := putNotes_current fs inside sections
  folder location hfolder := by
    rw [putNotes_other, hfolder]
    rintro s hs rfl
    simp [hnew s hs] at hfolder

/-- The section can be given a note of its title in the folder: its name and path can be used. -/
structure Fits (folder : Path) (s : Section) : Prop where
  valid : isValidFileName (noteFileName s.title) = true
  shortName : (noteFileName s.title).utf8ByteSize ≤ maxNameBytes
  shortPath : (folder.join (noteFileName s.title)).text.utf8ByteSize ≤ maxPathBytes

instance (folder : Path) (s : Section) : Decidable (Fits folder s) :=
  decidable_of_iff (_ ∧ _ ∧ _)
    ⟨fun h => ⟨h.1, h.2.1, h.2.2⟩, fun h => ⟨h.valid, h.shortName, h.shortPath⟩⟩

theorem Fits.targets (h : Fits folder s) (hopens : fs.Opens folder inside) :
    fs.Targets (folder.join (noteFileName s.title)) (noteFileName s.title :: inside) := by
  apply (targets_join_iff (isPlainName_of_isValidFileName h.valid) hopens).mpr
  exact ⟨followable_join hopens.noNul h.valid h.shortPath, h.shortName, rfl⟩

theorem runOn_exportSection_new (h : Fits folder s) (hopens : fs.Opens folder inside)
    (hnew : fs.entry? (noteFileName s.title :: inside) = none) :
    runOn (exportSection folder options s) fs =
      (.ok ⟨folder.join (noteFileName s.title), !s.isBlankBelow⟩,
        fs.put (noteFileName s.title :: inside) (.file (.text s.newText))) := by
  have hname := isPlainName_of_isValidFileName h.valid
  have htargets := h.targets hopens
  have hentry : fs.entry? (noteFileName s.title :: inside) ≠ some .folder := by simp [hnew]
  have hwrite : fs.writeText (folder.join (noteFileName s.title)) "" =
      .ok (fs.put (noteFileName s.title :: inside) (.file (.text ""))) :=
    writeText_eq_ok_iff.mpr ⟨_, htargets, hentry, rfl⟩
  rw [exportSection, runOn_bind, runOn_ensureNote, kind?_join_eq_none hopens hname hnew,
    if_neg (by simp), newPath, if_pos h.valid]
  simp only [hwrite, runOn_bind, runOn_appendSection_of_new htargets hentry, s.newText_eq,
    s.isSome_appendedContent]
  rfl

/-- Each section goes into a note of its own, which none of the others is given. -/
theorem runOn_exportSections_new (hfits : ∀ s ∈ sections, Fits folder s)
    (hnodup : (sections.map Section.title).Nodup) (hopens : fs.Opens folder inside)
    (hnew : ∀ s ∈ sections, fs.entry? (noteFileName s.title :: inside) = none) :
    runOn (sections.mapM (exportSection folder options)) fs =
      (.ok (sections.map fun s => ⟨folder.join (noteFileName s.title), !s.isBlankBelow⟩),
        fs.putNotes inside sections) := by
  induction sections generalizing fs with
  | nil => rfl
  | cons s rest ih =>
    obtain ⟨hfirst, hrest⟩ := List.nodup_cons.mp hnodup
    have hs := hnew s List.mem_cons_self
    have hlater : ∀ t ∈ rest, FileSystem.entry?
        (fs.put (noteFileName s.title :: inside) (.file (.text s.newText)))
          (noteFileName t.title :: inside) = none := by
      intro t ht
      rw [lookup_put fs (List.cons_ne_nil _ _), if_neg]
      · exact hnew t (List.mem_cons_of_mem s ht)
      · intro heq
        apply hfirst
        rw [← noteFileName_injective (List.cons.inj heq).1]
        exact List.mem_map_of_mem ht
    have hkeeps : KeepsFolders fs
        (fs.put (noteFileName s.title :: inside) (.file (.text s.newText))) :=
      keepsFolders_put (List.cons_ne_nil _ _) (by simp [hs]) _
    rw [runOn_exportSections_cons, runOn_exportSection_new (hfits s List.mem_cons_self) hopens hs]
    simp only [ih (fun t ht => hfits t (List.mem_cons_of_mem s ht)) hrest (hkeeps.opens hopens)
      hlater]
    rfl

/-- Every file and every folder stands in a folder. -/
def IsTree (fs : FileSystem) : Prop :=
  ∀ p ∈ fs.entries, fs.entry? (p.1.drop 1) = some .folder

instance (fs : FileSystem) : Decidable fs.IsTree :=
  inferInstanceAs (Decidable (∀ p ∈ fs.entries, _))

theorem mem_names_iff {name : String} :
    name ∈ fs.names around ↔ ∃ entry, fs.entry? (name :: around) = some entry := by
  constructor
  · intro hmem
    obtain ⟨⟨place, entry⟩, hentry, hname⟩ := List.mem_filterMap.mp hmem
    apply Option.ne_none_iff_exists'.mp
    intro hnone
    have hother := List.lookup_eq_none_iff.mp hnone (place, entry) hentry
    cases place with
    | nil => simp at hname
    | cons first rest =>
      simp only [Option.ite_none_right_eq_some, Option.some.injEq] at hname
      simp [hname] at hother
  · rintro ⟨entry, hentry⟩
    exact mem_names hentry

theorem IsTree.entry?_eq_none (h : fs.IsTree) (hnone : fs.entry? around = none) (name : String) :
    fs.entry? (name :: around) = none := by
  cases hentry : fs.entry? (name :: around) with
  | none => rfl
  | some entry =>
    obtain ⟨before, after, hentries, -⟩ := List.lookup_eq_some_iff.mp hentry
    have hfolder := h (name :: around, entry) (by simp [hentries])
    rw [List.drop_succ_cons, List.drop_zero, hnone] at hfolder
    simp at hfolder

/-- Where nothing was there is a folder that holds the notes of the sections and nothing else, and
all else is as it was. -/
structure HoldsNotes (fs fs' : FileSystem) (folder : Path) (inside : Location)
    (sections : List Section) : Prop where
  absent : fs.entry? inside = none
  present : fs'.find folder = .ok (inside, .folder)
  note : ∀ s ∈ sections, fs'.find (folder.join (noteFileName s.title)) =
    .ok (noteFileName s.title :: inside, .file (.text s.newText))
  names : ∀ name, name ∈ fs'.names inside ↔ name ∈ sections.map (noteFileName ·.title)
  others : ∀ location, location ≠ inside →
    (∀ s ∈ sections, location ≠ noteFileName s.title :: inside) →
      fs'.entry? location = fs.entry? location
  current : fs'.current = fs.current

theorem holdsNotes_putNotes {name : String} (htree : fs.IsTree) (hopens : fs.Opens folder location)
    (hname : IsPlainName name) (hpath : Followable (folder.join name))
    (hshort : name.utf8ByteSize ≤ maxNameBytes) (hnew : fs.entry? (name :: location) = none)
    (hfits : ∀ s ∈ sections, Fits (folder.join name) s)
    (hnodup : (sections.map Section.title).Nodup) :
    HoldsNotes fs (putNotes (fs.put (name :: location) .folder) (name :: location) sections)
      (folder.join name) (name :: location) sections := by
  have hempty : ∀ child, FileSystem.entry? (fs.put (name :: location) .folder)
      (child :: name :: location) = none := by
    intro child
    rw [lookup_put fs (List.cons_ne_nil _ _), if_neg (List.cons_ne_self _ _)]
    exact htree.entry?_eq_none hnew child
  have hopens₁ := opens_put_folder hopens hname hpath hshort hnew
  have hopens' := (keepsFolders_putNotes fun s (_ : s ∈ sections) =>
    hempty (noteFileName s.title)).opens hopens₁
  constructor
  · exact hnew
  · exact hopens'.resolve_left fun h => Path.join_text_ne_empty folder hname.nonempty h.1
  · intro s hs
    exact find_eq_file_iff.mpr ⟨(hfits s hs).targets hopens', putNotes_note hnodup hs⟩
  · intro child
    rw [mem_names_iff, List.mem_map]
    constructor
    · rintro ⟨entry, hentry⟩
      by_contra hnone
      rw [putNotes_other, hempty] at hentry
      · simp at hentry
      · intro s hs heq
        exact hnone ⟨s, hs, (List.cons.inj heq).1.symm⟩
    · rintro ⟨s, hs, rfl⟩
      exact ⟨_, putNotes_note hnodup hs⟩
  · intro place hplace hnotes
    rw [putNotes_other _ hnotes, lookup_put fs (List.cons_ne_nil _ _), if_neg hplace]
  · exact putNotes_current _ _ _

end FileSystem

theorem Document.peerSectionsAt_ne_nil {document : Document} {line : Nat}
    (hline : (document.owningHeading? line).isSome = true) : document.peerSectionsAt line ≠ [] := by
  obtain ⟨⟨index, heading⟩, howner⟩ := Option.isSome_iff_exists.mp hline
  have hheading : document[index]? = some (.heading heading) := by
    simp only [owningHeading?, Option.bind_eq_bind, Option.bind_eq_some_iff,
      Block.heading?_eq_some_iff] at howner
    obtain ⟨state, -, block, hblock, found, rfl, heq⟩ := howner
    obtain ⟨rfl, rfl⟩ := Prod.mk.inj (Option.some.inj heq)
    exact hblock
  obtain ⟨peer, hpeer, -⟩ :=
    ((isPeerPartition_placedPeers hheading).arePeers_iff index).mp (.refl hheading)
  simp only [peerSectionsAt, howner]
  rw [← map_placedPeers]
  simpa using List.ne_nil_of_mem hpeer

/-- The first export of a heading and its peers gives one path for each section, that of the title
in the folder named after the source, and the note there holds the section. It asks for a name of
the source and titles that can be used, different titles, and paths that can be followed. -/
theorem exportHeading_peers_new {fs : FileSystem} {source parent : Path} {name text : String}
    {around : Location} (line : Nat) (options : ExportOptions) (htree : fs.IsTree)
    (hsource : fs.find source = .ok (name :: around, .file (.text text)))
    (hparent : source.parent? = some parent) (hstem : isValidFileName source.stem = true)
    (hnew : fs.entry? (source.stem :: around) = none)
    (hline : ((Document.ofMarkdown text).owningHeading? line).isSome = true)
    (hnodup : (((Document.ofMarkdown text).peerSectionsAt line).map Section.title).Nodup)
    (hfits : ∀ s ∈ (Document.ofMarkdown text).peerSectionsAt line,
      FileSystem.Fits (parent.join source.stem) s) :
    ∃ fs', runOn (exportHeading source line true options) fs =
        (.ok (((Document.ofMarkdown text).peerSectionsAt line).map fun s =>
          ⟨(parent.join source.stem).join (noteFileName s.title), !s.isBlankBelow⟩), fs') ∧
      FileSystem.HoldsNotes fs fs' (parent.join source.stem) (source.stem :: around)
        ((Document.ofMarkdown text).peerSectionsAt line) := by
  have hsections := Document.peerSectionsAt_ne_nil hline
  have hexported : fs.exportedSections source line true =
      (Document.ofMarkdown text).peerSectionsAt line := by
    rw [FileSystem.exportedSections_eq (FileSystem.readText_eq_ok_iff.mpr ⟨_, hsource⟩),
      Document.exportedSections, if_pos rfl]
  rw [FileSystem.runOn_exportHeading (FileSystem.readText_eq_ok_iff.mpr ⟨_, hsource⟩) hparent,
    hexported, if_neg hsections]
  generalize (Document.ofMarkdown text).peerSectionsAt line = sections at *
  have htargets := (FileSystem.find_eq_file_iff.mp hsource).1
  obtain ⟨name', around', hplace, hopens⟩ := htargets.opens_parent hparent
  obtain ⟨rfl, rfl⟩ : name = name' ∧ around = around' := by simpa using hplace
  have hname := isPlainName_of_isValidFileName hstem
  -- the path of the folder is shorter than that of any note in it
  have hpath : FileSystem.Followable (parent.join source.stem) := by
    obtain ⟨s, hs⟩ := List.exists_mem_of_ne_nil sections hsections
    have hnote := (hfits s hs).shortPath
    have hjoin := Path.utf8ByteSize_join_le (parent.join source.stem)
      (isPlainName_of_isValidFileName (hfits s hs).valid)
    exact FileSystem.followable_join hopens.noNul hstem (by omega)
  have hshort := htargets.utf8ByteSize_stem_le
  rw [FileSystem.runOn_exportFolder_new hopens hstem hpath hshort hnew]
  have hempty : ∀ s ∈ sections, FileSystem.entry? (fs.put (source.stem :: around) .folder)
      (noteFileName s.title :: source.stem :: around) = none := by
    intro s _
    rw [FileSystem.lookup_put fs (List.cons_ne_nil _ _), if_neg (List.cons_ne_self _ _)]
    exact htree.entry?_eq_none hnew _
  have hopens₁ := FileSystem.opens_put_folder hopens hname hpath hshort hnew
  dsimp only
  rw [FileSystem.runOn_exportSections_new hfits hnodup hopens₁ hempty]
  exact ⟨_, rfl, FileSystem.holdsNotes_putNotes htree hopens hname hpath hshort hnew hfits hnodup⟩

/-- The first of two sections is empty, and so is the note for it. -/
theorem exportHeading_peers_new_empty :
    let fs := bookInFolder "# a\n\n# b\n\ny\n"
    fs.IsTree ∧ ∃ fs', runOn (exportHeading ⟨"d/book.md"⟩ 1 true {}) fs =
        (.ok [⟨⟨"d/book/a.md"⟩, false⟩, ⟨⟨"d/book/b.md"⟩, true⟩], fs') ∧
      FileSystem.HoldsNotes fs fs' ⟨"d/book"⟩ ["book", "d"] [⟨"a", ""⟩, ⟨"b", "y\n"⟩] := by
  intro fs
  have htree : fs.IsTree := by decide
  have hsource : fs.find ⟨"d/book.md"⟩ =
      .ok (["book.md", "d"], .file (.text "# a\n\n# b\n\ny\n")) := by decide +kernel
  have hsections : (Document.ofMarkdown "# a\n\n# b\n\ny\n").peerSectionsAt 1 =
      [⟨"a", ""⟩, ⟨"b", "y\n"⟩] := by decide +kernel
  have hparent : Path.parent? ⟨"d/book.md"⟩ = some ⟨"d"⟩ := by decide +kernel
  have hexport := exportHeading_peers_new 1 {} htree hsource hparent (by decide +kernel)
    (by decide +kernel) (by decide +kernel) (by rw [hsections]; decide)
    (by rw [hsections]; decide +kernel)
  rw [hsections] at hexport
  obtain ⟨fs', hrun, hholds⟩ := hexport
  exact ⟨htree, fs', hrun, hholds⟩

namespace FileSystem

variable {fs fs' : FileSystem} {folder : Path} {location inside around : Location}
  {options : ExportOptions} {s : Section} {sections : List Section}

theorem SectionOutcome.shortPath {note : ExportedNote}
    (h : SectionOutcome fs folder options s (.ok note) fs')
    (hvalid : isValidFileName (noteFileName s.title) = true) :
    (folder.join (noteFileName s.title)).text.utf8ByteSize ≤ maxPathBytes := by
  cases h with
  | present hfind => exact (followable_of_find hfind).short
  | appended hfind => exact (followable_of_find hfind).short
  | made habsent hpath htargets =>
    rcases newPath_cases hpath with ⟨-, rfl⟩ | ⟨hinvalid, -⟩
    · obtain ⟨-, _, _, -, -, hplace⟩ := htargets
      exact (followable_of_place hplace).short
    · simp [hvalid] at hinvalid

theorem SectionsRun.shortPaths {notes : List ExportedNote}
    (h : SectionsRun folder options fs sections (.ok notes) fs') :
    ∀ s ∈ sections, isValidFileName (noteFileName s.title) = true →
      (folder.join (noteFileName s.title)).text.utf8ByteSize ≤ maxPathBytes := by
  induction h using SectionsRun.ok_induction with
  | done => simp
  | next hstep hrest ih => exact List.forall_mem_cons.mpr ⟨hstep.shortPath, ih⟩

end FileSystem

theorem shortPaths_of_exportHeading {fs fs' : FileSystem} {source parent : Path} {line : Nat}
    {options : ExportOptions} {notes : List ExportedNote}
    (hexport : runOn (exportHeading source line true options) fs = (.ok notes, fs'))
    (hparent : source.parent? = some parent) (hstem : isValidFileName source.stem = true) :
    ∀ s ∈ fs.exportedSections source line true, isValidFileName (noteFileName s.title) = true →
      ((parent.join source.stem).join (noteFileName s.title)).text.utf8ByteSize ≤
        FileSystem.maxPathBytes := by
  have houtcome := FileSystem.exportOutcome_exportHeading fs source line true options
  rw [hexport] at houtcome
  cases houtcome with
  | noSections hsections => simp [hsections]
  | @written text parent' folder fs₁ _ _ hread hparent' hsections hfolder hrun =>
    obtain rfl : parent = parent' := by simpa [hparent] using hparent'
    have hjoin := (FileSystem.folderOutcome_exportFolder hfolder).eq_join (.inl hstem)
    rw [← hjoin]
    exact hrun.shortPaths

/-- A path that is long only for the slashes in it. -/
def slashedPath (slashes : Nat) (rest : String) : Path :=
  ⟨"d/" ++ String.ofList (List.replicate slashes '/') ++ rest⟩

theorem splitAt_slashes (slashes : Nat) (s : List Char) :
    splitAt '/' (List.replicate slashes '/' ++ s) =
      List.replicate slashes [] ++ splitAt '/' s := by
  induction slashes with
  | zero => rfl
  | succ slashes ih => simp [List.replicate_succ, splitAt, ih]

theorem parts_slashedPath (slashes : Nat) (rest : String) :
    (slashedPath slashes rest).parts =
      ['d'] :: (List.replicate slashes [] ++ splitAt '/' rest.toList) := by
  have htext : (slashedPath slashes rest).text.toList =
      'd' :: '/' :: (List.replicate slashes '/' ++ rest.toList) := by
    simp [slashedPath, String.toList_append]
  rw [Path.parts, htext, splitAt, splitAt, splitAt_slashes]
  rfl

theorem utf8ByteSize_slashedPath (slashes : Nat) (rest : String) :
    (slashedPath slashes rest).text.utf8ByteSize = 2 + slashes + rest.utf8ByteSize := by
  have hslashes : (String.ofList (List.replicate slashes '/')).utf8ByteSize = slashes := by
    induction slashes with
    | zero => rfl
    | succ slashes ih =>
      rw [List.replicate_succ', String.ofList_append, String.utf8ByteSize_append, ih]
      rfl
  simp only [slashedPath, String.utf8ByteSize_append, hslashes]
  rfl

theorem parent?_slashedPath (slashes : Nat) :
    (slashedPath slashes "e/a.md").parent? = some (slashedPath slashes "e") := by
  have hparts : (slashedPath slashes "e/a.md").parts =
      ['d'] :: (List.replicate slashes [] ++ [['e']] ++ [['a', '.', 'm', 'd']]) := by
    rw [parts_slashedPath, List.append_assoc]
    rfl
  obtain ⟨above, idle, hmiddle, hidle, hparent⟩ := Path.parent?_of_last hparts rfl
  obtain rfl : idle = [] := by
    rcases List.eq_nil_or_concat idle with hnil | ⟨front, last, rfl⟩
    · exact hnil
    · rw [List.concat_eq_append, ← List.append_assoc] at hmiddle
      obtain rfl : ['e'] = last := List.singleton_inj.mp (List.append_inj' hmiddle rfl).2
      exact absurd (hidle ['e'] (by simp)) (by decide)
  rw [List.append_nil] at hmiddle
  have habove : Path.textAbove ['d'] above = (slashedPath slashes "e").text.toList := by
    rw [← Path.joinParts_parts, parts_slashedPath, ← hmiddle]
    rfl
  rw [hparent, habove, String.ofList_toList]

def deepNote : FileSystem where
  entries := [(["d"], .folder), (["e", "d"], .folder),
    (["a.md", "e", "d"], .file (.text "# 0123456789\n\nx\n"))]

theorem find_slashedPath {slashes : Nat} (hshort : slashes ≤ 4087) :
    deepNote.find (slashedPath slashes "e/a.md") =
      .ok (["a.md", "e", "d"], .file (.text "# 0123456789\n\nx\n")) := by
  have htext : (slashedPath slashes "e/a.md").text.toList =
      'd' :: '/' :: (List.replicate slashes '/' ++ "e/a.md".toList) := by
    simp [slashedPath, String.toList_append]
  have hpath : FileSystem.Followable (slashedPath slashes "e/a.md") := by
    constructor
    · simp [htext]
    · simp [slashedPath, String.append_eq_empty_iff]
    · have hsize : "e/a.md".utf8ByteSize = 6 := rfl
      rw [utf8ByteSize_slashedPath, hsize, FileSystem.maxPathBytes]
      omega
  have hsteps : (slashedPath slashes "e/a.md").steps = ["d", "e", "a.md"] := by
    rw [Path.steps, parts_slashedPath]
    simp [splitAt]
  have habsolute : (slashedPath slashes "e/a.md").isAbsolute = false := by
    simp [Path.isAbsolute, htext]
  apply FileSystem.find_eq_file_iff.mpr
  refine ⟨⟨?_, "a.md", ["e", "d"], rfl, by decide, ?_⟩, by decide +kernel⟩
  · simp [Path.endsInSlash, htext, List.getLast?_cons, List.getLast?_append]
  · rw [hpath.place, hsteps, FileSystem.base, habsolute]
    decide

theorem stem_slashedPath {slashes : Nat} (hshort : slashes ≤ 4087) :
    (slashedPath slashes "e/a.md").stem = "a" := by
  have htargets := (FileSystem.find_eq_file_iff.mp (find_slashedPath hshort)).1
  obtain ⟨name, around, hplace, hname, -⟩ := htargets.name?_eq
  obtain ⟨rfl, -⟩ := List.cons.inj hplace
  rw [Path.stem, hname]
  decide

theorem long_join_slashedPath {slashes : Nat} (hlong : 4079 ≤ slashes) :
    FileSystem.maxPathBytes < (((slashedPath slashes "e").join "a").join
      (noteFileName "0123456789")).text.utf8ByteSize := by
  have hstem : IsPlainName "a" := isPlainName_of_isValidFileName (by decide)
  have hname : IsPlainName (noteFileName "0123456789") := isPlainName_of_isValidFileName (by decide)
  have hfolder := Path.utf8ByteSize_join_le (slashedPath slashes "e") hstem
  have hnote := Path.utf8ByteSize_join_le ((slashedPath slashes "e").join "a") hname
  have hsize : "e".utf8ByteSize = 1 ∧ "a".utf8ByteSize = 1 ∧
    (noteFileName "0123456789").utf8ByteSize = 13 := by decide
  rw [utf8ByteSize_slashedPath] at hfolder
  rw [FileSystem.maxPathBytes]
  omega

theorem exportHeading_slashedPath_ne {slashes : Nat} (hlong : 4079 ≤ slashes)
    (hshort : slashes ≤ 4087) (notes : List ExportedNote) (fs' : FileSystem) :
    runOn (exportHeading (slashedPath slashes "e/a.md") 1 true {}) deepNote ≠
      (.ok notes, fs') := by
  intro hexport
  have hstem := stem_slashedPath hshort
  have hread := FileSystem.readText_eq_ok_iff.mpr ⟨_, find_slashedPath hshort⟩
  have hsections : (Document.ofMarkdown "# 0123456789\n\nx\n").exportedSections 1 true =
      [⟨"0123456789", "x\n"⟩] := by decide +kernel
  have hpaths := shortPaths_of_exportHeading hexport (parent?_slashedPath slashes)
    (by rw [hstem]; decide)
  rw [FileSystem.exportedSections_eq hread, hsections, hstem] at hpaths
  have hle := hpaths _ List.mem_cons_self (by decide)
  exact absurd hle (Nat.not_le.mpr (long_join_slashedPath hlong))

/-- The source can be read and there is nothing in the way of its one section, but the path of the
note for it is too long. -/
theorem exportHeading_peers_new_ne :
    let source := slashedPath 4080 "e/a.md"
    let document := Document.ofMarkdown "# 0123456789\n\nx\n"
    deepNote.IsTree ∧
      deepNote.find source = .ok (["a.md", "e", "d"], .file (.text "# 0123456789\n\nx\n")) ∧
      source.stem = "a" ∧ isValidFileName "a" = true ∧ deepNote.entry? ["a", "e", "d"] = none ∧
      (document.owningHeading? 1).isSome = true ∧
      document.peerSectionsAt 1 = [⟨"0123456789", "x\n"⟩] ∧
      isValidFileName (noteFileName "0123456789") = true ∧
      (noteFileName "0123456789").utf8ByteSize ≤ FileSystem.maxNameBytes ∧
      ∀ notes fs', runOn (exportHeading source 1 true {}) deepNote ≠ (.ok notes, fs') :=
  ⟨by decide, find_slashedPath (by omega), stem_slashedPath (by omega), by decide, by decide,
    by decide +kernel, by decide +kernel, by decide, by decide,
    exportHeading_slashedPath_ne (by omega) (by omega)⟩

end MarkdownOutline
