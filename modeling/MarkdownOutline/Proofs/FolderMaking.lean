import Mathlib.Order.Defs.Unbundled
import MarkdownOutline.Proofs.PathNames

/-!
# Making folders

Making a folder together with the folders around it adds folders where there was nothing, and
changes nothing else.
-/

namespace MarkdownOutline

theorem Path.withParents_eq_cons (path : Path) : ∃ around, path.withParents = path :: around := by
  unfold withParents
  cases path.parts.length with
  | zero => exact ⟨[], rfl⟩
  | succ more => exact ⟨_, rfl⟩

namespace FileSystem

theorem run_bind {α β : Type} (x : StateM FileSystem α) (f : α → StateM FileSystem β)
    (fs : FileSystem) : (x >>= f).run fs = (f (x.run fs).1).run (x.run fs).2 := rfl

/-- The result of making the folders at paths, each in the next one, and the file system after it. -/
def makeFolders (fs : FileSystem) (paths : List Path) : Except FileError Unit × FileSystem :=
  (MonadFiles.makeFolders paths : StateM FileSystem _).run fs

/-- The result of making a folder where one may be already. -/
def settleFolder (fs : FileSystem) (path : Path) : Except FileError Unit × FileSystem :=
  match fs.makeFolder path with
  | .ok fs' => (.ok (), fs')
  | .error cause => (if fs.kind? path = some .folder then .ok () else .error cause, fs)

theorem run_settle (fs : FileSystem) (path : Path) (cause : FileError) :
    (MonadFiles.makeFolders.settle path (.error cause) : StateM FileSystem _).run fs =
      (if fs.kind? path = some .folder then .ok () else .error cause, fs) := by
  change (if (fs.kind? path == some .folder) = true then _ else _, _) = _
  simp only [beq_iff_eq]

theorem run_makeFolder_settle (fs : FileSystem) (path : Path) :
    (MonadFiles.makeFolder path >>= MonadFiles.makeFolders.settle path : StateM FileSystem _).run fs =
      fs.settleFolder path := by
  rw [run_bind, settleFolder, show (MonadFiles.makeFolder path : StateM FileSystem _).run fs =
    fs.change (fs.makeFolder path) from rfl]
  cases fs.makeFolder path with
  | ok fs' => rfl
  | error cause => exact run_settle fs path cause

theorem makeFolders_cons (fs : FileSystem) (path : Path) (around : List Path) :
    fs.makeFolders (path :: around) =
      if path.text.isEmpty then (.ok (), fs)
      else match fs.makeFolder path with
      | .error .notFound =>
        match fs.makeFolders around with
        | (.error cause, fs') => (.error cause, fs')
        | (.ok (), fs') => fs'.settleFolder path
      | _ => fs.settleFolder path := by
  unfold makeFolders
  rw [MonadFiles.makeFolders]
  split
  · rfl
  rw [run_bind, show (MonadFiles.makeFolder path : StateM FileSystem _).run fs =
    fs.change (fs.makeFolder path) from rfl]
  cases hfirst : fs.makeFolder path with
  | ok fs' =>
    rw [settleFolder, hfirst]
    rfl
  | error cause =>
    rw [settleFolder, hfirst]
    cases cause with
    | notFound =>
      simp only [change, run_bind]
      rcases haround : (MonadFiles.makeFolders around : StateM FileSystem _).run fs with ⟨_ | _, fs'⟩
      · rfl
      · exact run_makeFolder_settle fs' path
    | _ => exact run_settle fs path _

/-- The second file system has the entries of the first, and some new folders. -/
structure AddsFolders (fs fs' : FileSystem) : Prop where
  current : fs'.current = fs.current
  entry : ∀ location, fs'.entry? location = fs.entry? location ∨
    fs.entry? location = none ∧ fs'.entry? location = some .folder

theorem AddsFolders.refl (fs : FileSystem) : AddsFolders fs fs := ⟨rfl, fun _ => .inl rfl⟩

theorem AddsFolders.trans {fs fs' fs'' : FileSystem} (h : AddsFolders fs fs')
    (h' : AddsFolders fs' fs'') : AddsFolders fs fs'' where
  current := h'.current.trans h.current
  entry location := by
    rcases h'.entry location with hsame' | ⟨hnone, hfolder⟩
    · rw [hsame']
      exact h.entry location
    · rcases h.entry location with hsame | ⟨-, hfolder'⟩
      · exact .inr ⟨hsame ▸ hnone, hfolder⟩
      · simp [hfolder'] at hnone

theorem AddsFolders.keepsFolders {fs fs' : FileSystem} (h : AddsFolders fs fs') :
    KeepsFolders fs fs' where
  current := h.current
  folder location hfolder := by
    rcases h.entry location with hsame | ⟨hnone, -⟩
    · rw [hsame, hfolder]
    · simp [hfolder] at hnone

theorem AddsFolders.file_iff {fs fs' : FileSystem} (h : AddsFolders fs fs') {location : Location}
    {content : FileContent} :
    fs'.entry? location = some (.file content) ↔ fs.entry? location = some (.file content) := by
  rcases h.entry location with hsame | ⟨hnone, hfolder⟩
  · rw [hsame]
  · simp [hnone, hfolder]

theorem makeFolder_eq_ok_iff {fs fs' : FileSystem} {path : Path} :
    fs.makeFolder path = .ok fs' ↔
      ∃ name around, fs.place path = .ok ⟨around, some name⟩ ∧
        fs.named around name = .ok none ∧ fs' = fs.put (name :: around) .folder := by
  rw [makeFolder, Except.bind_eq_ok_iff]
  constructor
  · rintro ⟨⟨around, name?⟩, hplace, h⟩
    cases name? with
    | none => simp at h
    | some name =>
      rw [Except.bind_eq_ok_iff] at h
      obtain ⟨found?, hnamed, h⟩ := h
      cases found? with
      | none => exact ⟨name, around, hplace, hnamed, (Except.ok.inj h).symm⟩
      | some entry => simp at h
  · rintro ⟨name, around, hplace, hnamed, rfl⟩
    exact ⟨_, hplace, Except.bind_eq_ok_iff.mpr ⟨_, hnamed, rfl⟩⟩

theorem addsFolders_put {fs : FileSystem} {location : Location} (hlocation : location ≠ [])
    (hentry : fs.entry? location = none) : AddsFolders fs (fs.put location .folder) where
  current := rfl
  entry other := by
    rw [lookup_put fs hlocation]
    split
    · rename_i hother
      exact .inr ⟨hother ▸ hentry, rfl⟩
    · exact .inl rfl

theorem find_of_makeFolder {fs fs' : FileSystem} {path : Path} (h : fs.makeFolder path = .ok fs') :
    ∃ location, location ≠ [] ∧ fs.entry? location = none ∧ fs' = fs.put location .folder ∧
      fs'.find path = .ok (location, .folder) := by
  obtain ⟨name, around, hplace, hnamed, rfl⟩ := makeFolder_eq_ok_iff.mp h
  obtain ⟨hshort, hentry⟩ := named_eq_ok_iff.mp hnamed
  have hlocation : name :: around ≠ [] := List.cons_ne_nil name around
  have hplace' := (addsFolders_put hlocation hentry).keepsFolders.place hplace
  refine ⟨name :: around, hlocation, hentry, rfl, find_eq_ok_iff.mpr (.inr
    ⟨name, around, rfl, hplace', named_eq_ok_iff.mpr ⟨hshort, ?_⟩, .inl rfl⟩)⟩
  rw [lookup_put fs hlocation, if_pos rfl]

theorem addsFolders_makeFolder {fs fs' : FileSystem} {path : Path}
    (h : fs.makeFolder path = .ok fs') : AddsFolders fs fs' := by
  obtain ⟨location, hlocation, hentry, rfl, -⟩ := find_of_makeFolder h
  exact addsFolders_put hlocation hentry

theorem addsFolders_settleFolder (fs : FileSystem) (path : Path) :
    AddsFolders fs (fs.settleFolder path).2 := by
  unfold settleFolder
  cases hmake : fs.makeFolder path with
  | error cause => exact .refl fs
  | ok fs' => exact addsFolders_makeFolder hmake

theorem addsFolders_makeFolders (fs : FileSystem) (paths : List Path) :
    AddsFolders fs (fs.makeFolders paths).2 := by
  induction paths generalizing fs with
  | nil => exact .refl fs
  | cons path around ih =>
    rw [makeFolders_cons]
    split
    · exact .refl fs
    split
    · have haround := ih fs
      cases hrun : fs.makeFolders around with
      | mk result fs' =>
        rw [hrun] at haround
        cases result with
        | error cause => exact haround
        | ok done => exact haround.trans (addsFolders_settleFolder fs' path)
    · exact addsFolders_settleFolder fs path

/-- Folders are made at some of the paths, one after the other. -/
inductive MakesFolders (paths : List Path) (fs : FileSystem) : FileSystem → Prop
  | refl : MakesFolders paths fs fs
  | next {fs' fs'' : FileSystem} {path : Path} (h : MakesFolders paths fs fs')
      (hmem : path ∈ paths) (hmake : fs'.makeFolder path = .ok fs'') : MakesFolders paths fs fs''

namespace MakesFolders

variable {paths paths' : List Path} {fs fs' fs'' : FileSystem}

theorem mono (h : MakesFolders paths fs fs') (hpaths : paths ⊆ paths') :
    MakesFolders paths' fs fs' := by
  induction h with
  | refl => exact .refl
  | next _ hmem hmake ih => exact ih.next (hpaths hmem) hmake

theorem trans (h : MakesFolders paths fs fs') (h' : MakesFolders paths fs' fs'') :
    MakesFolders paths fs fs'' := by
  induction h' with
  | refl => exact h
  | next _ hmem hmake ih => exact ih.next hmem hmake

instance : IsPreorder FileSystem (MakesFolders paths) where
  refl _ := .refl
  trans _ _ _ := .trans

theorem addsFolders (h : MakesFolders paths fs fs') : AddsFolders fs fs' := by
  induction h with
  | refl => exact .refl fs
  | next _ _ hmake ih => exact ih.trans (addsFolders_makeFolder hmake)

/-- Nothing changes but what is at the paths then. -/
theorem exists_find_of_ne (h : MakesFolders paths fs fs') {location : Location}
    (hne : fs'.entry? location ≠ fs.entry? location) :
    ∃ path ∈ paths, fs'.find path = .ok (location, .folder) := by
  induction h with
  | refl => exact absurd rfl hne
  | @next fs' fs'' path _ hmem hmake ih =>
    by_cases hsame : fs''.entry? location = fs'.entry? location
    · obtain ⟨folder, hfolder, hfind⟩ := ih (hsame ▸ hne)
      exact ⟨folder, hfolder, (addsFolders_makeFolder hmake).keepsFolders.find hfind⟩
    · obtain ⟨made, hmade, -, rfl, hfind⟩ := find_of_makeFolder hmake
      rw [lookup_put fs' hmade] at hsame
      by_cases hother : location = made
      · exact ⟨path, hmem, hother ▸ hfind⟩
      · exact absurd (if_neg hother) hsame

end MakesFolders

theorem kind?_eq_file_iff {fs : FileSystem} {path : Path} :
    fs.kind? path = some .file ↔
      ∃ location content, fs.find path = .ok (location, .file content) := by
  unfold kind?
  split
  · rename_i location entry hfind
    cases entry <;> simp [Entry.kind, hfind]
  · rename_i cause hfind
    simp [hfind]

theorem kind?_eq_folder_iff {fs : FileSystem} {path : Path} :
    fs.kind? path = some .folder ↔ ∃ location, fs.find path = .ok (location, .folder) := by
  unfold kind?
  split
  · rename_i location entry hfind
    cases entry <;> simp [Entry.kind, hfind]
  · rename_i cause hfind
    simp [hfind]

theorem kind?_of_settleFolder {fs fs' : FileSystem} {path : Path}
    (h : fs.settleFolder path = (.ok (), fs')) : fs'.kind? path = some .folder := by
  unfold settleFolder at h
  cases hmake : fs.makeFolder path with
  | error cause =>
    rw [hmake] at h
    obtain ⟨hkind, rfl⟩ := Prod.mk.inj h
    split at hkind
    · assumption
    · simp at hkind
  | ok made =>
    rw [hmake] at h
    obtain ⟨-, rfl⟩ := Prod.mk.inj h
    obtain ⟨location, -, -, -, hfind⟩ := find_of_makeFolder hmake
    exact kind?_eq_folder_iff.mpr ⟨location, hfind⟩

theorem kind?_of_makeFolders {fs fs' : FileSystem} {path : Path} {around : List Path}
    (hpath : path.text ≠ "") (h : fs.makeFolders (path :: around) = (.ok (), fs')) :
    fs'.kind? path = some .folder := by
  rw [makeFolders_cons, if_neg (by simpa using hpath)] at h
  split at h
  · split at h
    · simp at h
    · exact kind?_of_settleFolder h
  · exact kind?_of_settleFolder h

theorem makeFolder_join_ne_notFound {fs : FileSystem} {folder : Path} {location : Location}
    (h : fs.Opens folder location) {name : String} (hname : IsPlainName name) :
    fs.makeFolder (folder.join name) ≠ .error .notFound := by
  intro hmake
  by_cases hjoin : Followable (folder.join name)
  · rw [makeFolder, hjoin.place, h.follow hname] at hmake
    by_cases hlong : name.utf8ByteSize > maxNameBytes
    · simp [named, hlong, bind, Except.bind] at hmake
    · cases hentry : fs.entry? (name :: location) <;>
        simp [named, hlong, hentry, bind, Except.bind] at hmake
  · have hplace : fs.place (folder.join name) = .error .notFound := by
      cases hplace : fs.place (folder.join name) with
      | ok place => exact absurd (followable_of_place hplace) hjoin
      | error cause => simpa [makeFolder, hplace, bind, Except.bind] using hmake
    unfold FileSystem.place at hplace
    split at hplace
    · simp at hplace
    split at hplace
    · rename_i hempty
      exact Path.join_text_ne_empty folder hname.nonempty (by simpa using hempty)
    split at hplace
    · simp at hplace
    · rename_i hnul hempty hlong
      exact hjoin ⟨by simpa using hnul, by simpa using hempty, Nat.not_lt.mp hlong⟩

theorem makeFolders_of_opens {fs : FileSystem} {folder : Path} {location : Location}
    (h : fs.Opens folder location) {name : String} (hname : IsPlainName name) (around : List Path) :
    fs.makeFolders (folder.join name :: around) = fs.settleFolder (folder.join name) := by
  rw [makeFolders_cons, if_neg (by simpa using Path.join_text_ne_empty folder hname.nonempty)]
  split
  · exact absurd ‹_› (makeFolder_join_ne_notFound h hname)
  · rfl

end FileSystem

end MarkdownOutline
