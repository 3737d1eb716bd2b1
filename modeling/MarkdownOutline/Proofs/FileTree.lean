import MarkdownOutline.Files.Access

/-!
# Where paths lead

A path is followed from folder to folder, and a name joined to it is a name in the folder that it
leads to. What changes in the files does not change where paths lead, as long as files stay files
and folders stay folders.
-/

namespace MarkdownOutline

theorem Except.bind_eq_ok_iff {ε α β : Type} {x : Except ε α} {f : α → Except ε β} {b : β} :
    (x >>= f) = .ok b ↔ ∃ a, x = .ok a ∧ f a = .ok b := by
  cases x with
  | ok a => exact ⟨fun h => ⟨a, rfl, h⟩, fun ⟨_, ha, h⟩ => Except.ok.inj ha ▸ h⟩
  | error cause => exact ⟨nofun, nofun⟩

/-- The text is the name of something in a folder, and no path that leads elsewhere. -/
structure IsPlainName (name : String) : Prop where
  nonempty : name ≠ ""
  notDot : name ≠ "."
  notDots : name ≠ ".."
  noSlash : '/' ∉ name.toList

namespace FileSystem

private theorem lookup_filter_ne {entries : List (Location × Entry)} {location other : Location}
    (hother : other ≠ location) :
    (entries.filter (·.1 != location)).lookup other = entries.lookup other := by
  induction entries with
  | nil => rfl
  | cons pair entries ih =>
    obtain ⟨place, entry⟩ := pair
    by_cases hplace : place = location
    · subst hplace
      simp [ih, List.lookup_cons, beq_eq_false_iff_ne.mpr hother]
    · simp [List.lookup_cons, hplace, ih]

theorem lookup_put (fs : FileSystem) {location : Location} (hlocation : location ≠ [])
    (entry : Entry) (other : Location) :
    entry? (fs.put location entry) other =
      if other = location then some entry else fs.entry? other := by
  cases other with
  | nil => simp [Ne.symm hlocation, entry?]
  | cons name around =>
    by_cases hother : name :: around = location
    · simp [put, entry?, ← hother]
    · simp [put, entry?, hother, List.lookup_cons, beq_eq_false_iff_ne.mpr hother,
        lookup_filter_ne hother]

theorem put_put (fs : FileSystem) (location : Location) (first second : Entry) :
    (fs.put location first).put location second = fs.put location second := by
  simp [put]

theorem mem_names {fs : FileSystem} {name : String} {around : Location} {entry : Entry}
    (h : fs.entry? (name :: around) = some entry) : name ∈ fs.names around := by
  obtain ⟨before, after, hentries, _⟩ := List.lookup_eq_some_iff.mp h
  exact List.mem_filterMap.mpr ⟨(name :: around, entry), by simp [hentries], by simp⟩

theorem named_eq_ok_iff {fs : FileSystem} {around : Location} {name : String}
    {found? : Option Entry} :
    fs.named around name = .ok found? ↔
      name.utf8ByteSize ≤ maxNameBytes ∧ fs.entry? (name :: around) = found? := by
  unfold named
  split
  · rename_i hlong
    exact ⟨nofun, fun h => absurd h.1 (Nat.not_le.mpr hlong)⟩
  · rename_i hshort
    simp [Nat.not_lt.mp hshort]

def enterAll (fs : FileSystem) (folder : Location) (steps : List String) :
    Except FileError Location := steps.foldlM fs.enter folder

theorem enterAll_append (fs : FileSystem) (folder : Location) (first second : List String) :
    fs.enterAll folder (first ++ second) =
      (do fs.enterAll (← fs.enterAll folder first) second) :=
  List.foldlM_append

theorem follow_concat (fs : FileSystem) (folder : Location) (steps : List String) (last : String) :
    fs.follow folder (steps ++ [last]) =
      (do fs.follow (← fs.enterAll folder steps) [last]) := by
  induction steps generalizing folder with
  | nil => rfl
  | cons step steps ih =>
    have hfollow : fs.follow folder (step :: (steps ++ [last])) =
        (do fs.follow (← fs.enter folder step) (steps ++ [last])) := by
      cases steps <;> rfl
    rw [List.cons_append, hfollow, enterAll, List.foldlM_cons, bind_assoc]
    exact bind_congr ih

theorem follow_plainName (fs : FileSystem) (folder : Location) {name : String}
    (h : IsPlainName name) : fs.follow folder [name] = .ok ⟨folder, some name⟩ := by
  simp [follow, h.notDot, h.notDots]

def base (fs : FileSystem) (path : Path) : Location := if path.isAbsolute then [] else fs.current

structure Followable (path : Path) : Prop where
  noNul : '\x00' ∉ path.text.toList
  nonempty : path.text ≠ ""
  short : path.text.utf8ByteSize ≤ maxPathBytes

theorem Followable.place {path : Path} (h : Followable path) (fs : FileSystem) :
    fs.place path = fs.follow (fs.base path) path.steps := by
  have hnul : path.text.toList.contains '\x00' = false := by simpa using h.noNul
  have hempty : path.text.isEmpty = false := by simpa using h.nonempty
  rw [FileSystem.place, hnul, hempty, if_neg (by simp), if_neg (by simp),
    if_neg (Nat.not_lt.mpr h.short), base]

theorem followable_of_place {fs : FileSystem} {path : Path} {place : Place}
    (h : fs.place path = .ok place) : Followable path := by
  unfold FileSystem.place at h
  split at h
  · simp at h
  split at h
  · simp at h
  split at h
  · simp at h
  · rename_i hnul hempty hlong
    exact ⟨by simpa using hnul, by simpa using hempty, Nat.not_lt.mp hlong⟩

theorem find_eq_ok_iff {fs : FileSystem} {path : Path} {location : Location} {entry : Entry} :
    fs.find path = .ok (location, entry) ↔
      fs.place path = .ok ⟨location, none⟩ ∧ entry = .folder ∨
      ∃ name around, location = name :: around ∧ fs.place path = .ok ⟨around, some name⟩ ∧
        fs.named around name = .ok (some entry) ∧ (entry = .folder ∨ path.endsInSlash = false) := by
  unfold find
  simp only [Except.bind_eq_ok_iff]
  constructor
  · rintro ⟨⟨around, name?⟩, hplace, h⟩
    cases name? with
    | none =>
      simp only [Except.ok.injEq, Prod.mk.injEq] at h
      exact .inl ⟨h.1 ▸ hplace, h.2.symm⟩
    | some name =>
      simp only [Except.bind_eq_ok_iff] at h
      obtain ⟨found?, hnamed, h⟩ := h
      refine .inr ⟨name, around, ?_⟩
      match found? with
      | none => simp at h
      | some .folder =>
        simp only [Except.ok.injEq, Prod.mk.injEq] at h
        obtain ⟨rfl, rfl⟩ := h
        exact ⟨rfl, hplace, hnamed, .inl rfl⟩
      | some (.file content) =>
        by_cases hslash : path.endsInSlash
        · simp [hslash] at h
        · simp only [hslash, if_false, Except.ok.injEq, Prod.mk.injEq, Bool.false_eq_true] at h
          obtain ⟨rfl, rfl⟩ := h
          exact ⟨rfl, hplace, hnamed, .inr (by simpa using hslash)⟩
  · rintro (⟨hplace, rfl⟩ | ⟨name, around, rfl, hplace, hnamed, hentry⟩)
    · exact ⟨_, hplace, rfl⟩
    · refine ⟨_, hplace, Except.bind_eq_ok_iff.mpr ⟨_, hnamed, ?_⟩⟩
      cases entry with
      | folder => rfl
      | file content =>
        have hslash : path.endsInSlash = false := by simpa using hentry
        simp [hslash]

theorem followable_of_find {fs : FileSystem} {path : Path} {location : Location} {entry : Entry}
    (h : fs.find path = .ok (location, entry)) : Followable path := by
  rcases find_eq_ok_iff.mp h with ⟨hplace, _⟩ | ⟨_, _, _, hplace, _⟩ <;>
    exact followable_of_place hplace

theorem enter_eq_ok_iff {fs : FileSystem} {folder location : Location} {step : String} :
    fs.enter folder step = .ok location ↔
      fs.follow folder [step] = .ok ⟨location, none⟩ ∨
      ∃ name around, location = name :: around ∧
        fs.follow folder [step] = .ok ⟨around, some name⟩ ∧
        fs.named around name = .ok (some .folder) := by
  unfold enter follow
  by_cases hdot : step = "."
  · simp [hdot]
  by_cases hdots : step = ".."
  · simp [hdots]
  simp only [hdot, hdots, if_false, Except.bind_eq_ok_iff, Except.ok.injEq, Place.mk.injEq,
    reduceCtorEq, and_false, false_or, Option.some.injEq]
  constructor
  · rintro ⟨found?, hnamed, h⟩
    match found? with
    | none => simp at h
    | some (.file content) => simp at h
    | some .folder => exact ⟨step, folder, (Except.ok.inj h).symm, ⟨rfl, rfl⟩, hnamed⟩
  · rintro ⟨_, _, rfl, ⟨rfl, rfl⟩, hnamed⟩
    exact ⟨_, hnamed, rfl⟩

theorem find_eq_folder_iff {fs : FileSystem} {path : Path} {location : Location} :
    fs.find path = .ok (location, .folder) ↔
      Followable path ∧ fs.enterAll (fs.base path) path.steps = .ok location := by
  suffices h : Followable path → (fs.find path = .ok (location, .folder) ↔
      fs.enterAll (fs.base path) path.steps = .ok location) from
    ⟨fun hfind => ⟨followable_of_find hfind, (h (followable_of_find hfind)).mp hfind⟩,
      fun hfollow => (h hfollow.1).mpr hfollow.2⟩
  intro hpath
  rw [find_eq_ok_iff, hpath.place]
  rcases List.eq_nil_or_concat path.steps with hsteps | ⟨steps, last, hsteps⟩
  · simp [hsteps, follow, enterAll, pure, Except.pure]
  · rw [hsteps, List.concat_eq_append, follow_concat, enterAll_append]
    cases fs.enterAll (fs.base path) steps with
    | error cause => simp [bind, Except.bind]
    | ok around =>
      have henter : fs.enterAll around [last] = fs.enter around last := by simp [enterAll]
      change (fs.follow around [last] = _ ∧ _ ∨ ∃ name folder, _ ∧ fs.follow around [last] = _ ∧ _) ↔
        fs.enterAll around [last] = _
      rw [henter, enter_eq_ok_iff]
      simp

/-- A file can be written at the path, and stands at the location then. -/
def Targets (fs : FileSystem) (path : Path) (location : Location) : Prop :=
  path.endsInSlash = false ∧ ∃ name around, location = name :: around ∧
    name.utf8ByteSize ≤ maxNameBytes ∧ fs.place path = .ok ⟨around, some name⟩

theorem Targets.ne_nil {fs : FileSystem} {path : Path} {location : Location}
    (h : fs.Targets path location) : location ≠ [] := by
  obtain ⟨_, name, around, rfl, _⟩ := h
  exact List.cons_ne_nil name around

theorem Targets.unique {fs : FileSystem} {path : Path} {location other : Location}
    (h : fs.Targets path location) (hother : fs.Targets path other) : location = other := by
  obtain ⟨_, name, around, rfl, _, hplace⟩ := h
  obtain ⟨_, name', around', rfl, _, hplace'⟩ := hother
  simp_all

theorem find_eq_file_iff {fs : FileSystem} {path : Path} {location : Location}
    {content : FileContent} :
    fs.find path = .ok (location, .file content) ↔
      fs.Targets path location ∧ fs.entry? location = some (.file content) := by
  simp only [find_eq_ok_iff, named_eq_ok_iff, Targets, reduceCtorEq, and_false, false_or]
  constructor
  · rintro ⟨name, around, rfl, hplace, ⟨hshort, hentry⟩, hslash⟩
    exact ⟨⟨hslash, name, around, rfl, hshort, hplace⟩, hentry⟩
  · rintro ⟨⟨hslash, name, around, rfl, hshort, hplace⟩, hentry⟩
    exact ⟨name, around, rfl, hplace, ⟨hshort, hentry⟩, hslash⟩

/-- Where the file at a path is, if there is one. -/
def fileAt? (fs : FileSystem) (path : Path) : Option Location :=
  match fs.find path with
  | .ok (location, .file _) => some location
  | _ => none

theorem fileAt?_eq_some_iff {fs : FileSystem} {path : Path} {location : Location} :
    fs.fileAt? path = some location ↔ ∃ content, fs.find path = .ok (location, .file content) := by
  unfold fileAt?
  split
  · simp [*]
  · rename_i hnone
    simp only [reduceCtorEq, false_iff]
    rintro ⟨content, hfind⟩
    exact hnone location content hfind

theorem fileAt?_eq_some_iff_targets {fs : FileSystem} {path : Path} {location : Location}
    {content : FileContent} (hentry : fs.entry? location = some (.file content)) :
    fs.fileAt? path = some location ↔ fs.Targets path location := by
  simp [fileAt?_eq_some_iff, find_eq_file_iff, hentry]

theorem writeFile_eq_ok_iff {fs fs' : FileSystem} {path : Path} {content : FileContent} :
    fs.writeFile path content = .ok fs' ↔
      ∃ location, fs.Targets path location ∧ fs.entry? location ≠ some .folder ∧
        fs' = fs.put location (.file content) := by
  simp only [writeFile, Except.bind_eq_ok_iff]
  constructor
  · rintro ⟨⟨around, name?⟩, hplace, h⟩
    cases name? with
    | none => simp at h
    | some name =>
      by_cases hslash : path.endsInSlash
      · simp [hslash] at h
      simp only [hslash, Bool.false_eq_true, if_false, Except.bind_eq_ok_iff, named_eq_ok_iff] at h
      obtain ⟨found?, ⟨hshort, rfl⟩, h⟩ := h
      refine ⟨name :: around, ⟨by simpa using hslash, name, around, rfl, hshort, hplace⟩, ?_⟩
      split at h
      · simp at h
      · exact ⟨‹_›, (Except.ok.inj h).symm⟩
  · rintro ⟨_, ⟨hslash, name, around, rfl, hshort, hplace⟩, hentry, rfl⟩
    refine ⟨_, hplace, ?_⟩
    simp only [hslash, Bool.false_eq_true, if_false, Except.bind_eq_ok_iff, named_eq_ok_iff]
    refine ⟨_, ⟨hshort, rfl⟩, ?_⟩
    split
    · exact absurd ‹_› hentry
    · rfl

theorem writeText_eq_ok_iff {fs fs' : FileSystem} {path : Path} {value : String} :
    fs.writeText path value = .ok fs' ↔
      ∃ location, fs.Targets path location ∧ fs.entry? location ≠ some .folder ∧
        fs' = fs.put location (.file (.text value)) :=
  writeFile_eq_ok_iff

/-- Every folder of the first file system is one of the second. -/
structure KeepsFolders (fs fs' : FileSystem) : Prop where
  current : fs'.current = fs.current
  folder : ∀ location, fs.entry? location = some .folder → fs'.entry? location = some .folder

theorem KeepsFolders.refl (fs : FileSystem) : KeepsFolders fs fs := ⟨rfl, fun _ h => h⟩

theorem KeepsFolders.trans {fs fs' fs'' : FileSystem} (h : KeepsFolders fs fs')
    (h' : KeepsFolders fs' fs'') : KeepsFolders fs fs'' :=
  ⟨h'.current.trans h.current, fun location hfolder => h'.folder _ (h.folder location hfolder)⟩

theorem KeepsFolders.base {fs fs' : FileSystem} (h : KeepsFolders fs fs') (path : Path) :
    fs'.base path = fs.base path := by
  rw [FileSystem.base, h.current, FileSystem.base]

theorem KeepsFolders.enter {fs fs' : FileSystem} (h : KeepsFolders fs fs')
    {folder location : Location} {step : String} (henter : fs.enter folder step = .ok location) :
    fs'.enter folder step = .ok location := by
  rw [enter_eq_ok_iff] at henter ⊢
  rcases henter with hfollow | ⟨name, around, hlocation, hfollow, hnamed⟩
  · exact .inl hfollow
  · rw [named_eq_ok_iff] at hnamed
    exact .inr ⟨name, around, hlocation, hfollow,
      named_eq_ok_iff.mpr ⟨hnamed.1, h.folder _ hnamed.2⟩⟩

theorem KeepsFolders.enterAll {fs fs' : FileSystem} (h : KeepsFolders fs fs')
    {folder location : Location} {steps : List String}
    (henter : fs.enterAll folder steps = .ok location) :
    fs'.enterAll folder steps = .ok location := by
  induction steps generalizing folder with
  | nil => exact henter
  | cons step steps ih =>
    rw [FileSystem.enterAll, List.foldlM_cons] at henter ⊢
    cases hstep : fs.enter folder step with
    | error cause => simp [hstep, bind, Except.bind] at henter
    | ok next =>
      rw [hstep] at henter
      rw [h.enter hstep]
      exact ih henter

theorem KeepsFolders.place {fs fs' : FileSystem} (h : KeepsFolders fs fs') {path : Path}
    {place : Place} (hplace : fs.place path = .ok place) : fs'.place path = .ok place := by
  have hpath := followable_of_place hplace
  rw [hpath.place] at hplace ⊢
  rw [h.base]
  rcases List.eq_nil_or_concat path.steps with hsteps | ⟨steps, last, hsteps⟩
  · simpa [hsteps, follow] using hplace
  · rw [hsteps, List.concat_eq_append, follow_concat] at hplace ⊢
    cases henter : fs.enterAll (fs.base path) steps with
    | error cause => simp [henter, bind, Except.bind] at hplace
    | ok around =>
      rw [henter] at hplace
      rw [h.enterAll henter]
      exact hplace

theorem KeepsFolders.targets {fs fs' : FileSystem} (h : KeepsFolders fs fs') {path : Path}
    {location : Location} (htargets : fs.Targets path location) : fs'.Targets path location := by
  obtain ⟨hslash, name, around, hlocation, hshort, hplace⟩ := htargets
  exact ⟨hslash, name, around, hlocation, hshort, h.place hplace⟩

theorem KeepsFolders.find {fs fs' : FileSystem} (h : KeepsFolders fs fs') {path : Path}
    {location : Location} (hfind : fs.find path = .ok (location, .folder)) :
    fs'.find path = .ok (location, .folder) := by
  rw [find_eq_folder_iff] at hfind ⊢
  exact ⟨hfind.1, h.base path ▸ h.enterAll hfind.2⟩

end FileSystem

end MarkdownOutline
