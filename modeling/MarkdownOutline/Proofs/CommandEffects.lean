import MarkdownOutline.Proofs.CommandLines
import MarkdownOutline.Proofs.ExportSteps
import MarkdownOutline.Proofs.Machines

/-!
# What commands do to the files

A run that transforms a note changes the note, the log and the folders around the log, and nothing
else. A dry run leaves the note as it is too, and so does a run that fails before it writes to the
note. What a dry run prints is what the same run writes, as far as it gets.
-/

namespace MarkdownOutline

open FileSystem

namespace FileSystem

/-- Nothing changes but what is at the allowed locations. -/
structure ChangesOnly (allowed : Location → Prop) (fs fs' : FileSystem) : Prop where
  current : fs'.current = fs.current
  entry : ∀ location, fs'.entry? location ≠ fs.entry? location → allowed location

theorem ChangesOnly.refl (allowed : Location → Prop) (fs : FileSystem) :
    ChangesOnly allowed fs fs := ⟨rfl, fun _ h => absurd rfl h⟩

theorem ChangesOnly.mono {allowed allowed' : Location → Prop} {fs fs' : FileSystem}
    (h : ChangesOnly allowed fs fs') (himp : ∀ location, allowed location → allowed' location) :
    ChangesOnly allowed' fs fs' :=
  ⟨h.current, fun location hne => himp location (h.entry location hne)⟩

theorem ChangesOnly.trans {allowed allowed' : Location → Prop} {fs fs' fs'' : FileSystem}
    (h : ChangesOnly allowed fs fs') (h' : ChangesOnly allowed' fs' fs'') :
    ChangesOnly (fun location => allowed location ∨ allowed' location) fs fs'' where
  current := h'.current.trans h.current
  entry location hne := by
    by_cases hsame : fs'.entry? location = fs.entry? location
    · exact .inr (h'.entry location (hsame ▸ hne))
    · exact .inl (h.entry location hsame)

theorem changesOnly_put {fs : FileSystem} {location : Location} (hlocation : location ≠ [])
    (entry : Entry) : ChangesOnly (· = location) fs (fs.put location entry) where
  current := rfl
  entry other hne := by
    by_cases hother : other = location
    · exact hother
    · rw [lookup_put fs hlocation, if_neg hother] at hne
      exact absurd rfl hne

theorem exists_of_writeFile {fs fs' : FileSystem} {path : Path} {content : FileContent}
    (h : fs.writeFile path content = .ok fs') :
    ∃ location, fs'.find path = .ok (location, .file content) ∧ Grows False fs fs' ∧
      ChangesOnly (· = location) fs fs' := by
  obtain ⟨location, htargets, hentry, rfl⟩ := writeFile_eq_ok_iff.mp h
  exact ⟨location, find_put_file htargets hentry _,
    grows_put htargets.ne_nil hentry fun _ _ => False.elim, changesOnly_put htargets.ne_nil _⟩

/-- The log file of settings, if they could be loaded and name one. -/
def logFile? (settings : Except SettingsError Settings) : Option Path :=
  settings.toOption.bind (·.log.file?)

/-- The location is that of the log file, or of a folder around it that was not there before. -/
def IsMadeForLog (log? : Option Path) (fs fs' : FileSystem) (location : Location) : Prop :=
  ∃ file ∈ log?, fs'.fileAt? file = some location ∨
    fs.entry? location = none ∧ fs'.entry? location = some .folder ∧
      ∃ folder ∈ (file.parent?.getD ⟨""⟩).withParents, fs'.find folder = .ok (location, .folder)

theorem IsMadeForLog.of_grows {log? : Option Path} {fs fs₁ fs' : FileSystem} {location : Location}
    (h : IsMadeForLog log? fs fs₁ location) (hgrows : Grows False fs₁ fs') :
    IsMadeForLog log? fs fs' location := by
  obtain ⟨file, hlog, hfile | ⟨hnone, hmade, folder, hmem, hfind⟩⟩ := h
  · exact ⟨file, hlog, .inl (hgrows.fileAt? hfile)⟩
  · have hmade' := hgrows.keeps.folder location hmade
    exact ⟨file, hlog, .inr ⟨hnone, hmade', folder, hmem, hgrows.keeps.find hfind⟩⟩

def ChangesLogOnly (log? : Option Path) (fs fs' : FileSystem) : Prop :=
  ChangesOnly (IsMadeForLog log? fs fs') fs fs'

theorem MakesFolders.changesLogOnly {file : Path} {fs fs' : FileSystem}
    (h : MakesFolders (file.parent?.getD ⟨""⟩).withParents fs fs') :
    ChangesLogOnly (some file) fs fs' := by
  refine ⟨h.addsFolders.current, ?_⟩
  intro location hne
  obtain ⟨hnone, hmade⟩ := (h.addsFolders.entry location).resolve_left hne
  exact ⟨file, rfl, .inr ⟨hnone, hmade, h.exists_find_of_ne hne⟩⟩

theorem ChangesLogOnly.writeFile {file : Path} {content : FileContent} {fs fs₁ fs' : FileSystem}
    (h : ChangesLogOnly (some file) fs fs₁) (hwrite : fs₁.writeFile file content = .ok fs') :
    ChangesLogOnly (some file) fs fs' := by
  obtain ⟨location, hfind, hgrows, honly⟩ := exists_of_writeFile hwrite
  apply (h.trans honly).mono
  rintro other (hother | rfl)
  · exact hother.of_grows hgrows
  · exact ⟨file, rfl, .inl (fileAt?_eq_some_iff.mpr ⟨_, hfind⟩)⟩

/-- A note with one text has another content after the change, and nothing else changes. -/
structure RewritesNote (file : Path) (location : Location) (text : String) (content : FileContent)
    (fs fs' : FileSystem) : Prop where
  before : fs.find file = .ok (location, .file (.text text))
  after : fs'.find file = .ok (location, .file content)
  grows : Grows False fs fs'
  only : ChangesOnly (· = location) fs fs'

theorem exists_rewritesNote {fs fs' : FileSystem} {file : Path} {text : String}
    {content : FileContent} (hread : fs.readText file = .ok text)
    (hwrite : fs.writeFile file content = .ok fs') :
    ∃ location, RewritesNote file location text content fs fs' := by
  obtain ⟨location, hfind⟩ := readText_eq_ok_iff.mp hread
  obtain ⟨written, hfind', hgrows, honly⟩ := exists_of_writeFile hwrite
  have hplace := (find_eq_file_iff.mp hfind).1
  obtain rfl : location = written :=
    (hgrows.keeps.targets hplace).unique (find_eq_file_iff.mp hfind').1
  exact ⟨location, hfind, hfind', hgrows, honly⟩

variable {log? : Option Path} {file : Path} {location : Location} {text : String}
  {content : FileContent} {fs fs₁ fs' : FileSystem}

theorem ChangesLogOnly.rewritesNote (h : ChangesLogOnly log? fs fs₁)
    (hnote : RewritesNote file location text content fs₁ fs') :
    ChangesOnly (fun other => IsMadeForLog log? fs fs' other ∨ other = location) fs fs' := by
  apply (h.trans hnote.only).mono
  rintro other (hmade | hother)
  · exact .inl (hmade.of_grows hnote.grows)
  · exact .inr hother

/-- The log is open before the note is read, but is no part of it. -/
theorem RewritesNote.entry_before (hnote : RewritesNote file location text content fs₁ fs')
    (hopen : ChangesLogOnly log? fs fs₁) (hlog : ∀ log ∈ log?, fs'.fileAt? log ≠ fs'.fileAt? file) :
    fs.entry? location = some (.file (.text text)) := by
  have hread := (find_eq_file_iff.mp hnote.before).2
  by_contra hother
  have hne : fs₁.entry? location ≠ fs.entry? location := fun hsame => hother (hsame ▸ hread)
  obtain ⟨log, hmem, hfile | ⟨-, hfolder, -⟩⟩ := hopen.entry location hne
  · have hafter := fileAt?_eq_some_iff.mpr ⟨_, hnote.after⟩
    exact hlog log hmem ((hnote.grows.fileAt? hfile).trans hafter.symm)
  · simp [hread] at hfolder

end FileSystem

namespace Medium

variable {medium : Medium} {options : FormatOptions} {file : Path} {dryRun : Bool}
  {change? : Option Transform}

theorem WriteOutcome.changesLogOnly {value : String} {result : Except FileError Unit}
    {fs fs' : FileSystem} (h : medium.WriteOutcome file value result fs')
    (hfolders : ChangesLogOnly (some file) fs medium.files) : ChangesLogOnly (some file) fs fs' := by
  cases h with
  | done hwrite => exact hfolders.writeFile hwrite
  | refused cause => exact hfolders
  | cutShort _ _ hwrite => exact hfolders.writeFile hwrite

/-- How a run that transforms a note can end once the log is open. -/
inductive TransformOutcome (medium : Medium) (options : FormatOptions) (file : Path)
    (change? : Option Transform) : Bool → Outcome → FileSystem → Prop
  | failed {dryRun : Bool} (report : String) :
      TransformOutcome medium options file change? dryRun (.failure report) medium.files
  | printed {text : String} (hread : (medium.readText file).1 = .ok text) :
      TransformOutcome medium options file change? true
        (.success (revisedText options change? text)) medium.files
  | unchanged {text : String} (hread : (medium.readText file).1 = .ok text)
      (hsame : revisedText options change? text = text) :
      TransformOutcome medium options file change? false
        (.success ("Unchanged: " ++ file.text ++ "\n")) medium.files
  | updated {text : String} {location : Location} {fs : FileSystem}
      (hread : (medium.readText file).1 = .ok text)
      (hother : revisedText options change? text ≠ text)
      (hnote : RewritesNote file location text (.text (revisedText options change? text))
        medium.files fs) :
      TransformOutcome medium options file change? false
        (.success ("Updated: " ++ file.text ++ "\n")) fs
  | cutShort {text : String} {location : Location} {fs : FileSystem} {fault : Fault} {count : Nat}
      (hread : (medium.readText file).1 = .ok text) (hfault : some fault ∈ medium.faults)
      (hcount : fault.written? = some count)
      (hnote : RewritesNote file location text
        (.beginning (revisedText options change? text) count) medium.files fs) :
      TransformOutcome medium options file change? false
        (.failure ("Error writing " ++ file.text ++ ": " ++ fault.description)) fs

theorem WriteOutcome.transformOutcome {medium' : Medium} {text : String}
    {result : Except FileError Unit} {fs : FileSystem}
    (h : medium'.WriteOutcome file (revisedText options change? text) result fs)
    (hleads : medium.Leads Eq medium') (hread : (medium.readText file).1 = .ok text)
    (hother : revisedText options change? text ≠ text) :
    medium.TransformOutcome options file change? false (writeReport file result) fs := by
  have hfiles : medium'.files.readText file = .ok text := hleads.files ▸ eq_of_look hread
  cases h with
  | done hwrite =>
    obtain ⟨location, hnote⟩ := exists_rewritesNote hfiles hwrite
    exact .updated hread hother (hleads.files ▸ hnote)
  | refused cause => exact hleads.files ▸ .failed _
  | cutShort hfault hcount hwrite =>
    obtain ⟨location, hnote⟩ := exists_rewritesNote hfiles hwrite
    exact .cutShort hread (hleads.faults.subset hfault) hcount (hleads.files ▸ hnote)

theorem transformOutcome_transformNote (medium : Medium) (options : FormatOptions) (file : Path)
    (dryRun : Bool) (change? : Option Transform) :
    TransformOutcome medium options file change? dryRun
      (medium.transformNote options file dryRun change?).1
      (medium.transformNote options file dryRun change?).2.files := by
  have hleads : medium.Leads Eq (medium.readText file).2 := leads_look _
  unfold transformNote
  rcases hmedium : medium.readText file with ⟨cause | text, medium'⟩
  · rw [hmedium] at hleads
    dsimp only
    rw [← hleads.files]
    exact .failed _
  rw [hmedium] at hleads
  have hread : (medium.readText file).1 = .ok text := by rw [hmedium]
  dsimp only
  cases dryRun with
  | true =>
    rw [if_pos rfl, ← hleads.files]
    exact .printed hread
  | false =>
    rw [if_neg Bool.false_ne_true]
    by_cases hsame : revisedText options change? text = text
    · rw [if_pos hsame, ← hleads.files]
      exact .unchanged hread hsame
    · rw [if_neg hsame]
      exact (writeOutcome_writeText medium' file _).transformOutcome hleads hread hsame

theorem transformNote_dryRun {text : String} (hread : (medium.readText file).1 = .ok text) :
    (medium.transformNote options file true change?).1 =
      .success (revisedText options change? text) := by
  unfold transformNote
  rcases hmedium : medium.readText file with ⟨cause | read, medium'⟩
  · simp [hmedium] at hread
  · rw [hmedium] at hread
    rw [Except.ok.inj hread]
    rfl

namespace TransformOutcome

variable {outcome : Outcome} {fs : FileSystem}

theorem eq_of_dryRun (h : TransformOutcome medium options file change? true outcome fs) :
    fs = medium.files := by
  cases h with
  | failed => rfl
  | printed => rfl

theorem of_failed (h : TransformOutcome medium options file change? false outcome fs)
    (hcode : outcome.code ≠ 0) :
    fs = medium.files ∨ ∃ location text revised fault count, some fault ∈ medium.faults ∧
      fault.written? = some count ∧
      (medium.transformNote options file true change?).1 = .success revised ∧
      RewritesNote file location text (.beginning revised count) medium.files fs ∧
      outcome = .failure ("Error writing " ++ file.text ++ ": " ++ fault.description) := by
  cases h with
  | failed => exact .inl rfl
  | unchanged => exact absurd rfl hcode
  | updated => exact absurd rfl hcode
  | cutShort hread hfault hcount hnote =>
    exact .inr ⟨_, _, _, _, _, hfault, hcount, transformNote_dryRun hread, hnote, rfl⟩

theorem of_succeeded (h : TransformOutcome medium options file change? false outcome fs)
    (hcode : outcome.code = 0) :
    ∃ location text revised,
      (medium.transformNote options file true change?).1 = .success revised ∧
      RewritesNote file location text (.text revised) medium.files fs ∧
      outcome = .success
        ((if revised = text then "Unchanged: " else "Updated: ") ++ file.text ++ "\n") := by
  cases h with
  | failed => simp [Outcome.failure] at hcode
  | cutShort => simp [Outcome.failure] at hcode
  | unchanged hread hsame =>
    obtain ⟨location, hfind⟩ := readText_eq_ok_iff.mp (eq_of_look hread)
    refine ⟨location, _, _, transformNote_dryRun hread, ?_, by rw [if_pos hsame]⟩
    rw [hsame]
    exact ⟨hfind, hfind, .refl _ _, .refl _ _⟩
  | updated hread hother hnote =>
    exact ⟨_, _, _, transformNote_dryRun hread, hnote, by rw [if_neg hother]⟩

end TransformOutcome

end Medium

namespace Machine

variable {invocation : Invocation} {file : Path} {dryRun : Bool} {change? : Option Transform}
  (environment : Environment) (medium : Medium)

theorem leads_openLog (log : LogSettings) :
    medium.Leads (ChangesLogOnly log.file?)
      ((openLog log : Machine _).on environment medium).2 := by
  rw [on_openLog]
  cases log.file? with
  | none => exact ⟨.refl _ _, List.suffix_rfl⟩
  | some file =>
    have hmade := moves_makeFolders (file.parent?.getD ⟨""⟩).withParents environment medium
    dsimp only [MonadFiles.ensureFolderAt]
    generalize (MonadFiles.makeFolders _ : Machine _).on environment medium = made at hmade ⊢
    have hfolders := hmade.files.changesLogOnly
    obtain ⟨cause | done, medium'⟩ := made
    · exact ⟨hfolders, hmade.faults⟩
    · have hfaults : (medium'.writeText file "").2.faults <:+ medium.faults :=
        (Medium.faults_writeText medium' file "" ▸ List.tail_suffix _).trans hmade.faults
      exact ⟨(Medium.writeOutcome_writeText medium' file "").changesLogOnly hfolders, hfaults⟩

/-- Setting up fails, or goes well; either way it changes nothing but the log. -/
theorem setup_cases (invocation : Invocation) :
    let after := (setup invocation : ExceptT Outcome Machine _).run.on environment medium
    medium.Leads (ChangesLogOnly (logFile? (invocation.settingsOn environment medium))) after.2 ∧
      ∀ outcome, after.1 = .error outcome → outcome.code = 1 := by
  have hsettings := leavesFiles_settings invocation environment medium
  rw [on_setup]
  unfold Invocation.settingsOn
  generalize (invocation.settings.run : Machine _).on environment medium = found at hsettings ⊢
  obtain ⟨cause | settings, medium'⟩ := found
  · refine ⟨⟨hsettings.files ▸ .refl _ _, hsettings.faults⟩, ?_⟩
    rintro outcome ⟨⟩
    rfl
  · have hlog := leads_openLog environment medium' settings.log
    dsimp only
    generalize (openLog settings.log : Machine _).on environment medium' = opened at hlog ⊢
    have hleads : medium.Leads (ChangesLogOnly settings.log.file?) opened.2 :=
      ⟨hsettings.files ▸ hlog.files, hlog.faults.trans hsettings.faults⟩
    obtain ⟨cause | done, medium''⟩ := opened
    · refine ⟨hleads, ?_⟩
      rintro outcome ⟨⟩
      rfl
    · exact ⟨hleads, fun outcome h => nomatch h⟩

theorem run_cases (h : invocation.command = .transform file dryRun change?) :
    let after := (invocation.run : Machine _).on environment medium
    let log? := logFile? (invocation.settingsOn environment medium)
    after.1.code = 1 ∧ ChangesLogOnly log? medium.files after.2.files ∨
      ∃ opened options, medium.Leads (ChangesLogOnly log?) opened ∧
        after = opened.transformNote options file dryRun change? ∧
        (invocation.asDryRun.run : Machine _).on environment medium =
          opened.transformNote options file true change? := by
  intro after log?
  have hdry : invocation.asDryRun.command = .transform file true change? := by
    rw [Invocation.asDryRun, h]
    rfl
  -- A dry run is set up in the same way, since the settings do not depend on the command.
  have hdryRun := on_run_transform environment medium hdry
  rw [show setup invocation.asDryRun = setup invocation from rfl] at hdryRun
  have hrun : after = _ := on_run_transform environment medium h
  obtain ⟨hleads, hcode⟩ := setup_cases environment medium invocation
  generalize (setup invocation : ExceptT Outcome Machine _).run.on environment medium = opened
    at hleads hcode hrun hdryRun
  obtain ⟨outcome | settings, opened⟩ := opened
  · exact .inl (hrun ▸ ⟨hcode outcome rfl, hleads.files⟩)
  · exact .inr ⟨opened, settings.numbering, hleads, hrun, hdryRun⟩

end Machine

theorem on_runArguments {arguments : List String} {invocation : Invocation}
    (h : Request.ofArguments? arguments = some (.run invocation)) (environment : Environment)
    (medium : Medium) :
    (runArguments arguments : Machine _).on environment medium =
      (invocation.run : Machine _).on environment medium := by
  rw [runArguments, h]

/-- A command line that transforms a note changes at most the note, the log, and folders made around
the log. A dry run leaves the note as it is. So does a run that fails, unless a fault cuts the
writing of the note short: then it holds the first bytes of what the dry run prints. If the run goes
well, and the log is not the note itself, the note holds what the dry run prints, and the run
reports that the note is unchanged just if that is what it read. -/
theorem runArguments_transform (environment : Environment) (medium : Medium)
    {arguments : List String} {invocation : Invocation} {file : Path} {dryRun : Bool}
    {change? : Option Transform}
    (hrequest : Request.ofArguments? arguments = some (.run invocation))
    (hcommand : invocation.command = .transform file dryRun change?) :
    let after := (runArguments arguments : Machine _).on environment medium
    let log? := logFile? (invocation.settingsOn environment medium)
    let made := IsMadeForLog log? medium.files after.2.files
    (dryRun = true → ChangesOnly made medium.files after.2.files) ∧
    (dryRun = false → ∃ front behind, arguments = front ++ behind ∧
      Request.ofArguments? (front ++ "--dry-run" :: behind) = some (.run invocation.asDryRun) ∧
      let dry := (runArguments (front ++ "--dry-run" :: behind) : Machine _).on environment medium
      (after.1.code ≠ 0 →
        ChangesOnly made medium.files after.2.files ∨
        ∃ location revised fault count, some fault ∈ medium.faults ∧
          fault.written? = some count ∧ dry.1 = .success revised ∧
          after.2.files.find file = .ok (location, .file (.beginning revised count)) ∧
          ChangesOnly (fun other => made other ∨ other = location) medium.files after.2.files ∧
          after.1 = .failure ("Error writing " ++ file.text ++ ": " ++ fault.description)) ∧
      (after.1.code = 0 →
        (∀ log ∈ log?, after.2.files.fileAt? log ≠ after.2.files.fileAt? file) →
        ∃ location text revised, dry.1 = .success revised ∧
          medium.files.entry? location = some (.file (.text text)) ∧
          after.2.files.find file = .ok (location, .file (.text revised)) ∧
          ChangesOnly (fun other => made other ∨ other = location) medium.files after.2.files ∧
          after.1 = .success
            ((if revised = text then "Unchanged: " else "Updated: ") ++ file.text ++ "\n"))) := by
  intro after log? made
  have hafter : after = _ := on_runArguments hrequest environment medium
  have hcases := Machine.run_cases environment medium hcommand
  rw [← hafter] at hcases
  constructor
  · rintro rfl
    rcases hcases with ⟨-, honly⟩ | ⟨opened, options, hleads, hnote, -⟩
    · exact honly
    have houtcome := opened.transformOutcome_transformNote options file true change?
    rw [← hnote] at houtcome
    have hkept : ChangesLogOnly log? medium.files after.2.files :=
      houtcome.eq_of_dryRun ▸ hleads.files
    exact hkept
  · rintro rfl
    obtain ⟨front, behind, harguments, hdryRequest⟩ := exists_dryRun_arguments hrequest hcommand
    refine ⟨front, behind, harguments, hdryRequest, ?_⟩
    rw [on_runArguments hdryRequest]
    rcases hcases with ⟨hcode, honly⟩ | ⟨opened, options, hleads, hnote, hdry⟩
    · exact ⟨fun _ => .inl honly, fun hzero => by simp [hcode] at hzero⟩
    have houtcome := opened.transformOutcome_transformNote options file false change?
    rw [← hnote] at houtcome
    rw [hdry]
    constructor
    · intro hcode
      rcases houtcome.of_failed hcode with
        hsame | ⟨location, text, revised, fault, count, hfault, hcount, hprinted, hcut, hreport⟩
      · have hkept : ChangesLogOnly log? medium.files after.2.files := hsame ▸ hleads.files
        exact .inl hkept
      · exact .inr ⟨location, revised, fault, count, hleads.faults.subset hfault, hcount, hprinted,
          hcut.after, hleads.files.rewritesNote hcut, hreport⟩
    · intro hcode hlog
      obtain ⟨location, text, revised, hprinted, hwritten, hreport⟩ := houtcome.of_succeeded hcode
      exact ⟨location, text, revised, hprinted, hwritten.entry_before hleads.files hlog,
        hwritten.after, hleads.files.rewritesNote hwritten, hreport⟩

/-- A note on a disk that is full by the time it is written. -/
def fullDisk : Medium where
  files := { entries := [(["note.md"], .file (.text "#  a\n"))] }
  faults := [none, none, some ⟨"No space left on device (os error 28)", some 0⟩]

theorem not_changesOnly_fullDisk :
    let after := (runArguments ["format", "/note.md"] : Machine _).on {} fullDisk
    let format : Invocation := { command := .transform ⟨"/note.md"⟩ false none }
    Request.ofArguments? ["format", "/note.md"] = some (.run format) ∧
      logFile? (format.settingsOn {} fullDisk) = none ∧
      after.1.code = 1 ∧ after.2.files.entry? ["note.md"] = some (.file (.text "")) ∧
      ¬ ChangesOnly (IsMadeForLog none fullDisk.files after.2.files) fullDisk.files
        after.2.files := by
  intro after format
  have hrequest : Request.ofArguments? ["format", "/note.md"] = some (.run format) := by
    with_unfolding_all rfl
  have hsettings : (format.settings.run : Machine _).on {} fullDisk =
      (.ok {}, { fullDisk with faults := fullDisk.faults.tail }) := by decide +kernel
  have hafter : after = _ := (on_runArguments hrequest {} fullDisk).trans
    (Machine.on_run_transform {} fullDisk rfl)
  rw [Machine.on_setup, hsettings] at hafter
  have hcode : after.1.code = 1 := by
    rw [hafter]
    decide +kernel
  have hentry : after.2.files.entry? ["note.md"] = some (.file (.text "")) := by
    rw [hafter]
    decide +kernel
  refine ⟨hrequest, by rw [Invocation.settingsOn, hsettings]; rfl, hcode, hentry, ?_⟩
  intro honly
  have hne : after.2.files.entry? ["note.md"] ≠ fullDisk.files.entry? ["note.md"] := by
    rw [hentry]
    decide
  obtain ⟨log, hlog, -⟩ := honly.entry _ hne
  exact Option.not_mem_none log hlog

/-- A note, and settings for a log in a folder that is not there. -/
def loggedNote : Medium where
  files := { entries := [
    (["mdr.toml"], .file (.text "version = 1\n[logging]\nfile = '/log/mdr.log'\n")),
    (["note.md"], .file (.text "# a\n"))] }

def loggedFormat : Invocation where
  config? := some ⟨"/mdr.toml"⟩
  command := .transform ⟨"/note.md"⟩ false none

theorem mergeSort_pair {α : Type} (le : α → α → Bool) (first second : α) :
    [first, second].mergeSort le = if le first second then [first, second] else [second, first] := by
  simp [List.mergeSort, List.MergeSort.Internal.splitInTwo, List.merge]

theorem byKey_eq : byKey = fun table => match table with
    | [first, second] => if second.1 < first.1 then [second, first] else [first, second]
    | table => byKey table := by
  funext table
  match table with
  | [] | [_] | _ :: _ :: _ :: _ => rfl
  | [first, second] =>
    rw [byKey, mergeSort_pair]
    by_cases hlt : second.1 < first.1
    · simp only [hlt, decide_true, Bool.not_true, Bool.false_eq_true, if_false, if_true]
    · simp only [hlt, decide_false, Bool.not_false, if_false, if_true]

theorem settings_loggedFormat :
    (loggedFormat.settings.run : Machine _).on {} loggedNote =
      (.ok { source? := some ⟨"/mdr.toml"⟩, log := { file? := some ⟨"/log/mdr.log"⟩ } },
        loggedNote) := by
  unfold Invocation.settings Settings.load Settings.ofFile Settings.ofToml
    SettingsDocument.ofToml SettingsDocument.readField readLog readRecord
  -- The kernel does not run merge sort, which puts the entries of a table in order.
  rw [byKey_eq]
  decide +kernel

theorem runArguments_transform_logged :
    let after := (runArguments ["format", "/note.md", "--config", "/mdr.toml"] : Machine _).on {}
      loggedNote
    Request.ofArguments? ["format", "/note.md", "--config", "/mdr.toml"] =
        some (.run loggedFormat) ∧
      logFile? (loggedFormat.settingsOn {} loggedNote) = some ⟨"/log/mdr.log"⟩ ∧
      after.2.files.fileAt? ⟨"/log/mdr.log"⟩ ≠ after.2.files.fileAt? ⟨"/note.md"⟩ ∧
      ∃ front behind location text revised,
        ["format", "/note.md", "--config", "/mdr.toml"] = front ++ behind ∧
        ((runArguments (front ++ "--dry-run" :: behind) : Machine _).on {} loggedNote).1 =
          .success revised ∧
        loggedNote.files.entry? location = some (.file (.text text)) ∧
        after.2.files.find ⟨"/note.md"⟩ = .ok (location, .file (.text revised)) ∧
        after.1 = .success ((if revised = text then "Unchanged: " else "Updated: ") ++
          "/note.md" ++ "\n") := by
  intro after
  have hrequest : Request.ofArguments? ["format", "/note.md", "--config", "/mdr.toml"] =
      some (.run loggedFormat) := by with_unfolding_all rfl
  have hafter : after = _ := (on_runArguments hrequest {} loggedNote).trans
    (Machine.on_run_transform {} loggedNote rfl)
  rw [Machine.on_setup, settings_loggedFormat] at hafter
  have hcode : after.1.code = 0 := by
    rw [hafter]
    decide +kernel
  have hlog : after.2.files.fileAt? ⟨"/log/mdr.log"⟩ ≠ after.2.files.fileAt? ⟨"/note.md"⟩ := by
    rw [hafter]
    decide +kernel
  have hfile : logFile? (loggedFormat.settingsOn {} loggedNote) = some ⟨"/log/mdr.log"⟩ := by
    rw [Invocation.settingsOn, settings_loggedFormat]
    rfl
  obtain ⟨front, behind, harguments, -, -, hsucceeded⟩ :=
    (runArguments_transform {} loggedNote hrequest rfl).2 rfl
  obtain ⟨location, text, revised, hdry, hentry, hfind, -, hreport⟩ := hsucceeded hcode (by
    intro log hmem
    obtain rfl : ⟨"/log/mdr.log"⟩ = log := Option.some.inj (hfile.symm.trans hmem)
    exact hlog)
  exact ⟨hrequest, hfile, hlog, front, behind, location, text, revised, harguments, hdry, hentry,
    hfind, hreport⟩

end MarkdownOutline
