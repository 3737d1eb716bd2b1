import MarkdownOutline.Command.Run
import MarkdownOutline.Proofs.FolderMaking
import MarkdownOutline.Proofs.Media

/-!
# Commands on a machine

What the programs of the commands do in an environment and on a medium that are values. Loading the
settings leaves all files as they are, and making folders does nothing else. A run that transforms a
note loads the settings, opens the log and only then reads the note.
-/

namespace MarkdownOutline

/-- Programs that are run in an environment, on a medium that can fail. -/
abbrev Machine := ReaderT Environment (StateM Medium)

namespace Machine

variable {α β ε : Type}

def on (program : Machine α) (environment : Environment) (medium : Medium) : α × Medium :=
  (program.run environment).run medium

theorem on_bind (first : Machine α) (next : α → Machine β) (environment : Environment)
    (medium : Medium) :
    (first >>= next).on environment medium =
      (next (first.on environment medium).1).on environment (first.on environment medium).2 := rfl

theorem on_lift_bind (first : Machine α) (next : α → ExceptT ε Machine β)
    (environment : Environment) (medium : Medium) :
    (liftM first >>= next : ExceptT ε Machine β).run.on environment medium =
      (next (first.on environment medium).1).run.on environment
        (first.on environment medium).2 := rfl

theorem on_except_bind (first : ExceptT ε Machine α) (next : α → ExceptT ε Machine β)
    (environment : Environment) (medium : Medium) :
    (first >>= next).run.on environment medium =
      match first.run.on environment medium with
      | (.ok a, medium') => (next a).run.on environment medium'
      | (.error cause, medium') => (.error cause, medium') := by
  rw [ExceptT.run_bind, on_bind]
  rcases first.run.on environment medium with ⟨_ | _, medium'⟩ <;> rfl

/-- What the program does to the files, whatever fails, is a step. -/
def Moves (step : FileSystem → FileSystem → Prop) (program : Machine α) : Prop :=
  ∀ environment (medium : Medium), medium.Leads step (program.on environment medium).2

namespace Moves

variable {step : FileSystem → FileSystem → Prop} [IsPreorder FileSystem step]

theorem pure (a : α) : Moves step (Pure.pure a) := fun _ medium => .refl medium

theorem bind {first : Machine α} {next : α → Machine β} (h : Moves step first)
    (h' : ∀ a, Moves step (next a)) : Moves step (first >>= next) := by
  intro environment medium
  rw [on_bind]
  exact (h environment medium).trans (h' _ environment _)

omit [IsPreorder FileSystem step] in
theorem mono {step' : FileSystem → FileSystem → Prop} {program : Machine α} (h : Moves step program)
    (hstep : ∀ fs fs', step fs fs' → step' fs fs') : Moves step' program :=
  fun environment medium => ⟨hstep _ _ (h environment medium).files, (h environment medium).faults⟩

theorem lift {program : Machine α} (h : Moves step program) :
    Moves step (liftM program : ExceptT ε Machine α).run :=
  h.bind fun _ => .pure _

theorem except_bind {first : ExceptT ε Machine α} {next : α → ExceptT ε Machine β}
    (h : Moves step first.run) (h' : ∀ a, Moves step (next a).run) :
    Moves step (first >>= next).run := by
  rw [ExceptT.run_bind]
  apply bind h
  intro result
  cases result with
  | ok a => exact h' a
  | error cause => exact .pure _

end Moves

abbrev LeavesFiles (program : Machine α) : Prop := Moves Eq program

theorem leavesFiles_lookup? (name : String) :
    LeavesFiles (MonadEnvironment.lookup? name) := fun _ medium => .refl medium

theorem leavesFiles_accountHome? : LeavesFiles MonadEnvironment.accountHome? :=
  fun _ medium => .refl medium

theorem leavesFiles_kind? (path : Path) : LeavesFiles (MonadFiles.kind? path) :=
  fun _ _ => Medium.leads_next rfl

theorem leavesFiles_readText (path : Path) : LeavesFiles (MonadFiles.readText path) :=
  fun _ _ => Medium.leads_look _

theorem leavesFiles_home? : LeavesFiles home? := by
  apply (leavesFiles_lookup? _).bind
  intro home?
  cases home? with
  | none => exact leavesFiles_accountHome?
  | some home =>
    dsimp only
    split
    · exact leavesFiles_accountHome?
    · exact .pure _

theorem leavesFiles_defaultSettingsPath : LeavesFiles defaultSettingsPath := by
  apply (leavesFiles_lookup? _).bind
  intro folder?
  cases folder? with
  | none => exact leavesFiles_home?.bind fun _ => .pure _
  | some folder => exact .pure _

theorem leavesFiles_mapM_expand? (pieces : List PathPiece) :
    LeavesFiles (pieces.mapM PathPiece.expand?) := by
  induction pieces with
  | nil => exact .pure _
  | cons piece pieces ih =>
    rw [List.mapM_cons]
    have hpiece : LeavesFiles piece.expand? := by
      cases piece with
      | char c => exact .pure _
      | «variable» name default? => exact (leavesFiles_lookup? name).bind fun _ => .pure _
    exact hpiece.bind fun _ => ih.bind fun _ => .pure _

theorem leavesFiles_expandPath? (path : Path) : LeavesFiles (expandPath? path) := by
  apply (leavesFiles_mapM_expand? _).bind
  intro texts
  cases texts.mapM id with
  | none => exact .pure _
  | some texts =>
    dsimp only
    split
    · exact leavesFiles_home?.bind fun _ => .pure _
    · exact .pure _

theorem leavesFiles_expand (settings : Settings) : LeavesFiles settings.expand.run := by
  unfold Settings.expand
  cases settings.log.file? with
  | none => exact .pure _
  | some file =>
    apply Moves.except_bind (leavesFiles_expandPath? file).lift
    intro file?
    cases file? <;> exact .pure _

theorem leavesFiles_ofToml (text : String) (path : Path) :
    LeavesFiles (Settings.ofToml text path).run := by
  unfold Settings.ofToml
  cases SettingsDocument.ofToml text with
  | error fault => exact .pure _
  | ok document =>
    dsimp only
    cases document.version? with
    | none => exact .pure _
    | some version =>
      dsimp only
      split
      · exact .pure _
      · exact leavesFiles_expand _

theorem leavesFiles_ofFile (path : Path) : LeavesFiles (Settings.ofFile path).run := by
  apply Moves.except_bind (leavesFiles_kind? path).lift
  intro kind?
  dsimp only
  split
  · exact .pure _
  · apply Moves.except_bind (leavesFiles_readText path).lift
    intro result
    cases result with
    | error cause => exact .pure _
    | ok text => exact leavesFiles_ofToml text path

theorem leavesFiles_load (path? : Option Path) : LeavesFiles (Settings.load path?).run := by
  unfold Settings.load
  cases path? with
  | some path => exact leavesFiles_ofFile path
  | none =>
    apply Moves.except_bind leavesFiles_defaultSettingsPath.lift
    intro path
    apply Moves.except_bind (leavesFiles_kind? path).lift
    intro kind?
    split
    · exact .pure _
    · exact leavesFiles_ofFile path

theorem leavesFiles_settings (invocation : Invocation) : LeavesFiles invocation.settings.run :=
  (leavesFiles_load invocation.config?).except_bind fun _ => .pure _

theorem moves_makeFolder {paths : List Path} {path : Path} (hmem : path ∈ paths) :
    Moves (FileSystem.MakesFolders paths) (MonadFiles.makeFolder path) :=
  fun _ _ => Medium.leads_makeFolder .refl fun _ => FileSystem.MakesFolders.refl.next hmem

theorem leavesFiles_settle (path : Path) (result : Except FileError Unit) :
    LeavesFiles (MonadFiles.makeFolders.settle path result) := by
  cases result with
  | ok done => exact .pure _
  | error cause => exact ((leavesFiles_kind? path).bind fun _ => .pure _).bind fun _ => .pure _

theorem moves_makeFolders (paths : List Path) :
    Moves (FileSystem.MakesFolders paths) (MonadFiles.makeFolders paths) := by
  induction paths with
  | nil => exact .pure _
  | cons path around ih =>
    have haround := ih.mono fun _ _ h => h.mono (List.subset_cons_self path around)
    have hsettle (result : Except FileError Unit) :
        Moves (FileSystem.MakesFolders (path :: around))
          (MonadFiles.makeFolders.settle path result) :=
      (leavesFiles_settle path result).mono fun fs _ h => h ▸ refl_of _ fs
    rw [MonadFiles.makeFolders]
    split
    · exact .pure _
    apply (moves_makeFolder List.mem_cons_self).bind
    intro result
    cases result with
    | ok done => exact .pure _
    | error cause =>
      cases cause with
      | notFound =>
        apply haround.bind
        intro result
        cases result with
        | ok done => exact (moves_makeFolder List.mem_cons_self).bind hsettle
        | error cause => exact .pure _
      | _ => exact hsettle _

end Machine

def Invocation.settingsOn (invocation : Invocation) (environment : Environment) (medium : Medium) :
    Except SettingsError Settings :=
  ((invocation.settings.run : Machine _).on environment medium).1

def writeReport (file : Path) : Except FileError Unit → Outcome
  | .ok () => .success ("Updated: " ++ file.text ++ "\n")
  | .error cause => .failure ("Error writing " ++ file.text ++ ": " ++ cause.message)

/-- The end of a run that transforms a note, once the log is open, and the medium after it. -/
def Medium.transformNote (medium : Medium) (options : FormatOptions) (file : Path) (dryRun : Bool)
    (change? : Option Transform) : Outcome × Medium :=
  match medium.readText file with
  | (.error cause, medium') =>
    (.failure ("Error reading " ++ file.text ++ ": " ++ cause.message), medium')
  | (.ok text, medium') =>
    let revised := revisedText options change? text
    if dryRun then (.success revised, medium')
    else if revised = text then (.success ("Unchanged: " ++ file.text ++ "\n"), medium')
    else
      (writeReport file (medium'.writeText file revised).1, (medium'.writeText file revised).2)

namespace Machine

variable (environment : Environment) (medium : Medium)

theorem on_openLog (log : LogSettings) :
    (openLog log : Machine _).on environment medium =
      match log.file? with
      | none => (.ok (), medium)
      | some file =>
        match (MonadFiles.ensureFolderAt (file.parent?.getD ⟨""⟩) : Machine _).on environment
          medium with
        | (.error cause, medium') => (.error cause, medium')
        | (.ok (), medium') => medium'.writeText file "" := by
  unfold openLog
  cases log.file? with
  | none => rfl
  | some file =>
    dsimp only
    rw [on_bind]
    rcases (MonadFiles.ensureFolderAt _ : Machine _).on environment medium with ⟨_ | _, medium'⟩ <;>
      rfl

theorem on_setup (invocation : Invocation) :
    (setup invocation : ExceptT Outcome Machine _).run.on environment medium =
      match (invocation.settings.run : Machine _).on environment medium with
      | (.error cause, medium') =>
        (.error (.failure ("Error loading config: " ++ cause.message)), medium')
      | (.ok settings, medium') =>
        match (openLog settings.log : Machine _).on environment medium' with
        | (.error cause, medium'') =>
          (.error (.failure ("Error: failed to open log file: " ++ cause.message)), medium'')
        | (.ok (), medium'') => (.ok settings, medium'') := by
  unfold setup
  rw [on_lift_bind]
  rcases (invocation.settings.run : Machine _).on environment medium with ⟨cause | settings, medium'⟩
  · rfl
  · dsimp only [startLog]
    rw [on_except_bind, on_lift_bind]
    rcases (openLog settings.log : Machine _).on environment medium' with ⟨_ | _, medium''⟩ <;> rfl

/-- The end of a run, whether it came early or not. -/
def endOf (result : Except Outcome Outcome × Medium) : Outcome × Medium :=
  match result with
  | (.ok outcome, medium) => (outcome, medium)
  | (.error outcome, medium) => (outcome, medium)

theorem on_run (invocation : Invocation) :
    (invocation.run : Machine _).on environment medium =
      endOf ((invocation.perform.run : Machine _).on environment medium) := by
  unfold Invocation.run
  rw [on_bind]
  rcases (invocation.perform.run : Machine _).on environment medium with ⟨_ | _, medium'⟩ <;> rfl

theorem on_readNote (file : Path) :
    (readNote file : ExceptT Outcome Machine _).run.on environment medium =
      match medium.readText file with
      | (.error cause, medium') =>
        (.error (.failure ("Error reading " ++ file.text ++ ": " ++ cause.message)), medium')
      | (.ok text, medium') => (.ok text, medium') := by
  have hread : (MonadFiles.readText file : Machine _).on environment medium =
    medium.readText file := rfl
  rw [readNote, on_lift_bind, hread]
  rcases medium.readText file with ⟨_ | _, medium'⟩ <;> rfl

theorem on_runTransform (settings : Settings) (file : Path) (dryRun : Bool)
    (change? : Option Transform) :
    endOf ((runTransform settings file dryRun change? : ExceptT Outcome Machine _).run.on
      environment medium) = medium.transformNote settings.numbering file dryRun change? := by
  unfold runTransform Medium.transformNote
  rw [on_except_bind, on_readNote]
  rcases medium.readText file with ⟨cause | text, medium'⟩
  · rfl
  · dsimp only
    generalize revisedText settings.numbering change? text = revised
    have hwrite : (MonadFiles.writeText file revised : Machine _).on environment medium' =
      medium'.writeText file revised := rfl
    split
    · rfl
    split
    · rfl
    · rw [on_lift_bind, hwrite]
      rcases medium'.writeText file revised with ⟨_ | _, medium''⟩ <;> rfl

/-- A run that transforms a note sets up first, and goes on to the note if that went well. -/
theorem on_run_transform {invocation : Invocation} {file : Path} {dryRun : Bool}
    {change? : Option Transform} (h : invocation.command = .transform file dryRun change?) :
    (invocation.run : Machine _).on environment medium =
      match (setup invocation : ExceptT Outcome Machine _).run.on environment medium with
      | (.error outcome, medium') => (outcome, medium')
      | (.ok settings, medium') =>
        medium'.transformNote settings.numbering file dryRun change? := by
  rw [on_run, Invocation.perform, h, on_except_bind]
  rcases (setup invocation : ExceptT Outcome Machine _).run.on environment medium with
    ⟨outcome | settings, medium'⟩
  · rfl
  · exact on_runTransform environment medium' settings file dryRun change?

end Machine

end MarkdownOutline
