import MarkdownOutline.Command.Arguments
import MarkdownOutline.Proofs.FileTree

/-!
# Adding an option to a command line

The options of a command line are read one after the other. Reading one never takes back a flag,
and does the same whether another flag is raised or not, unless it raises that one itself. So an
option that raises a flag can be written in front of all others behind a command's name, and what is
read is what was read before, and the flag.
-/

namespace MarkdownOutline

def Given.withFlag (given : Given) (flag : Flag) : Given :=
  { given with flags := given.flags ++ [flag] }

/-- The change to what is given keeps all flags, and does the same with one more flag unless it
raises that one itself. -/
structure IsSteady (change : Given → Except Halt Given) : Prop where
  flags : ∀ {given next}, change given = .ok next → given.flags ⊆ next.flags
  withFlag : ∀ {given next flag}, change given = .ok next → flag ∉ next.flags →
    change (given.withFlag flag) = .ok (next.withFlag flag)

theorem isSteady_once {α : Type} {get : Given → Option α} {put : Given → Option α → Given}
    (value? : Option α) (hget : ∀ given flag, get (given.withFlag flag) = get given)
    (hflags : ∀ given a?, (put given a?).flags = given.flags)
    (hput : ∀ given a? flag, put (given.withFlag flag) a? = (put given a?).withFlag flag) :
    IsSteady fun given => do return put given (← Given.once (get given) value?) where
  flags := by
    intro given next h
    obtain ⟨a?, -, hnext⟩ := Except.bind_eq_ok_iff.mp h
    rw [← Except.ok.inj hnext, hflags]
    exact List.Subset.refl _
  withFlag := by
    intro given next flag h _
    obtain ⟨a?, honce, hnext⟩ := Except.bind_eq_ok_iff.mp h
    rw [hget, honce, ← Except.ok.inj hnext, ← hput]
    rfl

theorem isSteady_set (setting : Setting) (text : String) :
    IsSteady (Given.set · setting text) := by
  cases setting <;> exact isSteady_once _ (fun _ _ => rfl) (fun _ _ => rfl) fun _ _ _ => rfl

theorem isSteady_setFile (text : String) : IsSteady (Given.setFile · text) :=
  isSteady_once _ (fun _ _ => rfl) (fun _ _ => rfl) fun _ _ _ => rfl

theorem raise_eq_ok_iff {given next : Given} {option : CommandOption} :
    given.raise option = .ok next ↔
      ∃ flag, option = .flag flag ∧ flag ∉ given.flags ∧
        next = { given with flags := flag :: given.flags } := by
  cases option with
  | flag flag =>
    simp only [Given.raise, List.contains_iff_mem]
    split <;> simp_all [eq_comm]
  | _ => simp [Given.raise]

theorem isSteady_raise (option : CommandOption) : IsSteady (Given.raise · option) where
  flags := by
    intro given next h
    obtain ⟨flag, -, -, rfl⟩ := raise_eq_ok_iff.mp h
    exact List.subset_cons_self _ _
  withFlag := by
    intro given next flag h hnot
    obtain ⟨raised, rfl, hraised, rfl⟩ := raise_eq_ok_iff.mp h
    have hne : raised ≠ flag := fun heq => hnot (by simp [heq])
    -- The other flag stands behind those that are raised, so they are the same with it.
    refine raise_eq_ok_iff.mpr ⟨raised, rfl, ?_, rfl⟩
    simpa [Given.withFlag, hne] using hraised

theorem IsSteady.bind {first : Given → Except Halt Given} {second : Given → Except Halt Given}
    (h : IsSteady first) (h' : IsSteady second) : IsSteady fun given => first given >>= second where
  flags := by
    intro given next hrun
    obtain ⟨middle, hfirst, hsecond⟩ := Except.bind_eq_ok_iff.mp hrun
    exact List.Subset.trans (h.flags hfirst) (h'.flags hsecond)
  withFlag := by
    intro given next flag hrun hnot
    obtain ⟨middle, hfirst, hsecond⟩ := Except.bind_eq_ok_iff.mp hrun
    have hmiddle : flag ∉ middle.flags := fun hmem => hnot (h'.flags hsecond hmem)
    exact Except.bind_eq_ok_iff.mpr
      ⟨_, h.withFlag hfirst hmiddle, h'.withFlag hsecond hnot⟩

theorem isSteady_error (cause : Halt) : IsSteady fun _ => .error cause :=
  ⟨fun h => by simp at h, fun h => by simp at h⟩

theorem isSteady_raiseAll (options : List CommandOption) (letters : List Char) :
    IsSteady (Given.raiseAll · options letters) := by
  induction letters with
  | nil =>
    constructor
    · intro given next h
      obtain rfl := Except.ok.inj h
      exact List.Subset.refl _
    · intro given next flag h _
      obtain rfl := Except.ok.inj h
      rfl
  | cons letter letters ih =>
    simp only [Given.raiseAll, List.foldlM_cons]
    apply IsSteady.bind _ ih
    cases options.find? (·.short? == some letter) with
    | none => exact isSteady_error _
    | some option => exact isSteady_raise option

/-- The texts are an option with its value, if it has one. -/
structure ReadsOption (options : List CommandOption) (taken : List String)
    (change : Given → Except Halt Given) : Prop where
  nonempty : taken ≠ []
  steady : IsSteady change
  read : ∀ given rest, readOptions options given (taken ++ rest) =
    (do readOptions options (← change given) rest)

theorem exists_readsOption {options : List CommandOption} {given : Given} {text : String}
    {rest : List String} {result : Given × Bool × List String} (hdash : text ≠ "--")
    (hoption : looksLikeOption text = true)
    (h : readOptions options given (text :: rest) = .ok result) :
    ∃ taken change more, ReadsOption options taken change ∧ text :: rest = taken ++ more := by
  by_cases hlong : text.startsWith "--" = true
  · rcases hname : longOption text with ⟨name, value?⟩
    cases hfind : options.find? (·.long == name) with
    | none => simp [readOptions, hdash, hoption, hlong, hname, hfind] at h
    | some option =>
      -- Only a setting has a value: behind an equals sign, or as the next text.
      by_cases hsetting : ∃ setting, option = .setting setting
      · obtain ⟨setting, rfl⟩ := hsetting
        cases value? with
        | some value =>
          refine ⟨[text], (·.set setting value), rest,
            ⟨by simp, isSteady_set setting value, ?_⟩, rfl⟩
          intro given more
          simp [readOptions, hdash, hoption, hlong, hname, hfind]
        | none =>
          cases rest with
          | nil => simp [readOptions, hdash, hoption, hlong, hname, hfind] at h
          | cons value rest =>
            by_cases hvalue : looksLikeOption value = true
            · simp [readOptions, hdash, hoption, hlong, hname, hfind, hvalue] at h
            · refine ⟨[text, value], (·.set setting value), rest,
                ⟨by simp, isSteady_set setting value, ?_⟩, rfl⟩
              intro given more
              simp [readOptions, hdash, hoption, hlong, hname, hfind, hvalue]
      · cases value? with
        | some value => cases option <;> simp_all [readOptions]
        | none =>
          refine ⟨[text], (·.raise option), rest, ⟨by simp, isSteady_raise option, ?_⟩, rfl⟩
          intro given more
          cases option <;> simp_all [readOptions]
  · refine ⟨[text], (·.raiseAll options (text.toList.drop 1)), rest,
      ⟨by simp, isSteady_raiseAll _ _, ?_⟩, rfl⟩
    intro given more
    simp [readOptions, hdash, hoption, hlong]

/-- Texts that are options one after the other, with what is given before and after them. -/
inductive OptionsRead (options : List CommandOption) : Given → List String → Given → Prop
  | nil (given : Given) : OptionsRead options given [] given
  | cons {given next last : Given} {taken more : List String} {change : Given → Except Halt Given}
      (hone : ReadsOption options taken change) (hnext : change given = .ok next)
      (hmore : OptionsRead options next more last) : OptionsRead options given (taken ++ more) last

namespace OptionsRead

variable {options : List CommandOption} {given last : Given} {taken : List String}

theorem flags (h : OptionsRead options given taken last) : given.flags ⊆ last.flags := by
  induction h with
  | nil => exact List.Subset.refl _
  | cons hone hnext _ ih => exact List.Subset.trans (hone.steady.flags hnext) ih

theorem withFlag (h : OptionsRead options given taken last) {flag : Flag}
    (hnot : flag ∉ last.flags) :
    OptionsRead options (given.withFlag flag) taken (last.withFlag flag) := by
  induction h with
  | nil => exact .nil _
  | cons hone hnext hmore ih =>
    have hnext' := hone.steady.withFlag hnext fun hmem => hnot (hmore.flags hmem)
    exact .cons hone hnext' (ih hnot)

theorem readOptions_eq (h : OptionsRead options given taken last) (rest : List String) :
    readOptions options given (taken ++ rest) = readOptions options last rest := by
  induction h with
  | nil => rfl
  | cons hone hnext _ ih =>
    rw [List.append_assoc, hone.read, hnext]
    exact ih

end OptionsRead

/-- Where reading options stops: at the end, behind two dashes, or in front of a text that is no
option. -/
def StopsAt : Bool → List String → List String → Prop
  | true, stop, rest => stop = "--" :: rest
  | false, stop, rest =>
    stop = rest ∧ ∀ text ∈ rest.head?, text ≠ "--" ∧ looksLikeOption text = false

theorem readOptions_of_stopsAt {ended : Bool} {stop rest : List String}
    (h : StopsAt ended stop rest) (options : List CommandOption) (given : Given) :
    readOptions options given stop = .ok (given, ended, rest) := by
  cases ended with
  | true =>
    obtain rfl : stop = "--" :: rest := h
    simp [readOptions]
  | false =>
    obtain ⟨rfl, hhead⟩ : stop = rest ∧ _ := h
    cases stop with
    | nil => rfl
    | cons text more =>
      obtain ⟨hdash, hoption⟩ := hhead text rfl
      simp [readOptions, hdash, hoption]

theorem exists_optionsRead {options : List CommandOption} {given last : Given}
    {texts rest : List String} {ended : Bool}
    (h : readOptions options given texts = .ok (last, ended, rest)) :
    ∃ taken stop, OptionsRead options given taken last ∧ texts = taken ++ stop ∧
      StopsAt ended stop rest := by
  induction hlength : texts.length using Nat.strongRecOn generalizing given texts with
  | ind length ih =>
    cases texts with
    | nil =>
      obtain ⟨rfl, rfl, rfl⟩ : given = last ∧ false = ended ∧ [] = rest := by
        simpa [readOptions] using h
      exact ⟨[], [], .nil _, rfl, rfl, by simp⟩
    | cons text more =>
      by_cases hdash : text = "--"
      · obtain ⟨rfl, rfl, rfl⟩ : given = last ∧ true = ended ∧ more = rest := by
          simpa [readOptions, hdash] using h
        exact ⟨[], _, .nil _, rfl, by rw [hdash]; rfl⟩
      by_cases hoption : looksLikeOption text = true
      · obtain ⟨first, change, later, hone, htexts⟩ := exists_readsOption hdash hoption h
        rw [htexts, hone.read, Except.bind_eq_ok_iff] at h
        obtain ⟨next, hnext, hlater⟩ := h
        have hshorter : later.length < length := by
          have hfirst := List.length_pos_iff.mpr hone.nonempty
          rw [← hlength, htexts, List.length_append]
          omega
        obtain ⟨taken, stop, hread, hsplit, hstop⟩ := ih later.length hshorter hlater rfl
        refine ⟨first ++ taken, stop, .cons hone hnext hread, ?_, hstop⟩
        rw [htexts, hsplit, List.append_assoc]
      · obtain ⟨rfl, rfl, rfl⟩ : given = last ∧ false = ended ∧ text :: more = rest := by
          simpa [readOptions, hdash, hoption] using h
        refine ⟨[], _, .nil _, rfl, rfl, ?_⟩
        rintro _ ⟨⟩
        exact ⟨hdash, by simpa using hoption⟩

theorem readOptions_withFlag {options : List CommandOption} {given last : Given}
    {texts rest : List String} {ended : Bool}
    (h : readOptions options given texts = .ok (last, ended, rest)) {flag : Flag}
    (hnot : flag ∉ last.flags) :
    readOptions options (given.withFlag flag) texts = .ok (last.withFlag flag, ended, rest) := by
  obtain ⟨taken, stop, hread, rfl, hstop⟩ := exists_optionsRead h
  rw [(hread.withFlag hnot).readOptions_eq, readOptions_of_stopsAt hstop]

theorem readOptions_flags {options : List CommandOption} {given last : Given}
    {texts rest : List String} {ended : Bool}
    (h : readOptions options given texts = .ok (last, ended, rest)) : given.flags ⊆ last.flags := by
  obtain ⟨taken, stop, hread, -, -⟩ := exists_optionsRead h
  exact hread.flags

theorem length_le_of_readOptions {options : List CommandOption} {given last : Given}
    {texts rest : List String} {ended : Bool}
    (h : readOptions options given texts = .ok (last, ended, rest)) :
    rest.length ≤ texts.length := by
  obtain ⟨taken, stop, -, rfl, hstop⟩ := exists_optionsRead h
  have hle : rest.length ≤ stop.length := by
    cases ended with
    | true =>
      obtain rfl : stop = "--" :: rest := hstop
      simp
    | false => exact Nat.le_of_eq (congrArg List.length hstop.1).symm
  rw [List.length_append]
  omega

/-- All that is given behind a command's name, however many rounds it takes to read. -/
inductive BehindRead (options : List CommandOption) (takesFile : Bool) :
    Given → List String → Given → Prop
  | done {given last : Given} {texts : List String} {ended : Bool}
      (hread : readOptions options given texts = .ok (last, ended, [])) :
      BehindRead options takesFile given texts last
  | ended {given next last : Given} {texts : List String} {file : String}
      (hread : readOptions options given texts = .ok (next, true, [file]))
      (htakes : takesFile = true) (hfile : next.setFile file = .ok last) :
      BehindRead options takesFile given texts last
  | more {given next named last : Given} {texts rest : List String} {file : String}
      (hread : readOptions options given texts = .ok (next, false, file :: rest))
      (htakes : takesFile = true) (hfile : next.setFile file = .ok named)
      (hrest : BehindRead options takesFile named rest last) :
      BehindRead options takesFile given texts last

theorem readBehind_eq_ok_iff {options : List CommandOption} {takesFile : Bool} {rounds : Nat}
    {given last : Given} {texts : List String} (h : texts.length < rounds) :
    readBehind options takesFile rounds given texts = .ok last ↔
      BehindRead options takesFile given texts last := by
  induction rounds generalizing given texts with
  | zero => omega
  | succ rounds ih =>
    rw [readBehind, Except.bind_eq_ok_iff]
    constructor
    · rintro ⟨⟨next, ended, rest⟩, hread, hrun⟩
      have hlength := length_le_of_readOptions hread
      cases rest with
      | nil =>
        obtain rfl := Except.ok.inj hrun
        exact .done hread
      | cons file rest =>
        cases takesFile with
        | false => exact nomatch hrun
        | true =>
          obtain ⟨named, hfile, hrun⟩ := Except.bind_eq_ok_iff.mp hrun
          cases ended with
          | true =>
            cases rest with
            | nil =>
              obtain rfl := Except.ok.inj hrun
              exact .ended hread rfl hfile
            | cons => exact nomatch hrun
          | false =>
            rw [List.length_cons] at hlength
            exact .more hread rfl hfile ((ih (by omega)).mp hrun)
    · intro hbehind
      cases hbehind with
      | done hread => exact ⟨_, hread, rfl⟩
      | ended hread htakes hfile =>
        subst htakes
        exact ⟨_, hread, Except.bind_eq_ok_iff.mpr ⟨_, hfile, rfl⟩⟩
      | more hread htakes hfile hrest =>
        subst htakes
        have hlength := length_le_of_readOptions hread
        rw [List.length_cons] at hlength
        exact ⟨_, hread, Except.bind_eq_ok_iff.mpr ⟨_, hfile, (ih (by omega)).mpr hrest⟩⟩

namespace BehindRead

variable {options : List CommandOption} {takesFile : Bool} {given last : Given}
  {texts : List String}

theorem flags (h : BehindRead options takesFile given texts last) : given.flags ⊆ last.flags := by
  induction h with
  | done hread => exact readOptions_flags hread
  | ended hread _ hfile =>
    exact List.Subset.trans (readOptions_flags hread) ((isSteady_setFile _).flags hfile)
  | more hread _ hfile _ ih =>
    exact List.Subset.trans (readOptions_flags hread)
      (List.Subset.trans ((isSteady_setFile _).flags hfile) ih)

theorem withFlag (h : BehindRead options takesFile given texts last) {flag : Flag}
    (hnot : flag ∉ last.flags) :
    BehindRead options takesFile (given.withFlag flag) texts (last.withFlag flag) := by
  induction h with
  | done hread => exact .done (readOptions_withFlag hread hnot)
  | ended hread htakes hfile =>
    have hfile' := (isSteady_setFile _).withFlag hfile hnot
    have hnext := fun hmem => hnot ((isSteady_setFile _).flags hfile hmem)
    exact .ended (readOptions_withFlag hread hnext) htakes hfile'
  | more hread htakes hfile hrest ih =>
    have hnamed := fun hmem => hnot (hrest.flags hmem)
    have hfile' := (isSteady_setFile _).withFlag hfile hnamed
    have hnext := fun hmem => hnamed ((isSteady_setFile _).flags hfile hmem)
    exact .more (readOptions_withFlag hread hnext) htakes hfile' (ih hnot)

theorem append {next : Given} {taken : List String} (h : OptionsRead options given taken next)
    (hbehind : BehindRead options takesFile next texts last) :
    BehindRead options takesFile given (taken ++ texts) last := by
  cases hbehind with
  | done hread => exact .done ((h.readOptions_eq _).trans hread)
  | ended hread htakes hfile => exact .ended ((h.readOptions_eq _).trans hread) htakes hfile
  | more hread htakes hfile hrest =>
    exact .more ((h.readOptions_eq _).trans hread) htakes hfile hrest

end BehindRead

/-- The same command, but as a dry run if it transforms a file. -/
def Command.asDryRun : Command → Command
  | .transform file _ change? => .transform file true change?
  | command => command

def Invocation.asDryRun (invocation : Invocation) : Invocation :=
  { invocation with command := invocation.command.asDryRun }

theorem CommandName.command_withFlag (name : CommandName) (given : Given) :
    name.command (given.withFlag .dryRun) = (name.command given).map Command.asDryRun := by
  have hdry : (given.withFlag .dryRun).flags.contains .dryRun = true := by simp [Given.withFlag]
  have hpeers : (given.withFlag .dryRun).flags.contains .peers = given.flags.contains .peers := by
    simp [Given.withFlag]
  have hjson : (given.withFlag .dryRun).flags.contains .json = given.flags.contains .json := by
    simp [Given.withFlag]
  have hfile : (given.withFlag .dryRun).file? = given.file? := rfl
  have hline : (given.withFlag .dryRun).line? = given.line? := rfl
  have hdepth : (given.withFlag .dryRun).depth? = given.depth? := rfl
  cases name <;> simp only [command, hdry, hpeers, hjson, hfile, hline, hdepth] <;>
    cases given.file? <;> cases given.line? <;> cases given.depth? <;> rfl

/-- A command that transforms a file can be made a dry run, and is one if the flag is raised. -/
theorem CommandName.flag_of_transform {name : CommandName} {given : Given} {file : Path}
    {dryRun : Bool} {change? : Option Transform}
    (h : name.command given = .ok (.transform file dryRun change?)) :
    .flag .dryRun ∈ name.options ∧ given.flags.contains .dryRun = dryRun := by
  cases name <;> simp only [command, Except.bind_eq_ok_iff] at h
  case format =>
    obtain ⟨_, -, hmade⟩ := h
    cases Except.ok.inj hmade
    exact ⟨by decide, rfl⟩
  case headingToList | listToHeading =>
    obtain ⟨_, -, _, -, hmade⟩ := h
    cases Except.ok.inj hmade
    exact ⟨by decide, rfl⟩
  case headingDepth =>
    obtain ⟨_, -, _, -, _, -, hmade⟩ := h
    cases Except.ok.inj hmade
    exact ⟨by decide, rfl⟩
  case exportSections | state =>
    obtain ⟨_, -, _, -, hmade⟩ := h
    cases Except.ok.inj hmade
  case doctor => cases Except.ok.inj h

theorem optionsRead_dryRun {name : CommandName} (h : .flag .dryRun ∈ name.options) :
    OptionsRead (name.options ++ CommandOption.common) {} ["--dry-run"]
      (({} : Given).withFlag .dryRun) := by
  have hfind : (name.options ++ CommandOption.common).find? (·.long == "dry-run") =
      some (.flag .dryRun) := by
    cases name <;> first | rfl | simp [CommandName.options] at h
  have hlong : longOption "--dry-run" = ("dry-run", none) := by decide
  have hlooks : looksLikeOption "--dry-run" = true := by decide
  have hdashes : "--dry-run".startsWith "--" = true := by decide +kernel
  have hone : ReadsOption (name.options ++ CommandOption.common) ["--dry-run"]
      (·.raise (.flag .dryRun)) := by
    refine ⟨by simp, isSteady_raise _, ?_⟩
    intro given rest
    simp [readOptions, hlooks, hdashes, hlong, hfind]
  simpa using OptionsRead.cons hone rfl (.nil _)

theorem readInvocation_eq_ok_iff {texts : List String} {invocation : Invocation} :
    readInvocation texts = .ok invocation ↔
      ∃ front text rest name behind command,
        readOptions (.version :: CommandOption.common) {} texts = .ok (front, false, text :: rest) ∧
        text ≠ "help" ∧ CommandName.ofName? text = some name ∧
        BehindRead (name.options ++ CommandOption.common) name.takesFile {} rest behind ∧
        name.command behind = .ok command ∧ invocation = .ofGiven front behind command := by
  rw [readInvocation, Except.bind_eq_ok_iff]
  constructor
  · rintro ⟨⟨front, ended, rest⟩, hread, hrun⟩
    match ended, rest with
    | true, _ => exact nomatch hrun
    | false, [] => exact nomatch hrun
    | false, text :: rest =>
      by_cases hhelp : text = "help"
      · simp only [hhelp, if_true] at hrun
        exact nomatch hrun
      · simp only [hhelp, if_false, Except.bind_eq_ok_iff] at hrun
        obtain ⟨name, hname, behind, hbehind, command, hcommand, hmade⟩ := hrun
        have hname' : CommandName.ofName? text = some name := by
          cases hfound : CommandName.ofName? text <;> simp_all [required]
        exact ⟨front, text, rest, name, behind, command, hread, hhelp, hname',
          (readBehind_eq_ok_iff (Nat.lt_succ_self _)).mp hbehind, hcommand,
          (Except.ok.inj hmade).symm⟩
  · rintro ⟨front, text, rest, name, behind, command, hread, hhelp, hname, hbehind, hcommand, rfl⟩
    refine ⟨_, hread, ?_⟩
    simp only [hhelp, if_false, hname, required, Except.bind_eq_ok_iff]
    exact ⟨name, rfl, behind, (readBehind_eq_ok_iff (Nat.lt_succ_self _)).mpr hbehind, command,
      hcommand, rfl⟩

/-- A command line that transforms a file asks for a dry run with one more option in it. -/
theorem exists_dryRun_arguments {arguments : List String} {invocation : Invocation} {file : Path}
    {change? : Option Transform}
    (hrequest : Request.ofArguments? arguments = some (.run invocation))
    (hcommand : invocation.command = .transform file false change?) :
    ∃ front behind, arguments = front ++ behind ∧
      Request.ofArguments? (front ++ "--dry-run" :: behind) = some (.run invocation.asDryRun) := by
  have hread : readInvocation arguments = .ok invocation := by
    unfold Request.ofArguments? at hrequest
    split at hrequest <;> simp_all
  obtain ⟨front, text, rest, name, behind, command, hfront, hhelp, hname, hbehind, hmade, rfl⟩ :=
    readInvocation_eq_ok_iff.mp hread
  obtain rfl : command = .transform file false change? := hcommand
  obtain ⟨hoption, hraised⟩ := CommandName.flag_of_transform hmade
  have hnot : .dryRun ∉ behind.flags := by simpa using hraised
  obtain ⟨taken, stop, htaken, rfl, hstop⟩ := exists_optionsRead hfront
  obtain ⟨rfl, hhead⟩ : stop = text :: rest ∧ _ := hstop
  refine ⟨taken ++ [text], rest, by simp, ?_⟩
  have hstop' : StopsAt false (text :: "--dry-run" :: rest) (text :: "--dry-run" :: rest) :=
    ⟨rfl, hhead⟩
  have hfront' : readOptions (.version :: CommandOption.common) {}
      (taken ++ text :: "--dry-run" :: rest) = .ok (front, false, text :: "--dry-run" :: rest) := by
    rw [htaken.readOptions_eq, readOptions_of_stopsAt hstop']
  have hbehind' := BehindRead.append (optionsRead_dryRun hoption) (hbehind.withFlag hnot)
  have hmade' : name.command (behind.withFlag .dryRun) = .ok (.transform file true change?) := by
    rw [name.command_withFlag, hmade]
    rfl
  have hread' := readInvocation_eq_ok_iff.mpr ⟨front, text, _, name, _, _, hfront', hhelp, hname,
    hbehind', hmade', rfl⟩
  rw [List.append_assoc, List.singleton_append, Request.ofArguments?, hread']
  simp [Invocation.asDryRun, Command.asDryRun, Invocation.ofGiven, Given.withFlag]

end MarkdownOutline
