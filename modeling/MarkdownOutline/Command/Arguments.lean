import MarkdownOutline.Files.Path
import MarkdownOutline.Outline.Session

/-!
# Command lines

A command line names a command, with options before and behind its name. What one command line
asks for is read from left to right; the first fault makes it a wrong usage as a whole.
-/

namespace MarkdownOutline

open Text

/-- What is done to a file, or asked about one. -/
inductive Command where
  | transform (file : Path) (dryRun : Bool) (change? : Option Transform)
  | exportSections (file : Path) (line : Nat) (peers : Bool)
  | state (file : Path) (line : Nat) (json : Bool)
  | doctor

/-- A command with the settings that the command line gives it. -/
structure Invocation where
  config? : Option Path := none
  indexFrom? : Option IndexFrom := none
  lists? : Option ListNumbering := none
  verbose : Bool := false
  command : Command

/-- What a command line asks for. -/
inductive Request where
  | run (invocation : Invocation)
  | version
  | help

inductive CommandName where
  | format
  | headingToList
  | listToHeading
  | headingDepth
  | exportSections
  | state
  | doctor
  deriving DecidableEq

inductive Flag where
  | verbose
  | dryRun
  | peers
  | json
  deriving DecidableEq

inductive Setting where
  | config
  | indexFrom
  | listMethod
  | line
  | depth
  deriving DecidableEq

inductive CommandOption where
  | flag (flag : Flag)
  | setting (setting : Setting)
  | version
  | help
  deriving DecidableEq

/-- The options and the file that a command line gives at one level: in front of the command's name
or behind it. -/
structure Given where
  config? : Option Path := none
  indexFrom? : Option IndexFrom := none
  lists? : Option ListNumbering := none
  line? : Option Nat := none
  depth? : Option Nat := none
  flags : List Flag := []
  file? : Option Path := none

/-- Why a command line asks for nothing to be run. -/
inductive Halt where
  | wrongUsage
  | version
  | help
  deriving DecidableEq

namespace CommandName

def all : List (String × CommandName) := [("format", format), ("heading-to-list", headingToList),
  ("list-to-heading", listToHeading), ("heading-depth", headingDepth), ("export", exportSections),
  ("state", state), ("doctor", doctor)]

def ofName? (name : String) : Option CommandName := all.lookup name

/-- The options of a command besides those that every command has. -/
def options : CommandName → List CommandOption
  | format => [.flag .dryRun]
  | headingToList => [.flag .dryRun, .setting .line, .flag .peers]
  | listToHeading => [.flag .dryRun, .setting .line]
  | headingDepth => [.flag .dryRun, .setting .line, .flag .peers, .setting .depth]
  | exportSections => [.setting .line, .flag .peers]
  | state => [.setting .line, .flag .json]
  | doctor => []

def takesFile : CommandName → Bool
  | doctor => false
  | _ => true

end CommandName

namespace CommandOption

def long : CommandOption → String
  | flag .verbose => "verbose"
  | flag .dryRun => "dry-run"
  | flag .peers => "peers"
  | flag .json => "json"
  | setting .config => "config"
  | setting .indexFrom => "index-from"
  | setting .listMethod => "list-method"
  | setting .line => "line"
  | setting .depth => "depth"
  | version => "version"
  | help => "help"

def short? : CommandOption → Option Char
  | flag .verbose => some 'v'
  | version => some 'V'
  | help => some 'h'
  | _ => none

/-- The options that stand in front of a command's name and behind it. -/
def common : List CommandOption :=
  [setting .config, setting .indexFrom, setting .listMethod, flag .verbose, help]

end CommandOption

/-- The number that a text writes in decimal digits, with a plus sign in front if any. -/
def unsignedNumber? (text : String) : Option Nat :=
  let digits := match text.toList with
    | '+' :: digits => digits
    | digits => digits
  if !digits.isEmpty && digits.all Char.isDigit then some (decimalValue digits) else none

def numberWithin? (least greatest : Nat) (text : String) : Option Nat :=
  (unsignedNumber? text).filter fun n => least ≤ n && n ≤ greatest

def maxLine : Nat := UInt64.size - 1

/-- The path that a text names. An empty text names none. -/
def pathArgument? (text : String) : Option Path := if text.isEmpty then none else some ⟨text⟩

/-- The text stands for an option and not for a value. A dash alone is a value. -/
def looksLikeOption (text : String) : Bool :=
  match text.toList with
  | '-' :: _ :: _ => true
  | _ => false

namespace Given

/-- A value that has not been given before. -/
def once {α : Type} (before? : Option α) (value? : Option α) : Except Halt (Option α) :=
  match before?, value? with
  | none, some value => .ok (some value)
  | _, _ => .error .wrongUsage

/-- What is given with one more option that has a value. -/
def set (given : Given) (setting : Setting) (text : String) : Except Halt Given := do
  match setting with
  | .config => return { given with config? := ← once given.config? (pathArgument? text) }
  | .indexFrom =>
    let level? := (numberWithin? 1 (maxHeadingDepth + 1) text).bind fun n => (IndexFrom.ofNat n).toOption
    return { given with indexFrom? := ← once given.indexFrom? level? }
  | .listMethod => return { given with lists? := ← once given.lists? (some (.ofName text)) }
  | .line => return { given with line? := ← once given.line? (numberWithin? 0 maxLine text) }
  | .depth =>
    return { given with depth? := ← once given.depth? (numberWithin? 1 maxHeadingDepth text) }

/-- What is given with one more option that has no value. -/
def raise (given : Given) : CommandOption → Except Halt Given
  | .flag flag =>
    if given.flags.contains flag then .error .wrongUsage
    else .ok { given with flags := flag :: given.flags }
  | .setting _ => .error .wrongUsage
  | .version => .error .version
  | .help => .error .help

def raiseAll (given : Given) (options : List CommandOption) (letters : List Char) :
    Except Halt Given :=
  letters.foldlM (fun given letter =>
    match options.find? (·.short? == some letter) with
    | some option => given.raise option
    | none => .error .wrongUsage) given

def setFile (given : Given) (text : String) : Except Halt Given := do
  return { given with file? := ← once given.file? (pathArgument? text) }

end Given

/-- The name of a long option, and the value behind an equals sign if there is one. -/
def longOption (text : String) : String × Option String :=
  let (name, value) := (text.toList.drop 2).span (· != '=')
  (String.ofList name, if value.isEmpty then none else some (String.ofList (value.drop 1)))

/-- Options read from the front of a command line, up to the first text that is none, with which
the rest starts. Two dashes end the options too; the flag tells whether they stood there. -/
def readOptions (options : List CommandOption) (given : Given) :
    List String → Except Halt (Given × Bool × List String)
  | [] => .ok (given, false, [])
  | text :: rest =>
    if text = "--" then .ok (given, true, rest)
    else if !looksLikeOption text then .ok (given, false, text :: rest)
    else if text.startsWith "--" then
      let (name, value?) := longOption text
      match options.find? (·.long == name), value?, rest with
      | none, _, _ => .error .wrongUsage
      | some (.setting setting), some value, rest => do
        readOptions options (← given.set setting value) rest
      | some (.setting setting), none, value :: rest =>
        if looksLikeOption value then .error .wrongUsage
        else do readOptions options (← given.set setting value) rest
      | some (.setting _), none, [] => .error .wrongUsage
      | some _, some _, _ => .error .wrongUsage
      | some option, none, rest => do readOptions options (← given.raise option) rest
    else do readOptions options (← given.raiseAll options (text.toList.drop 1)) rest

/-- All that is given behind a command's name. Each round reads options and one file. -/
def readBehind (options : List CommandOption) (takesFile : Bool) :
    Nat → Given → List String → Except Halt Given
  | 0, given, _ => .ok given
  | rounds + 1, given, texts => do
    match ← readOptions options given texts with
    | (given, _, []) => return given
    | (given, ended, file :: rest) =>
      if !takesFile then throw .wrongUsage
      let given ← given.setFile file
      if ended then
        if rest.isEmpty then return given else throw .wrongUsage
      readBehind options takesFile rounds given rest

def required {α : Type} : Option α → Except Halt α
  | some value => .ok value
  | none => .error .wrongUsage

/-- The command that a name and what is given with it stand for. -/
def CommandName.command (name : CommandName) (given : Given) : Except Halt Command := do
  let dryRun := given.flags.contains .dryRun
  let peers := given.flags.contains .peers
  match name with
  | .format => return .transform (← required given.file?) dryRun none
  | .headingToList =>
    return .transform (← required given.file?) dryRun
      (some (.headingToList (← required given.line?) peers))
  | .listToHeading =>
    return .transform (← required given.file?) dryRun (some (.listToHeading (← required given.line?)))
  | .headingDepth =>
    return .transform (← required given.file?) dryRun
      (some (.headingDepth (← required given.line?) (← required given.depth?) peers))
  | .exportSections =>
    return .exportSections (← required given.file?) (← required given.line?) peers
  | .state =>
    return .state (← required given.file?) (← required given.line?) (given.flags.contains .json)
  | .doctor => return .doctor

/-- The invocation for a command. What is given behind its name counts more than what is given in
front of it. -/
def Invocation.ofGiven (front behind : Given) (command : Command) : Invocation where
  config? := behind.config?.or front.config?
  indexFrom? := behind.indexFrom?.or front.indexFrom?
  lists? := behind.lists?.or front.lists?
  verbose := front.flags.contains .verbose || behind.flags.contains .verbose
  command := command

def readInvocation (texts : List String) : Except Halt Invocation := do
  match ← readOptions (.version :: CommandOption.common) {} texts with
  | (front, false, name :: rest) =>
    if name = "help" then throw (if isHelpTopic rest then .help else .wrongUsage)
    let name ← required (CommandName.ofName? name)
    let options := name.options ++ CommandOption.common
    let behind ← readBehind options name.takesFile (rest.length + 1) {} rest
    return .ofGiven front behind (← name.command behind)
  | _ => throw .wrongUsage
where
  /-- Help can be had on the program as a whole, or on one command. -/
  isHelpTopic : List String → Bool
    | [] => true
    | [name] => name = "help" || (CommandName.ofName? name).isSome
    | _ => false

/-- What a command line asks for; none if it is wrong. -/
def Request.ofArguments? (texts : List String) : Option Request :=
  match readInvocation texts with
  | .ok invocation => some (.run invocation)
  | .error .version => some .version
  | .error .help => some .help
  | .error .wrongUsage => none

end MarkdownOutline
