import MarkdownOutline.Command.Run

/-!
# The program

Commands run on the files and the environment of the machine.
-/

namespace MarkdownOutline

def FileError.ofSystem : IO.Error → FileError
  | .noFileOrDirectory .. => .notFound
  | .alreadyExists .. => .alreadyExists
  | .inappropriateType _ code details => ofCode code details
  | .illegalOperation code details => ofCode code details
  | .invalidArgument _ code details => ofCode code details
  | failure => .other (toString failure)
where
  ofCode (code : UInt32) (details : String) : FileError :=
    if code = 17 then .alreadyExists
    else if code = 20 then .notFolder
    else if code = 21 then .isFolder
    else if code = 36 then .nameTooLong
    else .other (details ++ " (os error " ++ Nat.repr code.toNat ++ ")")

def attempt {α : Type} (action : IO α) : IO (Except FileError α) := do
  try return .ok (← action)
  catch failure => return .error (.ofSystem failure)

instance : MonadFiles IO where
  readText path := do
    match ← attempt (IO.FS.readBinFile path.text) with
    | .error cause => return .error cause
    | .ok bytes => match FileContent.ofBytes bytes with
      | .text value => return .ok value
      | .binary _ => return .error .notText
  writeText path value := attempt (IO.FS.writeFile path.text value)
  makeFolder path := attempt (IO.FS.createDir path.text)
  folderNames path := attempt do
    let folder ← IO.FS.realPath path.text
    return (← folder.readDir).toList.map (·.fileName)
  kind? path := do
    if path.text.isEmpty then return none
    match ← attempt (IO.FS.realPath path.text) with
    | .error _ => return none
    | .ok found =>
      if ← found.isDir then return some .folder
      match ← attempt found.metadata with
      | .error _ => return none
      | .ok data => return some (if data.type matches .file then .file else .other)

instance : MonadEnvironment IO where
  lookup? name := IO.getEnv name
  accountHome? := return none

end MarkdownOutline

/-- Runs the command that the arguments ask for, and prints what it has to say. -/
def main (arguments : List String) : IO UInt32 := do
  let outcome ← (MarkdownOutline.runArguments arguments : IO MarkdownOutline.Outcome)
  (← IO.getStdout).putStr outcome.output
  (← IO.getStderr).putStr outcome.errors
  return outcome.code.toUInt32
