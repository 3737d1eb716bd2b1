import MarkdownOutline.Files.Path

/-!
# Environment

The variables and the home folder that a program is run with, and the folder that settings are
kept in.
-/

namespace MarkdownOutline

/-- Access to the environment. The account has a home folder of its own, which counts if the
variables name none. -/
class MonadEnvironment (m : Type → Type) where
  lookup? : String → m (Option String)
  accountHome? : m (Option String)

structure Environment where
  bindings : List (String × String) := []
  accountHome? : Option String := none

def Environment.lookup? (environment : Environment) (name : String) : Option String :=
  environment.bindings.lookup name

instance {m : Type → Type} [Monad m] : MonadEnvironment (ReaderT Environment m) where
  lookup? name := return (← read).lookup? name
  accountHome? := return (← read).accountHome?

variable {m : Type → Type} [Monad m] [MonadEnvironment m]

def home? : m (Option String) := do
  match ← MonadEnvironment.lookup? "HOME" with
  | some home => if home.isEmpty then MonadEnvironment.accountHome? else return some home
  | none => MonadEnvironment.accountHome?

/-- The file that settings are read from if no other is named. -/
def defaultSettingsPath : m Path := do
  let folder ← do
    match ← MonadEnvironment.lookup? "XDG_CONFIG_HOME" with
    | some folder => pure ⟨folder⟩
    | none => pure (Path.join ⟨(← home?).getD "~"⟩ ".config")
  return (folder.join "mdrefactor").join "config.toml"

end MarkdownOutline
