import MarkdownOutline.Settings.Environment
import MarkdownOutline.Text.Alphanumeric

/-!
# Expanding paths

Variables and the home folder in a path that is written in the settings. A variable is written
as a dollar sign with its name, in braces if need be; in braces a default may follow the name.
-/

namespace MarkdownOutline

open Text

/-- Part of a text with variables in it. -/
inductive PathPiece where
  | char (c : Char)
  | variable (name : String) (default? : Option String)
  deriving DecidableEq

def isNameChar (c : Char) : Bool := isAlphanumeric c || c == '_'

/-- The variable that the inside of braces stands for. A default stands behind a colon and a dash
that have a name before them. -/
def bracedVariable (inside : List Char) : PathPiece :=
  match beforeDefault inside with
  | some (name, default) =>
    if name.isEmpty then .variable (String.ofList inside) none
    else .variable (String.ofList name) (some (String.ofList default))
  | none => .variable (String.ofList inside) none
where
  /-- What stands in front of the first colon with a dash, and behind it. -/
  beforeDefault : List Char → Option (List Char × List Char)
    | [] => none
    | ':' :: '-' :: rest => some ([], rest)
    | c :: rest => (beforeDefault rest).map fun (name, default) => (c :: name, default)

/-- The pieces of a text. Two dollar signs stand for one; one that starts no variable stands for
itself. -/
def pathPieces (s : List Char) : List PathPiece :=
  match s with
  | [] => []
  | '$' :: '$' :: rest => .char '$' :: pathPieces rest
  | '$' :: '\x7b' :: rest =>
    let inside := rest.takeWhile (· != '\x7d')
    if inside.length < rest.length then
      bracedVariable inside :: pathPieces (rest.drop (inside.length + 1))
    else .char '$' :: .char '\x7b' :: pathPieces rest
  | '$' :: rest =>
    if rest.head?.any isNameChar then
      .variable (String.ofList (rest.takeWhile isNameChar)) none ::
        pathPieces (rest.dropWhile isNameChar)
    else .char '$' :: pathPieces rest
  | c :: rest => .char c :: pathPieces rest
termination_by s.length
decreasing_by
  all_goals simp only [List.length_cons, List.length_drop]
  any_goals omega
  exact Nat.lt_succ_of_le (List.dropWhile_sublist _).length_le

/-- A tilde in front of the text, alone or before a slash, replaced by the home folder. -/
def expandHome (home? : Option String) (s : List Char) : List Char :=
  match home?, s with
  | some home, ['~'] => home.toList
  | some home, '~' :: '/' :: rest => home.toList ++ '/' :: rest
  | _, s => s

variable {m : Type → Type} [Monad m] [MonadEnvironment m]

/-- The text of a piece. A variable that is not set stands for its default, or for nothing that
has a text. -/
def PathPiece.expand? : PathPiece → m (Option (List Char))
  | .char c => return some [c]
  | .variable name default? => do
    return ((← MonadEnvironment.lookup? name).or default?).map String.toList

/-- The path with its variables replaced, and the home folder if the path was written with a
tilde in front; none if a variable without default is not set. -/
def expandPath? (path : Path) : m (Option Path) := do
  let texts ← (pathPieces path.text.toList).mapM PathPiece.expand?
  match texts.mapM id with
  | none => return none
  | some texts =>
    let text := texts.flatten
    if path.text.toList.head? == some '~' then
      return some ⟨String.ofList (expandHome (← home?) text)⟩
    else return some ⟨String.ofList text⟩

end MarkdownOutline
