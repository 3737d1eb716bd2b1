import MarkdownOutline.Text.NamedCharacter

/-!
# Character references and backslash escapes

The two ways to write a character that does not stand for itself: by name or number between `&`
and `;`, and by a backslash in front of it.
-/

namespace MarkdownOutline.Markdown

open Text

/-- The character with a number. The replacement character stands for the numbers that are no
characters, for zero, and for the first number after the surrogates. -/
def charOfNumber (n : Nat) : Char :=
  if n == 0 || n == 0xe000 || !n.isValidChar then '\ufffd' else Char.ofNat n

def maxReferenceDigits : Nat := 7

/-- The character written by digits and a semicolon, and the text after it. -/
private def numberReference? (isDigit : Char → Bool) (base : Nat) (s : List Char) :
    Option (List Char × List Char) :=
  let digits := s.takeWhile isDigit
  match s.dropWhile isDigit with
  | ';' :: rest =>
    if 1 ≤ digits.length && digits.length ≤ maxReferenceDigits then
      some ([charOfNumber (numberValue base digits)], rest)
    else none
  | _ => none

def maxReferenceLength : Nat := 32

/-- The text that the reference after an `&` stands for, and what follows the reference. -/
def characterReference? (s : List Char) : Option (List Char × List Char) :=
  match s with
  | '#' :: 'x' :: digits | '#' :: 'X' :: digits => numberReference? isHexDigit 16 digits
  | '#' :: digits => numberReference? Char.isDigit 10 digits
  | _ =>
    let name := s.takeWhile fun c => c != ' ' && c != ';'
    match s.dropWhile fun c => c != ' ' && c != ';' with
    | ';' :: rest =>
      if name.length < maxReferenceLength then
        (namedCharacter? name).map fun value => (value, rest)
      else none
    | _ => none

private def expandReferences : Nat → List Char → List Char
  | 0, s => s
  | _, [] => []
  | fuel + 1, c :: rest =>
    if c == '&' then
      match characterReference? rest with
      | some (value, after) => value ++ expandReferences fuel after
      | none => c :: expandReferences fuel rest
    else c :: expandReferences fuel rest

def resolveReferences (s : List Char) : List Char := expandReferences s.length s

def resolveEscapes : List Char → List Char
  | [] => []
  | [c] => [c]
  | c :: d :: rest =>
    if c == '\\' && isAsciiPunctuation d then d :: resolveEscapes rest
    else c :: resolveEscapes (d :: rest)

def resolve (s : List Char) : List Char := resolveEscapes (resolveReferences s)

end MarkdownOutline.Markdown
