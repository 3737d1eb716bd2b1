import MarkdownOutline.Markdown.Draft
import MarkdownOutline.Text.Blank
import MarkdownOutline.Text.Ascii

/-!
# The starts of blocks

What the text of a line, its indentation taken off, opens: a heading, a line under a heading, a
thematic break, a code fence or a list item.
-/

namespace MarkdownOutline.Markdown

open Text

def restIsBlank (s : List Char) : Bool :=
  match s.dropWhile isSpaceOrTab with
  | [] => true
  | c :: _ => isLineEnd c

def hashHeading? (s : List Char) : Option (Nat × List Char) :=
  let level := (s.takeWhile (· == '#')).length
  let rest := s.dropWhile (· == '#')
  if 1 ≤ level && level ≤ 6 && rest.head?.all isSpacing then
    some (level, rest.dropWhile isSpaceOrTab)
  else none

/-- The text of a heading without the hash signs that close it. -/
def dropClosingHashes (s : List Char) : List Char :=
  let text := dropTrailing isSpacing s
  let kept := dropTrailing (· == '#') text
  match kept.getLast? with
  | none => []
  | some c =>
    if kept.length < text.length && isSpaceOrTab c then dropTrailing isSpacing kept else text

/-- The level of the heading that a line of equals signs or dashes makes of the paragraph above
it. -/
def underlineLevel? (s : List Char) : Option Nat :=
  match s with
  | '=' :: rest => if restIsBlank (rest.dropWhile (· == '=')) then some 1 else none
  | '-' :: rest => if restIsBlank (rest.dropWhile (· == '-')) then some 2 else none
  | _ => none

/-- Three or more of one of `*`, `_` and `-`, and spaces. -/
def isThematicBreak (s : List Char) : Bool :=
  match s with
  | c :: _ =>
    let marks := s.takeWhile fun d => d == c || isSpaceOrTab d
    (c == '*' || c == '_' || c == '-') && marks.count c ≥ 3 &&
      (s.drop marks.length).head?.any isLineEnd
  | [] => false

/-- The mark and length of the fence that opens a code block, and the text after it. -/
def openingFence? (s : List Char) : Option (Char × Nat × List Char) :=
  match s with
  | c :: _ =>
    let length := (s.takeWhile (· == c)).length
    let rest := s.dropWhile (· == c)
    if length < 3 then none
    else if c == '~' || (c == '\x60' && !rest.contains '\x60') then some (c, length, rest)
    else none
  | [] => none

def isClosingFence (fence : Char) (length : Nat) (s : List Char) : Bool :=
  (s.takeWhile (· == fence)).length ≥ length && restIsBlank (s.dropWhile (· == fence))

def maxNumberLength : Nat := 9

/-- The marker of a list item, its width, and the text after it. Inside a paragraph only an item
with content starts a list, and of the numbers only 1. -/
def listMarker? (inParagraph : Bool) (s : List Char) : Option (ListMarker × Nat × List Char) :=
  match s with
  | [] => none
  | c :: rest =>
    if c == '*' || c == '-' || c == '+' then
      if rest.head?.any isSpacing && !(inParagraph && restIsBlank rest) then
        some (.bullet c, 1, rest)
      else none
    else
      let digits := s.takeWhile Char.isDigit
      let number := decimalValue digits
      match s.dropWhile Char.isDigit with
      | d :: after =>
        if 1 ≤ digits.length && digits.length ≤ maxNumberLength && (d == '.' || d == ')') &&
            after.head?.any isSpacing && !(inParagraph && (number != 1 || restIsBlank after)) then
          some (.number number (if d == '.' then .period else .paren), digits.length + 1, after)
        else none
      | [] => none

end MarkdownOutline.Markdown
