import MarkdownOutline.Markdown.MarkupWriter

/-!
# Writing documents

Blocks are separated by blank lines. Lists are written with dashes or numbers, and what an item
holds below its first line is indented by tabs. Two neighbouring lists of one kind take turns with
a second marker, since they would read as one list otherwise.
-/

namespace MarkdownOutline

open Markdown Text

def Inline.toMarkup : Inline → Markup
  | .text value => .node (.text value) []
  | .softBreak => .leaf .softBreak
  | .lineBreak => .leaf .lineBreak
  | .other m => m

def isNumberChar (c : Char) : Bool := c.isDigit || c == '.' || c == ' '

/-- The text of a heading's first inline: the number in front of the title is written as it
stands, since it starts no list there, and empty texts are left out. -/
def titleMarkup (text : List Char) : List Markup :=
  let number := text.takeWhile isNumberChar
  let title := text.dropWhile isNumberChar
  (if number.isEmpty then [] else [.leaf (.verbatim (String.ofList number))]) ++
    (if title.isEmpty then [] else [.text title])

def headingMarkup : List Inline → List Markup
  | .text value :: rest => titleMarkup value.toList ++ rest.map Inline.toMarkup
  | content => content.map Inline.toMarkup

def writtenDepth (depth : Nat) : Nat := min (max depth 1) maxHeadingDepth

def Heading.toText (heading : Heading) : List Char :=
  trimEnd (markupText
    (.node (.heading (writtenDepth heading.depth)) (headingMarkup heading.content)))

def Paragraph.toText (paragraph : Paragraph) : List Char :=
  markupText (.node .paragraph (paragraph.content.map Inline.toMarkup))

/-- The marker of a list item with a number. Lists next to each other alternate their markers. -/
def itemMarker (ordered alternate : Bool) (number : Nat) : List Char :=
  match ordered, alternate with
  | true, false => Nat.toDigits 10 number ++ ['.']
  | true, true => Nat.toDigits 10 number ++ [')']
  | false, false => ['-']
  | false, true => ['*']

/-- The lines after the first one of an item, each on a line of its own. Lines that are not empty
are indented. -/
def indentLines (indent : List Char) (lines : List (List Char)) : List Char :=
  lines.flatMap fun line => '\n' :: if line.isEmpty then [] else indent ++ line

def itemIndent (marker : List Char) : List Char :=
  List.replicate (marker.length / 4 + 1) '\t'

def writeItem (marker body : List Char) : List Char :=
  match lineContents body with
  | [] => marker
  | first :: rest => marker ++ ' ' :: first ++ indentLines (itemIndent marker) rest

/-- What was written before a block: nothing, a list of a kind with one of the two markers, or
another block. -/
inductive Preceding where
  | nothing
  | list (ordered alternate : Bool)
  | other
  deriving DecidableEq

/-- The second marker is used for a list right after a list of its kind with the first one. -/
def Preceding.alternates (preceding : Preceding) : Block → Bool
  | .list l => preceding == .list l.ordered false
  | _ => false

def Preceding.ofBlock (alternate : Bool) : Block → Preceding
  | .list l => .list l.ordered alternate
  | _ => .other

theorem Preceding.ofBlock_ne_nothing (alternate : Bool) (block : Block) :
    Preceding.ofBlock alternate block ≠ .nothing := by cases block <;> simp [ofBlock]

/-- What separates a block from the one before it: a list continues a tight item on the next line,
and everything else comes after a blank line. -/
def blockSeparator (preceding : Preceding) (tight : Bool) (next : Block) : List Char :=
  if preceding = .nothing then []
  else if tight && next.list?.isSome then ['\n'] else ['\n', '\n']

mutual

def writeBlock (alternate : Bool) : Block → List Char
  | .heading h => h.toText
  | .paragraph p => p.toText
  | .list l => writeList alternate l
  | .other m _ => markupText m

def writeList (alternate : Bool) : ListBlock → List Char
  | .mk ordered start tight items _ => writeItems ordered alternate tight start items

/-- The items of a list as text, numbered from a number on. -/
def writeItems (ordered alternate tight : Bool) (number : Nat) : List Item → List Char
  | [] => []
  | .mk children _ :: rest =>
    let item := writeItem (itemMarker ordered alternate number) (writeBlocks tight .nothing children)
    match rest with
    | [] => item
    | _ :: _ =>
      item ++ (if tight then ['\n'] else ['\n', '\n']) ++
        writeItems ordered alternate tight (number + 1) rest

/-- A sequence of blocks as text. A block without any text, such as a list without items, is left
out as if it were not there. -/
def writeBlocks (tight : Bool) (preceding : Preceding) : List Block → List Char
  | [] => []
  | block :: rest =>
    let alternate := preceding.alternates block
    let text := writeBlock alternate block
    if text.isEmpty then writeBlocks tight preceding rest
    else blockSeparator preceding tight block ++ text ++
      writeBlocks tight (.ofBlock alternate block) rest

end

def Document.toMarkdown (document : Document) : String :=
  let body := writeBlocks false .nothing document
  if body.isEmpty then "" else String.ofList (body ++ ['\n'])

end MarkdownOutline
