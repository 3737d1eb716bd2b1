import MarkdownOutline.Document.Basic
import MarkdownOutline.Text.Blank
import MarkdownOutline.Text.Ascii

/-!
# Table rows

A row is a line of cells between pipes. The row below the header, of dashes and colons, makes a
table of the header and gives every column its alignment.
-/

namespace MarkdownOutline.Markdown

open Text

/-- The cells of a row, and the number of characters in front of the row. -/
structure TableRow where
  offset : Nat
  cells : List (List Char)

private def takeCell : Bool → List Char → List Char
  | _, [] => []
  | escaped, c :: rest =>
    if isLineEnd c || (c == '|' && !escaped) then []
    else c :: takeCell (c == '\\') rest

def unescapePipes : List Char → List Char
  | [] => []
  | [c] => [c]
  | c :: d :: rest =>
    if c == '\\' && d == '|' then unescapePipes (d :: rest) else c :: unescapePipes (d :: rest)

private def skipPipe (s : List Char) : List Char :=
  match s with
  | '|' :: rest => rest.dropWhile isCellSpace
  | _ => s

private def skipLineEnd? (s : List Char) : Option (List Char) :=
  match s.dropWhile isCellSpace with
  | '\n' :: rest => some rest
  | _ => none

/-- The last row of the text, with the cells read so far in reverse. -/
private def lastRow (whole : List Char) : Nat → Nat → List (List Char) → List Char → Option TableRow
  | 0, _, _, _ => none
  | fuel + 1, offset, cells, s =>
    let cell := takeCell false s
    let afterCell := s.drop cell.length
    let afterPipe := skipPipe afterCell
    let hasPipe := afterCell.head? == some '|'
    let cells :=
      if cell.isEmpty && !hasPipe then cells else trimBy isSpacing (unescapePipes cell) :: cells
    let finished := if cells.isEmpty then none else some ⟨offset, cells.reverse⟩
    if hasPipe then
      if afterPipe.isEmpty then finished else lastRow whole fuel offset cells afterPipe
    else match skipLineEnd? afterCell with
      | some [] => finished
      | some rest => lastRow whole fuel (whole.length - rest.length) [] (skipPipe rest)
      | none => if afterCell.isEmpty then finished else none

/-- The last of the lines as a row of a table; every line before it has to be one too. -/
def tableRow? (s : List Char) : Option TableRow :=
  if s.isEmpty then none else lastRow s (s.length + 1) 0 [] (skipPipe s)

/-- The alignment that a cell of dashes gives its column, if it is one. -/
private def columnAlignment? (cell : List Char) : Option Alignment :=
  let cell := trimBy isCellSpace cell
  let left := cell.head? == some ':'
  let inner := if left then cell.drop 1 else cell
  let right := inner.getLast? == some ':'
  let dashes := if right then inner.dropLast else inner
  if dashes.isEmpty || dashes.any (· != '-') then none
  else match left, right with
    | true, true => some .center
    | true, false => some .left
    | false, true => some .right
    | false, false => some .none

/-- The alignments of the columns, if the line is the row below a header. -/
def columnAlignments? (line : List Char) : Option (List Alignment) :=
  if line.getLast? == some '\n' then
    let row := dropTrailing isCellSpace line.dropLast
    let row := if row.head? == some '|' then row.drop 1 else row
    let row := if row.getLast? == some '|' then row.dropLast else row
    (splitAt '|' row).mapM columnAlignment?
  else none

end MarkdownOutline.Markdown
