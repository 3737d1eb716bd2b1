import MarkdownOutline.Text.Ascii

/-!
# The place in a line

Containers take their share of a line from the left, measured in columns, with a tab reaching to
the next multiple of four. A tab can be shared between two containers: the outer one takes some
of its columns and the rest still counts as indentation.
-/

namespace MarkdownOutline.Markdown

open Text

/-- What is left of a line, the column it starts at, and whether the tab it starts with has
already lost some of its columns. -/
structure Cursor where
  rest : List Char
  column : Nat := 0
  splitTab : Bool := false

def columnsToTab (column : Nat) : Nat := 4 - column % 4

namespace Cursor

def takeColumns : List Char → Nat → Nat → Bool → Cursor
  | [], column, _, split => ⟨[], column, split⟩
  | rest, column, 0, split => ⟨rest, column, split⟩
  | c :: rest, column, count + 1, _ =>
    if c == '\t' then
      if columnsToTab column > count + 1 then ⟨c :: rest, column + (count + 1), true⟩
      else takeColumns rest (column + columnsToTab column) (count + 1 - columnsToTab column) false
    else takeColumns rest (column + 1) count false

def advanceColumns (cursor : Cursor) (count : Nat) : Cursor :=
  takeColumns cursor.rest cursor.column count cursor.splitTab

def takeChars : List Char → Nat → Nat → Bool → Cursor
  | [], column, _, split => ⟨[], column, split⟩
  | rest, column, 0, split => ⟨rest, column, split⟩
  | c :: rest, column, count + 1, _ =>
    takeChars rest (column + if c == '\t' then columnsToTab column else 1) count false

def advanceChars (cursor : Cursor) (count : Nat) : Cursor :=
  takeChars cursor.rest cursor.column count cursor.splitTab

/-- The columns of spaces and tabs that stand first in a text that starts at a column. -/
def leadingColumns : List Char → Nat → Nat
  | [], _ => 0
  | c :: rest, column =>
    if c == ' ' then leadingColumns rest (column + 1) + 1
    else if c == '\t' then
      leadingColumns rest (column + columnsToTab column) + columnsToTab column
    else 0

/-- The columns of spaces and tabs that stand first. -/
def indent (cursor : Cursor) : Nat := leadingColumns cursor.rest cursor.column

def indentChars (cursor : Cursor) : Nat := (cursor.rest.takeWhile isSpaceOrTab).length

def text (cursor : Cursor) : List Char := cursor.rest.dropWhile isSpaceOrTab

def toText (cursor : Cursor) : Cursor := cursor.advanceChars cursor.indentChars

def isBlank (cursor : Cursor) : Bool :=
  match cursor.text with
  | [] => true
  | c :: _ => isLineEnd c

def isIndented (cursor : Cursor) : Bool := cursor.indent ≥ 4

def toEnd (cursor : Cursor) : Cursor := { cursor with rest := ['\n'], splitTab := false }

/-- What is left of the line, with spaces for the columns left of a shared tab. -/
def content (cursor : Cursor) : List Char :=
  if cursor.splitTab then
    List.replicate (columnsToTab cursor.column) ' ' ++ cursor.rest.drop 1
  else cursor.rest

def skipColumn (cursor : Cursor) : Cursor :=
  if cursor.rest.head?.any isSpaceOrTab then cursor.advanceColumns 1 else cursor

/-- The cursor after at most `count` columns of spaces and tabs. -/
def skipColumns : Nat → Cursor → Cursor
  | 0, cursor => cursor
  | count + 1, cursor => skipColumns count cursor.skipColumn

end Cursor

end MarkdownOutline.Markdown
