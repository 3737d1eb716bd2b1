import MarkdownOutline.Document.Basic

/-!
# Drafts

The blocks of a text before their inlines are read: the content of headings, paragraphs and table
cells is still text, since a link in it may refer to a definition further down.
-/

namespace MarkdownOutline.Markdown

/-- What marks the items of a list. Items with different marks belong to different lists. -/
inductive ListMarker where
  | bullet (mark : Char)
  | number (start : Nat) (delimiter : NumberDelimiter)
  deriving DecidableEq

namespace ListMarker

/-- An item with the second marker continues a list with the first one. -/
def continuedBy : ListMarker → ListMarker → Bool
  | .bullet mark, .bullet other => mark == other
  | .number _ delimiter, .number _ other => delimiter == other
  | _, _ => false

def ordered : ListMarker → Bool
  | .bullet _ => false
  | .number .. => true

/-- The number of the first item; bullets count from 1. -/
def start : ListMarker → Nat
  | .bullet _ => 1
  | .number start _ => start

def delimiter : ListMarker → NumberDelimiter
  | .bullet _ => .period
  | .number _ delimiter => delimiter

end ListMarker

/-- A block that holds text and no blocks. -/
inductive DraftLeaf where
  | paragraph (text : List Char)
  | heading (level : Nat) (text : List Char)
  | code (fenced : Bool) (info literal : List Char)
  | html (literal : List Char)
  | thematicBreak
  | table (columns : List Alignment) (rows : List (List (List Char)))

mutual

/-- A block whose inlines are still text. -/
inductive Draft where
  | leaf (leaf : DraftLeaf) (span : Span)
  | quote (children : List Draft) (span : Span)
  | list (marker : ListMarker) (tight : Bool) (items : List DraftItem) (span : Span)

inductive DraftItem where
  | mk (children : List Draft) (span : Span)

end

def DraftItem.children : DraftItem → List Draft
  | .mk children _ => children

end MarkdownOutline.Markdown
