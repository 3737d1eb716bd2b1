import MarkdownOutline.Markdown.Reader
import MarkdownOutline.Outline.Cascade
import MarkdownOutline.Outline.Lift
import MarkdownOutline.Outline.Section

/-!
# Transforming documents

The changes that can be made to a document one after the other, each at a line of the text that
the document was read from.
-/

namespace MarkdownOutline

inductive Transform where
  | headingToList (line : Nat) (peers : Bool)
  | listToHeading (line : Nat)
  | headingDepth (line depth : Nat) (peers : Bool)
  | format (options : FormatOptions)

/-- The document with the section of the heading that starts at a line turned into a list. -/
def Document.headingToListAt (document : Document) (line : Nat) (peers : Bool) : Document :=
  match document.headingStartingAt? line with
  | some index => document.headingToList index peers false
  | none => document

/-- The document after the change. A line without a block to change changes nothing. -/
def Transform.apply (document : Document) : Transform → Document
  | .headingToList line peers => document.headingToListAt line peers
  | .listToHeading line => document.listToHeading line
  | .headingDepth line depth peers => document.retargetHeading line depth peers
  | .format options => document.formatIndex options

def Document.transform (document : Document) (changes : List Transform) : Document :=
  changes.foldl Transform.apply document

end MarkdownOutline
