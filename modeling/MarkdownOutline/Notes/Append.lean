import MarkdownOutline.Text.Blank

/-!
# Appending to a note

A section is added below what a note holds already, with a rule between the two, unless the note
ends with it.
-/

namespace MarkdownOutline

open Text

def sectionSeparator : String := "\n\n---\n"

/-- The text is blank, or ends with a rule of its own: an empty line, three or more dashes, and
white space if any. -/
def isSeparated (existing : List Char) : Bool :=
  let shown := trimEnd existing
  let above := dropTrailing (· == '-') shown
  shown.isEmpty || (3 ≤ shown.length - above.length && ['\n', '\n'].isSuffixOf above)

/-- The text ends with the addition, white space at either end apart. -/
def endsWithSection (existing addition : List Char) : Bool :=
  (trimEnd addition).isSuffixOf (trimEnd existing)

/-- The content of a note with a section added below, or none if the note ends with it already. -/
def appendedContent (existing addition : String) : Option String :=
  if endsWithSection existing.toList addition.toList then none
  else if isSeparated existing.toList then some (existing ++ addition)
  else some (existing ++ sectionSeparator ++ addition)

end MarkdownOutline
