import MarkdownOutline.Document.Basic
import MarkdownOutline.Text.Blank
import MarkdownOutline.Text.DecimalDigit

/-!
# Index prefixes

The number in front of a title: any number of groups of digits and a dot, with white space after
each of them and in front of the title.
-/

namespace MarkdownOutline

open Text

/-- What follows a group of digits and a dot at the front of a text. -/
def afterNumberGroup? (s : List Char) : Option (List Char) :=
  match s.takeWhile isDecimalDigit, s.dropWhile isDecimalDigit with
  | _ :: _, '.' :: rest => some rest
  | _, _ => none

/-- The title without the groups in front of it, of which there are no more than `fuel`. -/
def dropGroups : Nat → List Char → List Char
  | 0, s => s.dropWhile isBlank
  | fuel + 1, s =>
    match afterNumberGroup? s with
    | some rest => dropGroups fuel (rest.dropWhile isBlank)
    | none => s.dropWhile isBlank

/-- The title without the number in front of it. -/
def dropIndexPrefix (title : List Char) : List Char := dropGroups title.length title

def stripIndexPrefix (title : String) : String := String.ofList (dropIndexPrefix title.toList)

def Heading.plainTitle (heading : Heading) : String := stripIndexPrefix heading.rawTitle

end MarkdownOutline
