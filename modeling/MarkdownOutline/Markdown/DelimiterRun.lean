import MarkdownOutline.Document.Basic
import MarkdownOutline.Text.Blank
import MarkdownOutline.Text.Punctuation

/-!
# Delimiter runs

Runs of `*`, `_` and `~` that may open or close emphasis, and the pairing of them. A closing run
takes the nearest opening run of its mark, one or two characters from both at a time, and what
stands between them becomes the content.
-/

namespace MarkdownOutline.Markdown

open Text

/-- A run of one mark. Its `length` stays as it was written; its `count` is what pairing has left
of it. -/
structure DelimiterRun where
  mark : Char
  length : Nat
  count : Nat
  opens : Bool
  closes : Bool

namespace DelimiterRun

/-- The character next to a run, tildes aside; the edge of the text counts as a line end. -/
private def neighbour (s : List Char) : Char := (s.dropWhile (· == '~')).headD '\n'

/-- The run of `length` marks between two texts, the first of them reversed. A run opens before
text and closes after it; an underscore inside a word does neither. -/
def classify (mark : Char) (length : Nat) (before after : List Char) : DelimiterRun :=
  let previous := neighbour before
  let next := neighbour after
  let opensHere := !isBlank next &&
    (!isPunctuation next || isBlank previous || isPunctuation previous)
  let closesHere := !isBlank previous &&
    (!isPunctuation previous || isBlank next || isPunctuation next)
  if mark == '_' then {
    mark, length, count := length
    opens := opensHere && (!closesHere || isPunctuation previous)
    closes := closesHere && (!opensHere || isPunctuation next) }
  else { mark, length, count := length, opens := opensHere, closes := closesHere }

def toMarkup (run : DelimiterRun) : Markup := .text (List.replicate run.count run.mark)

/-- The two runs may pair. Runs that could both open and close pair only if their lengths do not
add up to a multiple of three, unless both are multiples. -/
def pairsWith (opener closer : DelimiterRun) : Bool :=
  opener.opens && opener.mark == closer.mark &&
    !((closer.opens || opener.closes) && (opener.length + closer.length) % 3 == 0 &&
      !(opener.length % 3 == 0 && closer.length % 3 == 0))

def contentKind (mark : Char) (width : Nat) : MarkupKind :=
  if mark == '~' then .strikethrough else if width == 1 then .emph else .strong

end DelimiterRun

/-- A part of a text on its way to inlines: finished markup, a delimiter run, or the bracket that
may open a link, with the text after it and whether another bracket was opened inside. -/
inductive Piece where
  | markup (markup : Markup)
  | run (run : DelimiterRun)
  | bracket (image : Bool) (after : List Char) (bracketInside : Bool)

def Piece.toMarkup : Piece → Markup
  | .markup m => m
  | .run r => r.toMarkup
  | .bracket image _ _ => .text (if image then ['!', '['] else ['['])

/-- The nearest run that a closing run pairs with: the pieces after it, in order, the run, and the
pieces before it, newest first. -/
private def findOpener (closer : DelimiterRun) : List Piece → List Piece →
    Option (List Piece × DelimiterRun × List Piece)
  | [], _ => none
  | .run opener :: earlier, inside =>
    if opener.pairsWith closer then some (inside, opener, earlier)
    else findOpener closer earlier (.run opener :: inside)
  | piece :: earlier, inside => findOpener closer earlier (piece :: inside)

/-- Pairs the runs of the pieces still to come with those gone by, which come newest first. Two
runs of tildes pair only whole and only if they are equally long; where they are not, all that is
left stays text. -/
private def pairRuns : Nat → List Piece → List Piece → List Markup
  | 0, done, todo => (done.reverse ++ todo).map Piece.toMarkup
  | _, done, [] => done.reverse.map Piece.toMarkup
  | fuel + 1, done, .run closer :: todo =>
    if !closer.closes then pairRuns fuel (.run closer :: done) todo
    else match findOpener closer done [] with
      | none =>
        let piece := if closer.opens then .run closer else .markup closer.toMarkup
        pairRuns fuel (piece :: done) todo
      | some (inside, opener, earlier) =>
        let width := if closer.count ≥ 2 && opener.count ≥ 2 then 2 else 1
        let openerLeft := opener.count - width
        let closerLeft := closer.count - width
        if closer.mark == '~' && (openerLeft != closerLeft || openerLeft > 0) then
          (done.reverse ++ .run closer :: todo).map Piece.toMarkup
        else
          let content : Markup :=
            .node (DelimiterRun.contentKind closer.mark width) (inside.map Piece.toMarkup)
          let earlier :=
            if openerLeft == 0 then earlier else .run { opener with count := openerLeft } :: earlier
          let todo :=
            if closerLeft == 0 then todo else .run { closer with count := closerLeft } :: todo
          pairRuns fuel (.markup content :: earlier) todo
  | fuel + 1, done, piece :: todo => pairRuns fuel (piece :: done) todo

private def pairingSteps (pieces : List Piece) : Nat :=
  pieces.foldl (fun n piece => n + match piece with
    | .run run => run.count + 1
    | _ => 1) 1

def pairDelimiters (pieces : List Piece) : List Markup := pairRuns (pairingSteps pieces) [] pieces

end MarkdownOutline.Markdown
