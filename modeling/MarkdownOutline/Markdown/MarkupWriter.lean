import MarkdownOutline.Document.Basic
import MarkdownOutline.Markdown.InlineReader
import MarkdownOutline.Text.Ascii
import MarkdownOutline.Text.Blank

/-!
# Writing markup

Markup is written as CommonMark. Line ends are held back until something follows them, so that a
block can ask for a blank line after itself and a tight list can turn it into a line end.
-/

namespace MarkdownOutline.Markdown

open Text

/-- How the characters of a text are escaped. -/
inductive Escaping where
  | literal
  | text
  | url
  | title
  deriving DecidableEq

/-- A text in the middle of being written. The output is reversed. `breaks` line ends are held
back. Every line starts with `margin`. -/
structure MarkupWriter where
  output : List Char := []
  margin : List Char := []
  breaks : Nat := 0
  lineStart : Bool := true
  contentStart : Bool := true
  tight : Bool := false
  inHeading : Bool := false
  inTable : Bool := false
  numbers : List Nat := []

namespace MarkupWriter

def endLine (writer : MarkupWriter) : MarkupWriter := { writer with breaks := max writer.breaks 1 }

def endBlock (writer : MarkupWriter) : MarkupWriter := { writer with breaks := max writer.breaks 2 }

/-- Writes the line ends that were held back, except those that stand at the end of the output
already. A blank line keeps the margin. -/
def writeBreaks (margin : List Char) : Nat → List Char → List Char → List Char
  | 0, _, output => output
  | n + 1, [], output => writeBreaks margin n [] output
  | n + 1, c :: seen, output =>
    if c == '\n' then writeBreaks margin n seen output
    else
      let output := '\n' :: output
      writeBreaks margin n (c :: seen) (if n > 0 then margin.reverse ++ output else output)

def flush (writer : MarkupWriter) : MarkupWriter :=
  let breaks := if writer.tight then min writer.breaks 1 else writer.breaks
  if breaks == 0 then { writer with breaks := 0 }
  else { writer with
    output := writeBreaks writer.margin breaks writer.output writer.output
    breaks := 0, lineStart := true, contentStart := true }

/-- The character needs a backslash or a number to stand for itself. -/
private def needsEscape (escaping : Escaping) (contentStart : Bool) (previous : Option Char)
    (c : Char) (next : Option Char) : Bool :=
  let afterDigit := previous.any Char.isDigit
  match escaping with
  | .literal => false
  | .text =>
    c < ' ' || "*_[]#<>\\\x60!".toList.contains c || (c == '&' && next.any Char.isAlpha) ||
      (contentStart && (c == '-' || c == '+' || c == '=') && !afterDigit) ||
      (contentStart && (c == '.' || c == ')') && afterDigit && next.all isSpacing)
  | .url => isSpacing c || "\x60<>\\()".toList.contains c
  | .title => "\x60<>\"\\".toList.contains c

private def hexDigits (n : Nat) : List Char := (Nat.toDigits 16 n).map Char.toUpper

def writeMargin (writer : MarkupWriter) : MarkupWriter :=
  if writer.lineStart then { writer with output := writer.margin.reverse ++ writer.output }
  else writer

def writeLiteral (writer : MarkupWriter) (c : Char) : MarkupWriter :=
  let writer := writer.writeMargin
  if c == '\n' then
    { writer with output := c :: writer.output, lineStart := true, contentStart := true }
  else
    { writer with
      output := c :: writer.output, lineStart := false
      contentStart := writer.contentStart && c.isDigit }

private def writeEscaped (writer : MarkupWriter) (escaping : Escaping) (c : Char) : MarkupWriter :=
  if escaping == .url && isSpacing c then
    let digits := hexDigits c.toNat
    let digits := if digits.length < 2 then ' ' :: digits else digits
    { writer with output := digits.reverse ++ '%' :: writer.output }
  else if isAsciiPunctuation c then { writer with output := c :: '\\' :: writer.output }
  else ("&#".toList ++ Nat.toDigits 10 c.toNat ++ [';']).foldl writeLiteral writer

def writeChars (escaping : Escaping) (escapePipes : Bool) :
    List Char → MarkupWriter → MarkupWriter
  | [], writer => writer
  | c :: rest, writer =>
    let guarded (w : MarkupWriter) : MarkupWriter :=
      if escapePipes && c == '|' then { w with output := '\\' :: w.output } else w
    if escaping == .literal then
      let written := guarded writer.writeMargin
      writeChars escaping escapePipes rest ({ written with lineStart := false }.writeLiteral c)
    else
      let written := guarded writer.writeMargin
      let written :=
        if needsEscape escaping written.contentStart written.output.head? c rest.head? then
          written.writeEscaped escaping c
        else { written with output := c :: written.output }
      writeChars escaping escapePipes rest
        { written with
          lineStart := false, contentStart := written.contentStart && c.isDigit }

def write (writer : MarkupWriter) (escaping : Escaping) (escapePipes : Bool) (s : List Char) :
    MarkupWriter :=
  writeChars escaping (escapePipes && writer.inTable) s writer.flush

end MarkupWriter

/-- What stands around a node of markup: the kind of the node it is part of, the columns of the
table it is in, whether the list is tight if the node is part of an item, whether it is the first
part, and the kind of the next part. -/
structure Surroundings where
  parent : Option MarkupKind := none
  columns : List Alignment := []
  itemTight : Option Bool := none
  first : Bool := true
  next : Option MarkupKind := none

/-- The kind is the frame of a table, where pipes are not text. -/
private def isTableFrame : MarkupKind → Bool
  | .table _ | .tableRow _ | .tableCell => true
  | _ => false

/-- The parts of an item stand as close together as the items of its list. -/
private def partTightness (parent : Option MarkupKind) (kind : MarkupKind) : Option Bool :=
  match parent, kind with
  | some (.list _ _ tight _), .item => some tight
  | _, _ => none

def isList : MarkupKind → Bool
  | .list .. => true
  | _ => false

private def isListOrCode : MarkupKind → Bool
  | .list .. | .codeBlock .. => true
  | _ => false

def longestRun (mark : Char) : Nat → Nat → List Char → Nat
  | best, current, [] => max best current
  | best, current, c :: rest =>
    if c == mark then longestRun mark best (current + 1) rest
    else longestRun mark (max best current) 0 rest

private def runLengths (mark : Char) : Nat → List Char → List Nat
  | current, [] => [current]
  | current, c :: rest =>
    if c == mark then runLengths mark (current + 1) rest else current :: runLengths mark 0 rest

/-- Lengths of runs are told apart modulo this number. -/
private def runLengthRange : Nat := 32

/-- The least positive length that no run of the mark has. -/
private def unusedRunLength (mark : Char) (s : List Char) : Nat :=
  let used := (runLengths mark 0 s).map (· % runLengthRange)
  ((List.range (used.length + 1)).map (· + 1)).find? (fun n => !used.contains n) |>.getD 1

/-- A link that is written as its address between angle brackets: it has a scheme and no title,
and its text is the address, for mail without the scheme. -/
private def angledAddress? (url title : String) (children : List Markup) : Option (List Char) :=
  let address := if "mailto:".toList.isPrefixOf url.toList then url.toList.drop 7 else url.toList
  match children with
  | .node (.text value) _ :: _ =>
    if (InlineReader.afterScheme? url.toList).isSome && title.isEmpty && value.toList == address then
      some address
    else none
  | _ => none

private def alignmentMark : Alignment → String
  | .none => "---"
  | .left => ":--"
  | .center => ":-:"
  | .right => "--:"

namespace MarkupWriter

/-- Writes what the node of a kind puts there itself; pipes are escaped outside the frame of a
table. -/
def put (writer : MarkupWriter) (kind : MarkupKind) (s : String) : MarkupWriter :=
  if s.isEmpty then writer else writer.write .literal (!isTableFrame kind) s.toList

/-- A code block, indented where that reads back and fenced otherwise. -/
def writeCodeBlock (writer : MarkupWriter) (kind : MarkupKind) (around : Surroundings)
    (info literal : String) : MarkupWriter :=
  let text := literal.toList
  let leadsItem := around.first && around.parent == some .item
  let writer := if leadsItem then writer else writer.endBlock
  let writer :=
    if info.isEmpty && literal.utf8ByteSize > 2 && !text.head?.any isSpacing && !leadsItem &&
        !(text.reverse.take 2).all isSpacing then
      let writer := writer.put kind "    "
      let inner := { writer with margin := writer.margin ++ "    ".toList }.put kind literal
      { inner with margin := writer.margin }
    else
      let mark := if info.toList.contains '\x60' then '~' else '\x60'
      let fence := String.ofList (List.replicate (max 3 (longestRun mark 0 0 text + 1)) mark)
      let writer := writer.put kind fence
      let writer := if info.isEmpty then writer else (writer.put kind " ").put kind info
      ((writer.endLine.put kind literal).endLine).put kind fence
  writer.endBlock

private def writeCode (writer : MarkupWriter) (kind : MarkupKind) (literal : String) :
    MarkupWriter :=
  let text := literal.toList
  let ticks := String.ofList (List.replicate (unusedRunLength '\x60' text) '\x60')
  let edge (p : Char → Bool) : Bool := text.head?.any p || text.getLast?.any p
  let allSpace := text.all fun c => c == ' ' || isLineEnd c
  let pad := if text.isEmpty || edge (· == '\x60') || (!allSpace && edge (· == ' ')) then " " else ""
  let writer := (writer.put kind ticks).put kind pad
  ((writer.write .literal true text).put kind pad).put kind ticks

private def writeTarget (writer : MarkupWriter) (kind : MarkupKind) (url title : String) :
    MarkupWriter :=
  let writer := (writer.put kind "](").write .url true url.toList
  let writer :=
    if title.isEmpty then writer
    else ((writer.put kind " \"").write .title true title.toList).put kind "\""
  writer.put kind ")"

private def numberMarker (n : Nat) (delimiter : NumberDelimiter) : String :=
  toString n ++ match delimiter with
    | .period => ". "
    | .paren => ") "

/-- What is written before the parts of a node. The parts of a link written as an address are left
out. -/
def enter (writer : MarkupWriter) (around : Surroundings) (kind : MarkupKind)
    (children : List Markup) : MarkupWriter :=
  match kind with
  | .blockQuote =>
    let writer := writer.put kind "> "
    { writer with contentStart := true, margin := writer.margin ++ "> ".toList }
  | .list ordered start _ _ =>
    if ordered then { writer with numbers := start :: writer.numbers } else writer
  | .item =>
    let (marker, numbers) := match around.parent, writer.numbers with
      | some (.list true _ _ delimiter), n :: outer => (numberMarker n delimiter, (n + 1) :: outer)
      | _, numbers => ("- ", numbers)
    let writer := writer.put kind marker
    { writer with
      contentStart := true, numbers
      margin := writer.margin ++ List.replicate marker.length ' ' }
  | .heading level =>
    let writer := (writer.put kind (String.ofList (List.replicate level '#'))).put kind " "
    { writer with contentStart := true, inHeading := true }
  | .codeBlock _ info literal => writer.writeCodeBlock kind around info literal
  | .htmlBlock literal => (writer.endBlock.put kind literal).endBlock
  | .thematicBreak => (writer.endBlock.put kind "-----").endBlock
  | .paragraph => writer
  | .table _ => { writer with inTable := true }.endBlock
  | .tableRow _ => writer.endLine.put kind "|"
  | .tableCell => writer.put kind " "
  | .text value => writer.write .text true value.toList
  | .lineBreak =>
    let writer := if around.next.all (·.isBlock) then writer else writer.put kind "\\"
    writer.endLine
  | .softBreak => if writer.inHeading then writer.write .literal true [' '] else writer.endLine
  | .code literal => writer.writeCode kind literal
  | .htmlInline literal | .verbatim literal => writer.put kind literal
  | .strong => if around.parent == some .strong then writer else writer.put kind "**"
  | .emph =>
    writer.put kind
      (if around.parent == some .emph && around.first && around.next.isNone then "_" else "*")
  | .strikethrough => writer.put kind "~~"
  | .link url title =>
    match angledAddress? url title children with
    | some address => ((writer.put kind "<").put kind (String.ofList address)).put kind ">"
    | none => writer.put kind "["
  | .image .. => writer.put kind "!["

def leave (writer : MarkupWriter) (around : Surroundings) (kind : MarkupKind) :
    MarkupWriter :=
  let outdent (width : Nat) : List Char :=
    if width ≤ writer.margin.length then writer.margin.take (writer.margin.length - width)
    else writer.margin
  match kind with
  | .blockQuote => { writer with margin := outdent 2 }.endBlock
  | .list ordered .. =>
    let writer := if ordered then { writer with numbers := writer.numbers.tail } else writer
    if around.next.any isListOrCode then
      (writer.endLine.put kind "<!-- end list -->").endBlock
    else writer
  | .item =>
    let width := match around.parent, writer.numbers with
      | some (.list true _ _ delimiter), n :: _ => (numberMarker n delimiter).length
      | _, _ => 2
    { writer with margin := outdent width }.endLine
  | .heading _ => { writer with inHeading := false }.endBlock
  | .paragraph => writer.endBlock
  | .table _ => { writer with inTable := false }.endBlock
  | .tableCell =>
    let writer := writer.put kind " |"
    if around.parent == some (.tableRow true) && around.next.isNone then
      let writer := writer.endLine.put kind "|"
      (around.columns.foldl (fun writer column =>
        writer.put kind (" " ++ alignmentMark column ++ " |")) writer).endLine
    else writer
  | .strong => if around.parent == some .strong then writer else writer.put kind "**"
  | .emph =>
    writer.put kind
      (if around.parent == some .emph && around.first && around.next.isNone then "_" else "*")
  | .strikethrough => writer.put kind "~~"
  | .link url title | .image url title => writer.writeTarget kind url title
  | _ => writer

end MarkupWriter

def writesParts (kind : MarkupKind) (children : List Markup) : Bool :=
  match kind with
  | .link url title => (angledAddress? url title children).isNone
  | _ => true

mutual

/-- Writes a node of markup and its parts. The parts of an item set how close blocks are written
from there on; a list sets it back to that of the item it is part of. -/
def writeMarkup (around : Surroundings) (writer : MarkupWriter) : Markup → MarkupWriter
  | .node kind children =>
    let writer := { writer with tight := around.itemTight.getD writer.tight }
    let entered := writer.enter around kind children
    if writesParts kind children then
      let columns := match kind with
        | .table columns => columns
        | _ => around.columns
      let written := writeParts kind columns (partTightness around.parent kind) true entered children
      let tight := if isList kind then around.itemTight.getD false else written.tight
      { written with tight }.leave around kind
    else entered

def writeParts (parent : MarkupKind) (columns : List Alignment) (itemTight : Option Bool)
    (first : Bool) (writer : MarkupWriter) : List Markup → MarkupWriter
  | [] => writer
  | m :: rest =>
    let around : Surroundings := {
      parent := some parent, columns, itemTight, first, next := rest.head?.map Markup.kind }
    writeParts parent columns itemTight false (writeMarkup around writer m) rest

end

/-- A block of markup as text, without line ends after it. -/
def markupText (m : Markup) : List Char :=
  dropTrailing (· == '\n') (writeMarkup {} {} m).output.reverse

end MarkdownOutline.Markdown
