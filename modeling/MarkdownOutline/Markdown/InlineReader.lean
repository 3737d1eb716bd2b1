import MarkdownOutline.Markdown.BareLink
import MarkdownOutline.Markdown.DelimiterRun
import MarkdownOutline.Markdown.Html
import MarkdownOutline.Markdown.LinkParts

/-!
# Reading inlines

The content of a paragraph, heading or table cell is read from left to right into pieces. Brackets
become links as they are closed, delimiter runs are paired at the end, and e-mail addresses are
looked for in the text that is left.
-/

namespace MarkdownOutline.Markdown

open Text

/-- What the searches for closing backticks have seen: for each width of a run how many characters
were left of the text at the last run looked at, and whether a search has come to the end. -/
structure BacktickRuns where
  left : List (Nat × Nat) := []
  atEnd : Bool := false

namespace BacktickRuns

def see (runs : BacktickRuns) (width left : Nat) : BacktickRuns :=
  { runs with left := (width, left) :: runs.left.filter (·.1 != width) }

/-- Once a search has come to the end of the text, the last run of a width that was looked at
closes no code that opens behind it, and another one is not searched for. -/
def excludes (runs : BacktickRuns) (width left : Nat) : Bool :=
  runs.atEnd && !(runs.left.lookup width).any (· < left)

end BacktickRuns

/-- A text in the middle of being read: what was read, reversed, what is left, and the pieces so
far, newest first. A link that was closed keeps the brackets around it from becoming links until
another bracket opens. -/
structure InlineReader where
  before : List Char := []
  rest : List Char
  references : References
  pieces : List Piece := []
  linkClosed : Bool := true
  inBrackets : Bool := false
  backticks : BacktickRuns := {}
  unclosed : Html.Unclosed := {}

namespace InlineReader

private def skip (reader : InlineReader) (count : Nat) : InlineReader :=
  { reader with
    before := (reader.rest.take count).reverse ++ reader.before
    rest := reader.rest.drop count }

private def skipTo (reader : InlineReader) (rest : List Char) : InlineReader :=
  reader.skip (reader.rest.length - rest.length)

private def add (reader : InlineReader) (markup : Markup) : InlineReader :=
  { reader with pieces := .markup markup :: reader.pieces }

private def addText (reader : InlineReader) (s : List Char) : InlineReader := reader.add (.text s)

private def isSpecial (c : Char) : Bool := "\n_*\"\x60\\&<[]!$:w~".toList.contains c

private def afterLineBreak (reader : InlineReader) : Bool :=
  match reader.pieces with
  | .markup (.node .lineBreak _) :: _ => true
  | _ => false

/-- Text up to the next special character. Spaces around a line end do not count. -/
private def readText (reader : InlineReader) : InlineReader :=
  let text := reader.rest.take 1 ++ (reader.rest.drop 1).takeWhile fun c => !isSpecial c
  let next := reader.skip text.length
  let text := if next.rest.head? == some '\n' then dropTrailing isSpacing text else text
  let text := if reader.afterLineBreak then text.dropWhile isSpacing else text
  next.addText text

/-- A line end: a hard break after two spaces, and a soft one otherwise. -/
private def readLineEnd (reader : InlineReader) : InlineReader :=
  let kind := match reader.before with
    | ' ' :: ' ' :: _ => MarkupKind.lineBreak
    | _ => MarkupKind.softBreak
  (reader.skipTo ((reader.rest.drop 1).dropWhile isSpaceOrTab)).add (.leaf kind)

/-- The longest run of backticks that encloses code. -/
private def maxBackticks : Nat := 80

/-- The text up to the next run of exactly `width` backticks, and what follows the run, with the
runs seen on the way. -/
private def findBackticks (width : Nat) (runs : BacktickRuns) : Nat → List Char → List Char →
    Option (List Char × List Char) × BacktickRuns
  | 0, _, _ => (none, runs)
  | _, _, [] => (none, { runs with atEnd := true })
  | fuel + 1, taken, c :: rest =>
    if c == '\x60' then
      let run := (c :: rest).takeWhile (· == '\x60')
      let after := (c :: rest).dropWhile (· == '\x60')
      let runs := runs.see run.length (rest.length + 1)
      if run.length == width then (some (taken.reverse, after), runs)
      else findBackticks width runs fuel (run ++ taken) after
    else findBackticks width runs fuel (c :: taken) rest

/-- The literal of a code span: line ends are spaces, and one space on each side is dropped unless
there is nothing but spaces. -/
private def codeLiteral (s : List Char) : List Char :=
  let s := s.map fun c => if c == '\n' then ' ' else c
  if s.head? == some ' ' && s.getLast? == some ' ' && s.any (· != ' ') then (s.drop 1).dropLast
  else s

private def readBackticks (reader : InlineReader) : InlineReader :=
  let run := reader.rest.takeWhile (· == '\x60')
  let opened := reader.skip run.length
  let left := opened.rest.length
  if run.length > maxBackticks || opened.backticks.excludes run.length left then
    opened.addText run
  else
    let (found, backticks) :=
      findBackticks run.length opened.backticks (left + 1) [] opened.rest
    let opened := { opened with backticks }
    match found with
    | some (code, rest) =>
      (opened.skipTo rest).add (.leaf (.code (String.ofList (codeLiteral code))))
    | none => opened.addText run

/-- A backslash: it escapes punctuation and breaks a line, and else stands for itself. -/
private def readBackslash (reader : InlineReader) : InlineReader :=
  let next := reader.skip 1
  match next.rest with
  | c :: _ =>
    if isAsciiPunctuation c then (next.skip 1).addText [c]
    else if c == '\n' then (next.skip 1).add (.leaf .lineBreak)
    else next.addText ['\\']
  | [] => next.addText ['\\']

private def readReference (reader : InlineReader) : InlineReader :=
  let next := reader.skip 1
  match characterReference? next.rest with
  | some (text, rest) => (next.skipTo rest).addText text
  | none => next.addText ['&']

private def isSchemeChar (c : Char) : Bool :=
  c.isAlphanum || c == '.' || c == '+' || c == '-'

/-- What follows a scheme of 2 to 32 characters and its colon. -/
def afterScheme? (s : List Char) : Option (List Char) :=
  match s with
  | c :: rest =>
    let length := (rest.takeWhile isSchemeChar).length
    match rest.drop length with
    | ':' :: after => if c.isAlpha && 1 ≤ length && length ≤ 31 then some after else none
    | _ => none
  | [] => none

private def angledAddress? (s : List Char) : Option (List Char × List Char) := do
  let after ← afterScheme? s
  match after.dropWhile fun c => c > ' ' && c != '<' && c != '>' with
  | '>' :: rest => some (s.take (s.length - rest.length - 1), rest)
  | _ => none

private def isMailChar (c : Char) : Bool :=
  c.isAlphanum || ".!#$%&'*+/=?^_\x60\x7b|\x7d~-".toList.contains c

/-- A label of a domain: up to 63 letters, digits and hyphens, with no hyphen at either end. -/
private def isDomainLabel (label : List Char) : Bool :=
  label.head?.any Char.isAlphanum && label.getLast?.any Char.isAlphanum && label.length ≤ 63 &&
    label.all fun c => c.isAlphanum || c == '-'

private def angledMail? (s : List Char) : Option (List Char × List Char) :=
  let name := s.takeWhile isMailChar
  match s.drop name.length with
  | '@' :: after =>
    let domain := after.takeWhile (· != '>')
    match after.drop domain.length with
    | _ :: rest =>
      if !name.isEmpty && (splitAt '.' domain).all isDomainLabel then
        some (name ++ '@' :: domain, rest)
      else none
    | [] => none
  | _ => none

private def readAngle (reader : InlineReader) : InlineReader :=
  let next := reader.skip 1
  match angledAddress? next.rest with
  | some (url, rest) =>
    let url := resolveReferences (trimBy isSpacing url)
    (next.skipTo rest).add (selfLink url url)
  | none =>
    match angledMail? next.rest with
    | some (address, rest) =>
      let address := resolveReferences (trimBy isSpacing address)
      (next.skipTo rest).add (selfLink ("mailto:".toList ++ address) address)
    | none =>
      match Html.inline? next.unclosed next.rest with
      | some rest =>
        let literal := reader.rest.take (reader.rest.length - rest.length)
        (next.skipTo rest).add (.leaf (.htmlInline (String.ofList literal)))
      | none => { next with unclosed := next.unclosed.note next.rest }.addText ['<']

/-- The last characters of the text before an address go over to it. -/
private def dropCharacters : Nat → List Piece → List Piece
  | 0, pieces => pieces
  | count, .markup (.node (.text value) _) :: earlier =>
    let s := value.toList
    if count < s.length then .markup (.text (s.take (s.length - count))) :: earlier
    else dropCharacters (count - s.length) earlier
  | _, pieces => pieces

private def readColon (reader : InlineReader) : InlineReader :=
  let found := if reader.inBrackets then none else schemeLink? reader.before reader.rest
  match found with
  | some (scheme, link) =>
    let next := reader.skip link.length
    let next := { next with pieces := dropCharacters scheme.length next.pieces }
    next.add (selfLink (scheme ++ link) (scheme ++ link))
  | none => (reader.skip 1).addText [':']

private def readW (reader : InlineReader) : InlineReader :=
  let found := if reader.inBrackets then none else wwwLink? reader.before.head? reader.rest
  match found with
  | some link => (reader.skip link.length).add (selfLink ("http://".toList ++ link) link)
  | none => (reader.skip 1).addText ['w']

private def readRun (reader : InlineReader) (mark : Char) : InlineReader :=
  let length := (reader.rest.takeWhile (· == mark)).length
  let next := reader.skip length
  let run := DelimiterRun.classify mark length reader.before next.rest
  let piece := if run.opens || run.closes then .run run else .markup run.toMarkup
  { next with pieces := piece :: next.pieces }

/-- The innermost bracket knows of a bracket inside it. -/
private def markBracketInside : List Piece → List Piece
  | [] => []
  | .bracket image after _ :: earlier => .bracket image after true :: earlier
  | piece :: earlier => piece :: markBracketInside earlier

private def readBracket (reader : InlineReader) (image : Bool) : InlineReader :=
  let next := reader.skip (if image then 2 else 1)
  { next with
    pieces := .bracket image next.rest false :: markBracketInside next.pieces
    linkClosed := image && next.linkClosed
    inBrackets := true }

/-- An exclamation mark: before a bracket it makes an image of it, if no caret follows. -/
private def readExclamation (reader : InlineReader) : InlineReader :=
  match reader.rest with
  | _ :: '[' :: '^' :: _ => (reader.skip 1).addText ['!']
  | _ :: '[' :: _ => reader.readBracket true
  | _ => (reader.skip 1).addText ['!']

/-- The innermost open bracket: the pieces after it, in order, whether it is of an image, the text
after it, whether another bracket stands inside, and the pieces before it. -/
private def innermostBracket : List Piece → List Piece →
    Option (List Piece × Bool × List Char × Bool × List Piece)
  | [], _ => none
  | .bracket image after bracketInside :: earlier, inside =>
    some (inside, image, after, bracketInside, earlier)
  | piece :: earlier, inside => innermostBracket earlier (piece :: inside)

private def inlineTarget? (s : List Char) : Option (LinkTarget × List Char) :=
  match s with
  | '(' :: inner => do
    let (url, afterUrl) ← linkDestination? (inner.dropWhile isTagSpace)
    let beforeTitle := afterUrl.dropWhile isTagSpace
    let (title, afterTitle) :=
      if beforeTitle.length == afterUrl.length then ([], beforeTitle)
      else (linkTitle? beforeTitle).getD ([], beforeTitle)
    match afterTitle.dropWhile isTagSpace with
    | ')' :: rest => some (⟨cleanDestination url, cleanTitle title⟩, rest)
    | _ => none
  | _ => none

/-- The target of the label that follows a closing bracket, or of the text in the brackets if no
label or an empty one follows, with what follows the label and the references after that. -/
private def referenceTarget? (references : References) (text : List Char) (bracketInside : Bool)
    (s : List Char) : Option (LinkTarget × List Char × References) :=
  let refer? (label rest : List Char) :=
    (references.refer? label).map fun (target, references) => (target, rest, references)
  match linkLabel? s with
  | some (label, rest) => refer? (if label.isEmpty && !bracketInside then text else label) rest
  | none => if bracketInside then none else refer? text s

/-- The target of a link or image at its closing bracket: one written behind the bracket, or that
of a label. -/
private def target? (references : References) (text : List Char) (bracketInside : Bool)
    (s : List Char) : Option (LinkTarget × List Char × References) :=
  match inlineTarget? s with
  | some (target, rest) => some (target, rest, references)
  | none => referenceTarget? references text bracketInside s

/-- A closing bracket: it closes a link or image with a target, or is text. -/
private def readClosingBracket (reader : InlineReader) : InlineReader :=
  let next := { reader.skip 1 with inBrackets := false }
  match innermostBracket next.pieces [] with
  | none => next.addText [']']
  | some (inside, image, after, bracketInside, earlier) =>
    let asText :=
      let opening : Piece := .markup (Piece.bracket image after bracketInside).toMarkup
      { next with pieces := .markup (.text [']']) :: (inside.reverse ++ opening :: earlier) }
    if !image && next.linkClosed then asText
    else
      let text := after.take (after.length - next.rest.length - 1)
      match target? next.references text bracketInside next.rest with
      | none => asText
      | some (target, rest, references) =>
        let url := String.ofList target.url
        let title := String.ofList target.title
        let kind := if image then MarkupKind.image url title else MarkupKind.link url title
        { next.skipTo rest with
          references
          pieces := .markup (.node kind (pairDelimiters inside)) :: earlier
          linkClosed := !image || next.linkClosed }

private def readPiece (reader : InlineReader) (c : Char) : InlineReader :=
  match c with
  | '\n' => reader.readLineEnd
  | '\x60' => reader.readBackticks
  | '\\' => reader.readBackslash
  | '&' => reader.readReference
  | '<' => reader.readAngle
  | ':' => reader.readColon
  | 'w' => reader.readW
  | '*' | '_' | '~' => reader.readRun c
  | '[' => reader.readBracket false
  | ']' => reader.readClosingBracket
  | '!' => reader.readExclamation
  | '\'' | '"' | '-' | '.' | '$' => (reader.skip 1).addText [c]
  | _ => reader.readText

private def readAll : Nat → InlineReader → InlineReader
  | 0, reader => reader
  | fuel + 1, reader =>
    match reader.rest with
    | [] => reader
    | c :: _ => readAll fuel (reader.readPiece c)

end InlineReader

/-- Runs of text that stand next to each other are one run. -/
def joinTexts : List Markup → List Markup
  | [] => []
  | m :: rest =>
    match m.text?, joinTexts rest with
    | some first, .node (.text second) _ :: others => .node (.text (first ++ second)) [] :: others
    | _, joined => m :: joined

/-- E-mail addresses are links, in text that is not part of a link. -/
private def linkMail (m : Markup) : List Markup :=
  match m.text? with
  | some s => linkMailAddresses s.toList
  | none => [m]

mutual

/-- The markup with its text joined and its e-mail addresses linked, all the way down to links and
images, which stay as they are. -/
private def settleText : Markup → Markup
  | .node kind children =>
    match kind with
    | .link .. | .image .. => .node kind children
    | _ => .node kind ((joinTexts (settleTexts children)).flatMap linkMail)

private def settleTexts : List Markup → List Markup
  | [] => []
  | m :: rest => settleText m :: settleTexts rest

end

def readInlines (text : List Char) : StateM References (List Markup) := do
  let text := dropTrailing isSpacing text
  let reader := InlineReader.readAll text.length { rest := text, references := ← get }
  set reader.references
  pure ((joinTexts (settleTexts (pairDelimiters reader.pieces.reverse))).flatMap linkMail)

end MarkdownOutline.Markdown
