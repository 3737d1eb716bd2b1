import MarkdownOutline.Document.Basic
import MarkdownOutline.Text.Ascii
import MarkdownOutline.Text.Blank
import MarkdownOutline.Text.Punctuation

/-!
# Bare links

Web and e-mail addresses that are links without any markup around them.
-/

namespace MarkdownOutline.Markdown

open Text

/-- A link whose text is its own address. -/
def selfLink (url text : List Char) : Markup :=
  .node (.link (String.ofList url) "") [.text text]

private structure DomainScan where
  dots : Nat := 0
  underscoresBefore : Nat := 0
  underscores : Nat := 0
  atEnd : Bool := false

/-- The underscores in the last two labels and the dots of the domain that a text starts with, and
whether the domain is the whole text. -/
private def scanDomain (scan : DomainScan) : List Char → DomainScan
  | [] => { scan with atEnd := true }
  | c :: rest =>
    if c == '_' then scanDomain { scan with underscores := scan.underscores + 1 } rest
    else if c == '.' then scanDomain { scan with
      dots := scan.dots + 1, underscoresBefore := scan.underscores, underscores := 0 } rest
    else if (c == '\\' && !rest.isEmpty) || c == '-' || !(isBlank c || isPunctuation c) then
      scanDomain scan rest
    else scan

/-- The text starts with a domain: no underscore in its last two labels, unless it is very long
and ends the text, and a dot in it if it stands without a scheme. -/
def startsWithDomain (needsDot : Bool) (s : List Char) : Bool :=
  let scan := scanDomain {} s
  (scan.underscoresBefore + scan.underscores == 0 || (scan.atEnd && scan.dots > 10)) &&
    (!needsDot || scan.dots > 0)

private def isTrailingMark (c : Char) : Bool := "?!.,:*_~'\"".toList.contains c

/-- Takes off the end of a link, reversed here, what belongs to the sentence around it: marks,
a character reference, and closing parentheses without an opening one. -/
private def trimReversed : Nat → List Char → List Char
  | 0, link => link
  | _, [] => []
  | fuel + 1, c :: link =>
    if isTrailingMark c then trimReversed fuel link
    else if c == ';' then
      let name := link.takeWhile Char.isAlpha
      match link.drop name.length with
      | '&' :: before => trimReversed fuel (if name.isEmpty then link else before)
      | _ => trimReversed fuel link
    else if c == ')' && link.count ')' + 1 > link.count '(' then trimReversed fuel link
    else c :: link

/-- The part of a text without spaces that is the link. -/
private def trimLink (s : List Char) : List Char :=
  let link := s.takeWhile (· != '<')
  (trimReversed link.length link.reverse).reverse

/-- The link that starts with `www.` at the front of a text, after the character `previous`. -/
def wwwLink? (previous : Option Char) (s : List Char) : Option (List Char) :=
  if previous.all (fun c => isSpacing c || "*_~([".toList.contains c) &&
      "www.".toList.isPrefixOf s && startsWithDomain true s then
    some (trimLink (s.takeWhile fun c => !isSpacing c))
  else none

private def linkSchemes : List String := ["http", "https", "ftp"]

/-- The scheme that stands before a colon, the text before the colon reversed, and the rest of the
link from the colon on. -/
def schemeLink? (before s : List Char) : Option (List Char × List Char) :=
  let scheme := (before.takeWhile Char.isAlpha).reverse
  match s with
  | ':' :: '/' :: '/' :: rest =>
    if !rest.isEmpty && (linkSchemes.map String.toList).contains scheme &&
        startsWithDomain false rest then
      some (scheme, trimLink (s.takeWhile fun c => !isSpacing c))
    else none
  | _ => none

private def isLocalChar (c : Char) : Bool :=
  c.isAlphanum || c == '.' || c == '+' || c == '-' || c == '_'

/-- The part of an address before the `@`, and whether a scheme belongs to it, and which. -/
private structure LocalPart where
  text : List Char
  hasScheme : Bool := false
  isChat : Bool := false

private def localPart (part : LocalPart) : List Char → LocalPart
  | [] => part
  | c :: before =>
    if isLocalChar c then localPart { part with text := c :: part.text } before
    else if c == ':' then
      let scheme := (before.takeWhile Char.isAlpha).reverse
      if scheme == "mailto".toList then
        localPart { part with text := c :: part.text, hasScheme := true } before
      else if scheme == "xmpp".toList then
        localPart { text := c :: part.text, hasScheme := true, isChat := true } before
      else part
    else part

private def mailDomain? (isChat : Bool) : List Char → Option (List Char)
  | [] => some []
  | c :: rest =>
    if c == '@' then none
    else if c.isAlphanum || (c == '.' && rest.head?.any Char.isAlphanum) ||
        (c == '/' && isChat) || c == '-' || c == '_' then
      (mailDomain? isChat rest).map (c :: ·)
    else some []

/-- The address around an `@`, given the reversed text before it and the text after it: the part
before, the part after, and whether it has a scheme. -/
private def mailAddress? (before after : List Char) : Option (List Char × List Char × Bool) := do
  let part := localPart { text := [] } before
  let domain ← mailDomain? part.isChat after
  if !part.text.isEmpty && domain.contains '.' && domain.getLast?.any Char.isAlpha then
    some (part.text, domain, part.hasScheme)
  else none

/-- The first e-mail address of a text that is not inside brackets: the text before it, the
address, whether it has a scheme, and the text after it. -/
private def findMail (brackets : Int) (before : List Char) :
    List Char → Option (List Char × List Char × Bool × List Char)
  | [] => none
  | c :: rest =>
    let brackets := if c == '[' then brackets + 1 else if c == ']' then brackets - 1 else brackets
    let found := if brackets ≤ 0 && c == '@' then mailAddress? before rest else none
    match found with
    | some (localText, domain, hasScheme) =>
      some ((before.drop localText.length).reverse, localText ++ '@' :: domain, hasScheme,
        rest.drop domain.length)
    | none => findMail brackets (c :: before) rest

private def mailLinks : Nat → List Char → List Markup
  | 0, s => [.text s]
  | fuel + 1, s =>
    match findMail 0 [] s with
    | none => [.text s]
    | some (before, address, hasScheme, after) =>
      let url := if hasScheme then address else "mailto:".toList ++ address
      .text before :: selfLink url address ::
        if after.isEmpty then [] else mailLinks fuel after

def linkMailAddresses (s : List Char) : List Markup := mailLinks s.length s

end MarkdownOutline.Markdown
