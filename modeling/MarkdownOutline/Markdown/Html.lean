import MarkdownOutline.Text.Ascii

/-!
# Raw HTML

The tags, comments and declarations that Markdown passes through, as parts of a line of text and
as the lines that open and close a block of HTML. Every reader takes a text and gives what
follows the part it knows.
-/

namespace MarkdownOutline.Markdown.Html

open Text

def startsWithWord : List Char → List Char → Option (List Char)
  | [], s => some s
  | _ :: _, [] => none
  | w :: word, c :: rest => if c.toLower == w then startsWithWord word rest else none

private def isNameChar (c : Char) : Bool := c.isAlphanum || c == '-'

private def tagName? : List Char → Option (List Char)
  | c :: rest => if c.isAlpha then some (rest.dropWhile isNameChar) else none
  | [] => none

private def isAttributeStart (c : Char) : Bool := c.isAlpha || c == '_' || c == ':'

private def isAttributeChar (c : Char) : Bool :=
  c.isAlphanum || c == ':' || c == '.' || c == '_' || c == '-'

private def isUnquoted (c : Char) : Bool :=
  !(isTagSpace c || c == '"' || c == '\'' || c == '=' || c == '<' || c == '>' || c == '\x60' ||
    c == '\x00')

private def afterQuote (quote : Char) (s : List Char) : Option (List Char) :=
  match s.dropWhile (· != quote) with
  | _ :: rest => some rest
  | [] => none

private def attributeValue? (s : List Char) : Option (List Char) :=
  match s.dropWhile isTagSpace with
  | '=' :: rest =>
    match rest.dropWhile isTagSpace with
    | '"' :: quoted => afterQuote '"' quoted
    | '\'' :: quoted => afterQuote '\'' quoted
    | c :: plain => if isUnquoted c then some (plain.dropWhile isUnquoted) else none
    | [] => none
  | _ => none

private def attributes : Nat → List Char → List Char
  | 0, s => s
  | fuel + 1, s =>
    match s.dropWhile isTagSpace with
    | c :: rest =>
      if s.head?.any isTagSpace && isAttributeStart c then
        let afterName := rest.dropWhile isAttributeChar
        attributes fuel ((attributeValue? afterName).getD afterName)
      else s
    | [] => s

def openTag? (s : List Char) : Option (List Char) := do
  let afterName ← tagName? s
  match (attributes s.length afterName).dropWhile isTagSpace with
  | '/' :: '>' :: rest | '>' :: rest => some rest
  | _ => none

def closeTag? : List Char → Option (List Char)
  | '/' :: s => do
    let afterName ← tagName? s
    match afterName.dropWhile isTagSpace with
    | '>' :: rest => some rest
    | _ => none
  | _ => none

def tag? (s : List Char) : Option (List Char) := (closeTag? s).or (openTag? s)

/-- What follows `mark mark >`, where a pair of marks before another character is consumed
together with that character. -/
private def afterDoubled (mark : Char) : List Char → Option (List Char)
  | [] => none
  | [_] => none
  | [_, _] => none
  | a :: b :: c :: rest =>
    if a == mark then
      if b == mark then if c == '>' then some rest else afterDoubled mark rest
      else afterDoubled mark (c :: rest)
    else afterDoubled mark (b :: c :: rest)

/-- What follows `?>`, where a question mark takes the character after it along. -/
private def afterInstruction : List Char → Option (List Char)
  | [] => none
  | [_] => none
  | a :: b :: rest =>
    if a == '?' then if b == '>' then some rest else afterInstruction rest
    else afterInstruction (b :: rest)

/-- What follows the `<![CDATA[` whose `<!` was taken off, its letters in either case. -/
private def afterDataStart? (s : List Char) : Option (List Char) :=
  startsWithWord "[cdata[".toList s

/-- What follows a declaration whose `<!` was taken off: a name in capitals, space and anything
up to an angle bracket. -/
private def declaration? (s : List Char) : Option (List Char) :=
  let afterName := s.dropWhile Char.isUpper
  if s.head?.any Char.isUpper && afterName.head?.any isTagSpace then
    afterQuote '>' (afterName.dropWhile isTagSpace)
  else none

/-- What is known to be closed nowhere in the rest of a text, because it was opened there and not
closed: after an open comment nothing that starts with `<!` is read any more, and after an open
instruction no other instruction. -/
structure Unclosed where
  comment : Bool := false
  instruction : Bool := false

/-- A comment, declaration, instruction or tag, after its `<`. -/
def inline? (unclosed : Unclosed) (s : List Char) : Option (List Char) :=
  match s with
  | '!' :: rest =>
    if unclosed.comment then none
    else match rest with
      | '-' :: '-' :: '>' :: after => some after
      | '-' :: '-' :: '-' :: '>' :: after => some after
      | '-' :: '-' :: text => afterDoubled '-' text
      | '[' :: _ => (afterDataStart? rest).bind (afterDoubled ']')
      | _ => declaration? rest
  | '?' :: rest => if unclosed.instruction then none else afterInstruction rest
  | _ => tag? s

/-- What is known to be closed nowhere once no raw HTML was found in the text after a `<`. -/
def Unclosed.note (unclosed : Unclosed) (s : List Char) : Unclosed :=
  match s with
  | '!' :: '-' :: '-' :: _ => { unclosed with comment := true }
  | '?' :: _ => { unclosed with instruction := true }
  | _ => unclosed

/-- The kinds of a block of HTML, by the line that opens it. -/
inductive BlockKind where
  | verbatimElement
  | comment
  | instruction
  | declaration
  | characterData
  | blockElement
  | otherTag
  deriving DecidableEq

private def verbatimElements : List String := ["script", "pre", "textarea", "style"]

private def blockElements : List String := [
  "address", "article", "aside", "base", "basefont", "blockquote", "body", "caption", "center",
  "col", "colgroup", "dd", "details", "dialog", "dir", "div", "dl", "dt", "fieldset",
  "figcaption", "figure", "footer", "form", "frame", "frameset", "h1", "h2", "h3", "h4", "h5",
  "h6", "head", "header", "hr", "html", "iframe", "legend", "li", "link", "main", "menu",
  "menuitem", "nav", "noframes", "ol", "optgroup", "option", "p", "param", "search", "section",
  "summary", "table", "tbody", "td", "tfoot", "th", "thead", "title", "tr", "track", "ul"]

private def opensVerbatim (s : List Char) : Bool :=
  verbatimElements.any fun name =>
    match startsWithWord name.toList s with
    | some (c :: _) => isTagSpace c || c == '>'
    | _ => false

private def opensBlock (s : List Char) : Bool :=
  let s := if s.head? == some '/' then s.drop 1 else s
  blockElements.any fun name =>
    match startsWithWord name.toList s with
    | some ('/' :: '>' :: _) => true
    | some (c :: _) => isTagSpace c || c == '>'
    | _ => false

private def isLoneTag (s : List Char) : Bool :=
  match (tag? s).map (·.dropWhile fun c => c == ' ' || c == '\t' || c == '\x0c') with
  | some (c :: _) => isLineEnd c
  | _ => false

/-- The kind of block that a line opens. A lone tag of another element does not interrupt a
paragraph. -/
def opening? (inParagraph : Bool) : List Char → Option BlockKind
  | '<' :: s =>
    if opensVerbatim s then some .verbatimElement
    else match s with
      | '!' :: '-' :: '-' :: _ => some .comment
      | '?' :: _ => some .instruction
      | '!' :: rest =>
        if (afterDataStart? rest).isSome then some .characterData
        else if rest.head?.any Char.isUpper then some .declaration
        else none
      | _ =>
        if opensBlock s then some .blockElement
        else if !inParagraph && isLoneTag s then some .otherTag
        else none
  | _ => none

private def containsWord (word : List Char) : List Char → Bool
  | [] => word.isEmpty
  | c :: rest => (startsWithWord word (c :: rest)).isSome || containsWord word rest

/-- The line closes a block of the kind. The kinds that a blank line closes have no such line. -/
def BlockKind.isClosedBy (kind : BlockKind) (line : List Char) : Bool :=
  match kind with
  | .verbatimElement =>
    ["</script>", "</pre>", "</textarea>", "</style>"].any fun tag => containsWord tag.toList line
  | .comment => containsWord "-->".toList line
  | .instruction => containsWord "?>".toList line
  | .declaration => containsWord ">".toList line
  | .characterData => containsWord "]]>".toList line
  | .blockElement | .otherTag => false

def BlockKind.endsAtBlank : BlockKind → Bool
  | .blockElement | .otherTag => true
  | _ => false

end MarkdownOutline.Markdown.Html
