import MarkdownOutline.Text.Blank
import MarkdownOutline.Text.CaseFold
import MarkdownOutline.Markdown.CharacterReference

/-!
# The parts of a link

Labels in brackets, destinations and titles, each read from the front of a text together with
what follows it, and the definitions `[label]: destination "title"` made of them.
-/

namespace MarkdownOutline.Markdown

open Text

def maxLabelLength : Nat := 1000

private def labelBody : Nat → List Char → List Char → Option (List Char × List Char)
  | _, _, [] => none
  | used, taken, '\\' :: c :: rest =>
    if isAsciiPunctuation c then
      if used + 2 > maxLabelLength then none else labelBody (used + 2) (c :: '\\' :: taken) rest
    else if used + 1 > maxLabelLength then none
    else labelBody (used + 1) ('\\' :: taken) (c :: rest)
  | used, taken, c :: rest =>
    if c == ']' then some (trimBy isSpacing taken.reverse, rest)
    else if c == '[' || used + c.utf8Size > maxLabelLength then none
    else labelBody (used + c.utf8Size) (c :: taken) rest
termination_by _ _ s => s.length

def linkLabel? : List Char → Option (List Char × List Char)
  | '[' :: rest => labelBody 0 [] rest
  | _ => none

private def collapseBlanks : Bool → List Char → List Char
  | _, [] => []
  | after, c :: rest =>
    if isBlank c then if after then collapseBlanks true rest else ' ' :: collapseBlanks true rest
    else c :: collapseBlanks false rest

/-- Labels are the same when they agree but for case and the width of white space. -/
def normalizeLabel (label : List Char) : List Char :=
  caseFold (collapseBlanks false (trimBy isSpacing label))

private def angleDestination : List Char → List Char → Option (List Char × List Char)
  | _, [] => none
  | taken, [c] => if c == '>' then some (taken.reverse, []) else none
  | taken, c :: d :: rest =>
    if c == '>' then some (taken.reverse, d :: rest)
    else if c == '\n' || c == '<' then none
    else if c == '\\' then angleDestination (d :: c :: taken) rest
    else angleDestination (c :: taken) (d :: rest)

/-- The destination without angle brackets: no space or control character, parentheses in
pairs, at most 32 deep. -/
private def bareDestination : Nat → List Char → List Char → Option (List Char × List Char)
  | _, _, [] => none
  | depth, taken, [c] =>
    if c == ')' && depth == 0 || isSpacing c || isControl c then
      if depth == 0 then some (taken.reverse, [c]) else none
    else none
  | depth, taken, c :: d :: rest =>
    if c == '\\' && isAsciiPunctuation d then bareDestination depth (d :: c :: taken) rest
    else if c == '(' then
      if depth + 1 > 32 then none else bareDestination (depth + 1) (c :: taken) (d :: rest)
    else if c == ')' then
      if depth == 0 then some (taken.reverse, c :: d :: rest)
      else bareDestination (depth - 1) (c :: taken) (d :: rest)
    else if isSpacing c || isControl c then
      if depth == 0 then some (taken.reverse, c :: d :: rest) else none
    else bareDestination depth (c :: taken) (d :: rest)

/-- The destination at the front of a text, and what follows it. A text ends no destination:
something has to follow. -/
def linkDestination? (s : List Char) : Option (List Char × List Char) :=
  match s with
  | '<' :: rest =>
    match angleDestination [] rest with
    | some (_, []) | none => none
    | found => found
  | c :: _ => if isSpacing c || isControl c then none else bareDestination 0 [] s
  | [] => none

/-- The length of a title's text and closing mark. A closing mark after a backslash closes only
if no later one does. -/
private def titleLength (opening closing : Char) : Bool → List Char → Option Nat
  | _, [] => none
  | escaped, c :: rest =>
    if c == closing then
      if escaped then ((titleLength opening closing false rest).map (· + 1)).or (some 1)
      else some 1
    else if c == opening && !escaped then none
    else (titleLength opening closing (c == '\\') rest).map (· + 1)

/-- The title at the front of a text, its marks included, and what follows it. -/
def linkTitle? (s : List Char) : Option (List Char × List Char) :=
  let split (length? : Option Nat) := length?.map fun n => (s.take (n + 1), s.drop (n + 1))
  match s with
  | '"' :: rest => split (titleLength '"' '"' false rest)
  | '\'' :: rest => split (titleLength '\'' '\'' false rest)
  | '(' :: rest => split (titleLength '(' ')' false rest)
  | _ => none

def cleanDestination (s : List Char) : List Char := resolve (trimBy isSpacing s)

def cleanTitle (s : List Char) : List Char := resolve (s.drop 1).dropLast

/-- What a label refers to. -/
structure LinkTarget where
  url : List Char
  title : List Char

abbrev LinkTargets := List (List Char × LinkTarget)

/-- The target of a label: the first one it was defined with. -/
def LinkTargets.find? (targets : LinkTargets) (label : List Char) : Option LinkTarget :=
  targets.lookup (normalizeLabel label)

def LinkTarget.size (target : LinkTarget) : Nat :=
  (String.ofList target.url).utf8ByteSize + (String.ofList target.title).utf8ByteSize

/-- The targets that labels may still refer to. Every reference copies its target, and all copies
together have to fit into the `room`. -/
structure References where
  targets : LinkTargets
  room : Nat

/-- The room for the copies in a document that is always there. -/
def leastReferenceRoom : Nat := 100000

/-- The references of a text with these targets: the room grows with the text. -/
def References.ofText (targets : LinkTargets) (text : String) : References :=
  ⟨targets, max leastReferenceRoom text.utf8ByteSize⟩

/-- The target of a label, if there is room for a copy of it, and the references after that. -/
def References.refer? (references : References) (label : List Char) :
    Option (LinkTarget × References) :=
  (references.targets.find? label).bind fun target =>
    if target.size ≤ references.room then
      some (target, { references with room := references.room - target.size })
    else none

private def skipSpacesAndLineEnd (s : List Char) : List Char :=
  match s.dropWhile isSpaceOrTab with
  | '\n' :: rest => rest.dropWhile isSpaceOrTab
  | rest => rest

private def restOfLine? (s : List Char) : Option (List Char) :=
  match s.dropWhile isSpaceOrTab with
  | [] => some []
  | '\n' :: rest => some rest
  | _ => none

/-- The definition at the front of a text, and what follows it. A title that does not end its
line is no title, and the definition then ends before it. -/
def linkDefinition? (s : List Char) : Option ((List Char × LinkTarget) × List Char) := do
  let (label, afterLabel) ← linkLabel? s
  if label.isEmpty then none else
    let ':' :: afterColon := afterLabel | none
    let (url, afterUrl) ← linkDestination? (skipSpacesAndLineEnd afterColon)
    let beforeTitle := skipSpacesAndLineEnd afterUrl
    let title? := if beforeTitle.length == afterUrl.length then none else linkTitle? beforeTitle
    let define (title : List Char) := (normalizeLabel label, ⟨cleanDestination url, cleanTitle title⟩)
    match title? with
    | some (title, afterTitle) =>
      match restOfLine? afterTitle with
      | some rest => some (define title, rest)
      | none => (restOfLine? afterUrl).map fun rest => (define title, rest)
    | none => (restOfLine? afterUrl).map fun rest => (define [], rest)

/-- The definitions at the front of a text, of which there are no more than `fuel`, and what follows
them. -/
def definitions : Nat → List Char → LinkTargets × List Char
  | 0, s => ([], s)
  | fuel + 1, s =>
    match linkDefinition? s with
    | none => ([], s)
    | some (definition, rest) =>
      let (more, after) := definitions fuel rest
      (if definition.1.isEmpty then more else definition :: more, after)

def linkDefinitions (s : List Char) : LinkTargets × List Char := definitions s.length s

end MarkdownOutline.Markdown
