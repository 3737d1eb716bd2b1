import MarkdownOutline.Toml.Quoted
import MarkdownOutline.Toml.Scalar

/-!
# Reading TOML

A document is a sequence of headers and of keys with their values, one to a line. What is read is
given together with the text behind it; a text that is no TOML reads as none.
-/

namespace MarkdownOutline.Toml

open Text

/-- How deep arrays and tables in braces may be nested, and how many parts a key may have. -/
def maxNesting : Nat := 80

/-- The text from the next character that is neither blank nor part of a comment. The flag tells
whether the text starts inside a comment. -/
def skipFiller : Bool → List Char → Option (List Char)
  | _, [] => some []
  | _, '\n' :: rest => skipFiller false rest
  | _, '\r' :: '\n' :: rest => skipFiller false rest
  | true, c :: rest => if isTextChar c then skipFiller true rest else none
  | false, c :: rest =>
    if c == '#' then skipFiller true rest
    else if isSpaceOrTab c then skipFiller false rest
    else some (c :: rest)

def skipSpaces (s : List Char) : List Char := s.dropWhile isSpaceOrTab

def endsLine (s : List Char) : Bool :=
  let s := skipSpaces s
  s.isEmpty || s.head? == some '#' || startsLineEnd s

def isBareKeyChar (c : Char) : Bool := c.isAlphanum || c == '_' || c == '-'

def isScalarChar (c : Char) : Bool := isBareKeyChar c || c == '+' || c == '.' || c == ':'

def keyPart? (s : List Char) : Option (String × List Char) :=
  match s.span isBareKeyChar with
  | ([], _) => lineString? s
  | (key, rest) => some (String.ofList key, rest)

def keyParts? (fuel : Nat) (s : List Char) : Option ((String × List String) × List Char) := do
  let (part, rest) ← keyPart? s
  match fuel, skipSpaces rest with
  | fuel + 1, '.' :: rest =>
    let ((next, more), rest) ← keyParts? fuel (skipSpaces rest)
    return ((part, next :: more), rest)
  | _, rest => return ((part, []), rest)

def key? (s : List Char) : Option ((String × List String) × List Char) := do
  let (key, rest) ← keyParts? s.length s
  if key.2.length < maxNesting then some (key, rest) else none

/-- The text from the next sign of a pair on, behind spaces; inside braces behind line ends and
comments too. -/
def skipInPair (braced : Bool) (s : List Char) : Option (List Char) :=
  if braced then skipFiller false s else some (skipSpaces s)

/-- A value without quotes or brackets. A date may have a time behind a space. -/
def scalarAt? (s : List Char) : Option (Value × List Char) :=
  let (text, rest) := s.span isScalarChar
  match date? text, rest with
  | some [], ' ' :: c :: behind =>
    if c.isDigit then
      let (time, rest) := (c :: behind).span isScalarChar
      (scalar? (text ++ ' ' :: time)).map (·, rest)
    else (scalar? text).map (·, rest)
  | _, _ => (scalar? text).map (·, rest)

mutual

/-- A value. The fuel bounds the number of steps, the nesting that of brackets around the value. -/
def value? (fuel nesting : Nat) (s : List Char) : Option (Value × List Char) :=
  match fuel with
  | 0 => none
  | fuel + 1 =>
    match s with
    | '"' :: _ => (string? s).map fun (text, rest) => (.string text, rest)
    | '\'' :: _ => (string? s).map fun (text, rest) => (.string text, rest)
    | '[' :: rest =>
      if nesting = 0 then none
      else (elements? fuel (nesting - 1) rest).map fun (values, rest) => (.array values, rest)
    | '\x7b' :: rest =>
      if nesting = 0 then none
      else (pairs? fuel (nesting - 1) [] rest).map fun (entries, rest) =>
        (.table .inline entries, rest)
    | _ => scalarAt? s

def elements? (fuel nesting : Nat) (s : List Char) : Option (List Value × List Char) :=
  match fuel with
  | 0 => none
  | fuel + 1 => do
    match ← skipFiller false s with
    | ']' :: rest => some ([], rest)
    | s =>
      let (value, rest) ← value? fuel nesting s
      match ← skipFiller false rest with
      | ',' :: rest => (elements? fuel nesting rest).map fun (values, rest) => (value :: values, rest)
      | ']' :: rest => some ([value], rest)
      | _ => none

/-- The entries of a table in braces, added to those before, from behind its opening brace or a
comma. -/
def pairs? (fuel nesting : Nat) (table : Table) (s : List Char) : Option (Table × List Char) :=
  match fuel with
  | 0 => none
  | fuel + 1 => do
    match ← skipFiller false s with
    | '\x7d' :: rest => some (table, rest)
    | s =>
      let ((key, more), value, rest) ← pair? true fuel nesting s
      let table ← Table.assign table key more value
      match ← skipFiller false rest with
      | ',' :: rest => pairs? fuel nesting table rest
      | '\x7d' :: rest => some (table, rest)
      | _ => none

/-- A key with its value, inside braces or on a line of its own. -/
def pair? (braced : Bool) (fuel nesting : Nat) (s : List Char) :
    Option ((String × List String) × Value × List Char) :=
  match fuel with
  | 0 => none
  | fuel + 1 => do
    let (key, rest) ← key? s
    let rest ← behind? '=' (← skipInPair braced rest)
    let (value, rest) ← value? fuel nesting (← skipInPair braced rest)
    return (key, value, rest)

end

/-- The keys of a header from behind its opening brackets, and what follows the closing ones. -/
def headerKeys? (closing s : List Char) : Option ((String × List String) × List Char) := do
  let (key, rest) ← key? (skipSpaces s)
  let rest := skipSpaces rest
  if closing.isPrefixOf rest then some (key, rest.drop closing.length) else none

def splitLast (first : String) : List String → List String × String
  | [] => ([], first)
  | next :: rest =>
    let (keys, last) := splitLast next rest
    (first :: keys, last)

/-- The document with one more line read into it: the header that the lines below belong to, the
document, and the text behind. -/
def line? (header : List String) (document : Table) (s : List Char) :
    Option (List String × Table × List Char) :=
  match s with
  | '[' :: '[' :: rest => do
    let ((first, more), rest) ← headerKeys? [']', ']'] rest
    let (around, key) := splitLast first more
    return (first :: more, ← Table.within around (Table.appendTable key) document, rest)
  | '[' :: rest => do
    let ((first, more), rest) ← headerKeys? [']'] rest
    let (around, key) := splitLast first more
    return (first :: more, ← Table.within around (Table.openTable key) document, rest)
  | _ => do
    let ((key, more), value, rest) ← pair? false (s.length + 2) maxNesting s
    return (header, ← Table.within header (Table.assign · key more value) document, rest)

def lines? (fuel : Nat) (header : List String) (document : Table) (s : List Char) : Option Table := do
  match fuel, ← skipFiller false s with
  | _, [] => return document
  | 0, _ => none
  | fuel + 1, s =>
    let (header, document, rest) ← line? header document s
    if endsLine rest then lines? fuel header document rest else none

/-- The document that a text holds. A byte order mark in front of it is skipped. -/
def Table.ofText? (text : String) : Option Table :=
  let s := match text.toList with
    | '\ufeff' :: rest => rest
    | s => s
  lines? (s.length + 1) [] [] s

end MarkdownOutline.Toml
