import MarkdownOutline.Text.Ascii

/-!
# TOML strings

Quoted texts on one line or on several, with escapes in double quotes and without in single ones.
A line ends with a line feed, or with a carriage return and a line feed; a text on several lines
keeps them as they are.
-/

namespace MarkdownOutline.Toml

open Text

/-- A character that may stand in a string or a comment: no control character but the tab. -/
def isTextChar (c : Char) : Bool := c == '\t' || !isControl c

def startsLineEnd : List Char → Bool
  | '\n' :: _ => true
  | '\r' :: '\n' :: _ => true
  | _ => false

/-- The text from the first character that is no space, tab or line end. -/
def skipBlankLines : List Char → List Char
  | [] => []
  | '\r' :: '\n' :: rest => skipBlankLines rest
  | c :: rest => if c == '\n' || isSpaceOrTab c then skipBlankLines rest else c :: rest

theorem length_skipBlankLines_le (s : List Char) : (skipBlankLines s).length ≤ s.length := by
  fun_induction skipBlankLines s with
  | case1 => simp
  | case2 rest ih => simp only [List.length_cons]; omega
  | case3 c rest _ _ ih => simp only [List.length_cons]; omega
  | case4 => simp

/-- The character of a code point, unless none has it. -/
def charOf? (code : Nat) : Option Char :=
  if code.isValidChar then some (Char.ofNat code) else none

def simpleEscape? : Char → Option Char
  | 'b' => some '\x08'
  | 't' => some '\t'
  | 'n' => some '\n'
  | 'f' => some '\x0c'
  | 'r' => some '\r'
  | 'e' => some '\x1b'
  | '"' => some '"'
  | '\\' => some '\\'
  | _ => none

/-- How many hexadecimal digits follow a letter behind a backslash. -/
def escapeWidth? : Char → Option Nat
  | 'x' => some 2
  | 'u' => some 4
  | 'U' => some 8
  | _ => none

/-- The character that an escape behind its backslash stands for, and how long the escape is. -/
def escape? : List Char → Option (Char × Nat)
  | [] => none
  | c :: rest =>
    match escapeWidth? c with
    | none => (simpleEscape? c).map (·, 1)
    | some width =>
      let digits := rest.take width
      if digits.length = width && digits.all isHexDigit then
        (charOf? (hexValue digits)).map (·, width + 1)
      else none

/-- The text that the inside of double quotes stands for. On several lines, a backslash at the end
of a line joins what follows after its blanks. -/
def unescape (multiline : Bool) (s : List Char) : Option (List Char) :=
  match s with
  | [] => some []
  | '\\' :: rest =>
    if multiline && startsLineEnd (rest.dropWhile isSpaceOrTab) then
      unescape multiline (skipBlankLines rest)
    else match escape? rest with
      | some (c, width) => (unescape multiline (rest.drop width)).map (c :: ·)
      | none => none
  | c :: rest =>
    if isTextChar c || (multiline && startsLineEnd (c :: rest)) then
      (unescape multiline rest).map (c :: ·)
    else none
termination_by s.length
decreasing_by
  · exact Nat.lt_succ_of_le (length_skipBlankLines_le rest)
  · simp only [List.length_cons, List.length_drop]; omega
  · simp

def isMultilineText : List Char → Bool
  | [] => true
  | c :: rest => (isTextChar c || startsLineEnd (c :: rest)) && isMultilineText rest

/-- The inside of a text in single quotes on one line, from behind the opening quote. -/
def literalText (s : List Char) : Option (List Char × List Char) :=
  match s.span (· != '\'') with
  | (text, _ :: rest) => if text.all isTextChar then some (text, rest) else none
  | (_, []) => none

def quotedBody : List Char → Option (List Char × List Char)
  | [] => none
  | '"' :: rest => some ([], rest)
  | '\\' :: c :: rest => (quotedBody rest).map fun (text, rest) => ('\\' :: c :: text, rest)
  | c :: rest => (quotedBody rest).map fun (text, rest) => (c :: text, rest)

/-- The inside of a text on several lines up to three quotes of its kind, its escapes unread. Up
to two more quotes in front of the closing ones belong to the text. -/
def multilineBody (quote : Char) : List Char → Option (List Char × List Char)
  | [] => none
  | c :: rest =>
    if c == quote && [quote, quote].isPrefixOf rest then
      let more := ((rest.drop 2).takeWhile (· == quote)).length.min 2
      some (List.replicate more quote, rest.drop (2 + more))
    else match c, quote, rest with
      | '\\', '"', d :: rest =>
        (multilineBody quote rest).map fun (text, rest) => ('\\' :: d :: text, rest)
      | c, _, rest => (multilineBody quote rest).map fun (text, rest) => (c :: text, rest)

def dropFirstBreak : List Char → List Char
  | '\n' :: rest => rest
  | '\r' :: '\n' :: rest => rest
  | s => s

/-- The text in quotes that starts here and may not span lines, and what stands behind it. -/
def lineString? : List Char → Option (String × List Char)
  | '"' :: rest => do
    let (body, rest) ← quotedBody rest
    return (String.ofList (← unescape false body), rest)
  | '\'' :: rest => do
    let (text, rest) ← literalText rest
    return (String.ofList text, rest)
  | _ => none

def string? : List Char → Option (String × List Char)
  | '"' :: '"' :: '"' :: rest => do
    let (body, rest) ← multilineBody '"' (dropFirstBreak rest)
    return (String.ofList (← unescape true body), rest)
  | '\'' :: '\'' :: '\'' :: rest => do
    let (text, rest) ← multilineBody '\'' (dropFirstBreak rest)
    if isMultilineText text then some (String.ofList text, rest) else none
  | s => lineString? s

end MarkdownOutline.Toml
