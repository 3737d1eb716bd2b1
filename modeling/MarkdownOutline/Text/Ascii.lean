/-!
# Classes of ASCII characters

The classes that the grammar of Markdown is written in. They hold ASCII characters only: a
character beyond ASCII belongs to none of them.
-/

namespace MarkdownOutline.Text

def isSpaceOrTab (c : Char) : Bool := c == ' ' || c == '\t'

def isLineEnd (c : Char) : Bool := c == '\n' || c == '\r'

/-- The space that separates the parts of an inline: space, tab and line ends. -/
def isSpacing (c : Char) : Bool := isSpaceOrTab c || isLineEnd c

/-- The space that may stand inside a tag or before a link title: spacing, line tabulation and
form feed. -/
def isTagSpace (c : Char) : Bool := isSpacing c || c == '\x0b' || c == '\x0c'

/-- The space around the cell of a table: all tag space that does not end the line. -/
def isCellSpace (c : Char) : Bool := isTagSpace c && !isLineEnd c

/-- ASCII punctuation, the characters that a backslash escapes. -/
def isAsciiPunctuation (c : Char) : Bool :=
  ('!' ≤ c && c ≤ '/') || (':' ≤ c && c ≤ '@') || ('[' ≤ c && c ≤ '\x60') || ('\x7b' ≤ c && c ≤ '~')

/-- A character below the space, or the delete character. -/
def isControl (c : Char) : Bool := c < ' ' || c == '\x7f'

def isHexDigit (c : Char) : Bool :=
  c.isDigit || ('a' ≤ c && c ≤ 'f') || ('A' ≤ c && c ≤ 'F')

/-- The value of a digit; letters count from ten on, in either case. -/
def digitValue (c : Char) : Nat :=
  if c.isDigit then c.toNat - '0'.toNat else c.toLower.toNat - 'a'.toNat + 10

def numberValue (base : Nat) (digits : List Char) : Nat :=
  digits.foldl (fun n c => base * n + digitValue c) 0

def hexValue (digits : List Char) : Nat := numberValue 16 digits

def decimalValue (digits : List Char) : Nat := numberValue 10 digits

end MarkdownOutline.Text
