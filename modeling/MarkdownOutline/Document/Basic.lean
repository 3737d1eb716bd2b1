/-!
# Documents

A document is a sequence of blocks. Headings, paragraphs and lists are the blocks of an outline
and are known in full; every other block, and every inline that is not text or a line break, is
a tree of markup that the outline carries along unopened.
-/

namespace MarkdownOutline

/-- The lines that a block was read from, counted from 1, both ends included. -/
structure Span where
  first : Nat
  last : Nat
  deriving DecidableEq

def Span.contains (span : Span) (line : Nat) : Bool :=
  span.first ≤ line && line ≤ span.last

inductive Alignment where
  | none
  | left
  | center
  | right
  deriving DecidableEq

/-- What follows the number of an ordered list item. -/
inductive NumberDelimiter where
  | period
  | paren
  deriving DecidableEq

/-- The kinds of markup. The last one is text that is written as it stands. -/
inductive MarkupKind where
  | blockQuote
  | list (ordered : Bool) (start : Nat) (tight : Bool) (delimiter : NumberDelimiter)
  | item
  | codeBlock (fenced : Bool) (info literal : String)
  | htmlBlock (literal : String)
  | paragraph
  | heading (level : Nat)
  | thematicBreak
  | table (columns : List Alignment)
  | tableRow (header : Bool)
  | tableCell
  | text (value : String)
  | softBreak
  | lineBreak
  | code (literal : String)
  | htmlInline (literal : String)
  | emph
  | strong
  | strikethrough
  | link (url title : String)
  | image (url title : String)
  | verbatim (literal : String)
  deriving DecidableEq

/-- The kind stands on lines of its own, outside a paragraph. -/
def MarkupKind.isBlock : MarkupKind → Bool
  | .blockQuote | .list .. | .item | .codeBlock .. | .htmlBlock _ | .paragraph | .heading _
  | .thematicBreak | .table _ | .tableRow _ | .tableCell => true
  | _ => false

inductive Markup where
  | node (kind : MarkupKind) (children : List Markup)

instance : Inhabited Markup := ⟨.node .paragraph []⟩

namespace Markup

def kind : Markup → MarkupKind
  | .node kind _ => kind

def children : Markup → List Markup
  | .node _ children => children

def text (value : List Char) : Markup := .node (.text (String.ofList value)) []

def text? : Markup → Option String
  | .node (.text value) _ => some value
  | _ => none

def leaf (kind : MarkupKind) : Markup := .node kind []

end Markup

/-- A part of the content of a heading or paragraph. -/
inductive Inline where
  | text (value : String)
  | softBreak
  | lineBreak
  | other (markup : Markup)

def Inline.text? : Inline → Option String
  | .text value => some value
  | _ => none

/-- A heading. Depth 1 is the highest; a written heading has a depth of at most 6. -/
structure Heading where
  depth : Nat
  content : List Inline
  span : Option Span := none

def maxHeadingDepth : Nat := 6

/-- The depths that a heading can be written at. -/
def isHeadingDepth (depth : Int) : Bool := 1 ≤ depth && depth ≤ (maxHeadingDepth : Int)

/-- The first run of text in the content, where the title and its number stand. -/
def Heading.firstText? (heading : Heading) : Option String :=
  heading.content.findSome? Inline.text?

/-- The title as it stands, its number included. -/
def Heading.rawTitle (heading : Heading) : String := heading.firstText?.getD ""

structure Paragraph where
  content : List Inline
  span : Option Span := none

def Paragraph.ofText (text : String) : Paragraph := { content := [.text text] }

mutual

inductive Block where
  | heading (heading : Heading)
  | paragraph (paragraph : Paragraph)
  | list (list : ListBlock)
  | other (markup : Markup) (span : Option Span)

/-- A list. An ordered list is numbered from `start`; a tight one has no blank lines between its
items. -/
inductive ListBlock where
  | mk (ordered : Bool) (start : Nat) (tight : Bool) (items : List Item) (span : Option Span)

inductive Item where
  | mk (children : List Block) (span : Option Span)

end

instance : Inhabited ListBlock := ⟨.mk true 1 true [] none⟩

instance : Inhabited Block := ⟨.list default⟩

abbrev Document := List Block

namespace Item

def children : Item → List Block
  | .mk children _ => children

def span : Item → Option Span
  | .mk _ span => span

end Item

namespace ListBlock

def ordered : ListBlock → Bool
  | .mk ordered .. => ordered

def start : ListBlock → Nat
  | .mk _ start .. => start

def tight : ListBlock → Bool
  | .mk _ _ tight .. => tight

def items : ListBlock → List Item
  | .mk _ _ _ items _ => items

def span : ListBlock → Option Span
  | .mk _ _ _ _ span => span

def withStart (start : Nat) : ListBlock → ListBlock
  | .mk ordered _ tight items span => .mk ordered start tight items span

/-- A tight list numbered from 1, made and not read. -/
def numbered (items : List Item) : ListBlock := .mk true 1 true items none

end ListBlock

namespace Block

/-- The lines of the block. A block that was made and not read has none. -/
def span : Block → Option Span
  | .heading h => h.span
  | .paragraph p => p.span
  | .list l => l.span
  | .other _ lines => lines

def heading? : Block → Option Heading
  | .heading h => some h
  | _ => none

def list? : Block → Option ListBlock
  | .list l => some l
  | _ => none

def headingDepth? (block : Block) : Option Nat := block.heading?.map (·.depth)

theorem heading?_eq_some_iff {block : Block} {heading : Heading} :
    block.heading? = some heading ↔ block = .heading heading := by
  cases block <;> simp [heading?]

theorem list?_eq_some_iff {block : Block} {list : ListBlock} :
    block.list? = some list ↔ block = .list list := by
  cases block <;> simp [list?]

@[simp] theorem headingDepth?_heading (heading : Heading) :
    (Block.heading heading).headingDepth? = some heading.depth := rfl

theorem headingDepth?_eq_some_iff {block : Block} {depth : Nat} :
    block.headingDepth? = some depth ↔ ∃ h : Heading, h.depth = depth ∧ block = .heading h := by
  simp only [headingDepth?, Option.map_eq_some_iff, heading?_eq_some_iff, and_comm]

/-- The block was read from lines that include `line`. -/
def covers (block : Block) (line : Nat) : Bool := block.span.any (·.contains line)

end Block

def Item.covers (item : Item) (line : Nat) : Bool := item.span.any (·.contains line)

def ListBlock.covers (list : ListBlock) (line : Nat) : Bool := list.span.any (·.contains line)

end MarkdownOutline
