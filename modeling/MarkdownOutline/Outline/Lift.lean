import MarkdownOutline.Outline.Location

/-!
# Lists as sections

A list turns into headings one level of nesting at a time: the paragraph that an item starts with
is the heading, and the rest of the item stands under it.
-/

namespace MarkdownOutline

/-- The blocks of an item whose first paragraph is a heading. -/
def liftItem (depth : Nat) (item : Item) : List Block :=
  match item.children with
  | .paragraph p :: rest => .heading { depth, content := p.content } :: rest
  | children => children

/-- The blocks with the lists among them turned into headings of a depth. -/
def liftRound (depth : Nat) (blocks : List Block) : List Block :=
  blocks.flatMap fun
    | .list l => l.items.flatMap (liftItem depth)
    | block => [block]

/-- The blocks after a number of rounds, each one level deeper than the one before. -/
def liftRounds : Nat → Nat → List Block → List Block
  | 0, _, blocks => blocks
  | rounds + 1, depth, blocks => liftRounds rounds (depth + 1) (liftRound depth blocks)

/-- The number of rounds from a depth on that keep every heading at a depth that can be written. -/
def availableRounds (depth count : Nat) : Nat := min count (maxHeadingDepth - (depth - 1))

/-- The list as headings from a depth on, at most `count` levels of it. What is nested deeper stays
a list. -/
def ListBlock.toHeadings (depth count : Nat) (list : ListBlock) : List Block :=
  liftRounds (availableRounds (max depth 1) count) (max depth 1) [.list list]

/-- The document with the list that a line belongs to turned into headings below the heading above
it, as many levels of it as the line is deep. -/
def Document.listToHeading (document : Document) (line : Nat) : Document :=
  match document.lineState? line with
  | none => document
  | some state =>
    match document[state.blockIndex]? with
    | some (.list l) =>
      let above := state.headings.depth
      let count := min state.listDepth (maxHeadingDepth - min above maxHeadingDepth)
      document.take state.blockIndex ++ l.toHeadings (above + 1) count ++
        document.drop (state.blockIndex + 1)
    | _ => document

end MarkdownOutline
