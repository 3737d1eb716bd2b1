import MarkdownOutline.Markdown.Writer
import MarkdownOutline.Outline.Location

/-!
# Sections as documents

The blocks under a heading, written as a document of their own with their headings moved up.
-/

namespace MarkdownOutline

/-- A section on its own: the title as it stands, and the text under it. -/
structure Section where
  title : String := ""
  content : String := ""
  deriving DecidableEq

def Section.isEmpty (s : Section) : Bool := s.title.isEmpty && s.content.isEmpty

/-- The block with the depth of a heading counted from the owner's; 1 is the least. -/
def Block.relativeTo (owner : Nat) : Block → Block
  | .heading h => .heading { h with depth := max (h.depth - owner) 1 }
  | block => block

def Section.ofBlocks (heading : Heading) (body : List Block) : Section :=
  ⟨heading.rawTitle, Document.toMarkdown (body.map (Block.relativeTo heading.depth))⟩

/-- The blocks under a heading of a depth: those up to the next heading that is not deeper. -/
def sectionBody (depth : Nat) (blocks : List Block) : List Block :=
  blocks.takeWhile fun block => block.headingDepth?.all (depth < ·)

/-- The section of the heading that a line belongs to; empty if it belongs to none. -/
def Document.sectionAt (document : Document) (line : Nat) : Section :=
  match document.owningHeading? line with
  | none => {}
  | some (index, heading) =>
    .ofBlocks heading (sectionBody heading.depth (document.drop (index + 1)))

/-- The blocks up to the first heading of a depth or above, and the headings of the depth with the
blocks under each, up to the first heading above. -/
def peerBodies (depth : Nat) : List Block → List Block × List (Heading × List Block)
  | [] => ([], [])
  | block :: rest =>
    match block.heading? with
    | some h =>
      if h.depth < depth then ([], [])
      else
        let (body, peers) := peerBodies depth rest
        if h.depth = depth then ([], (h, body) :: peers) else (block :: body, peers)
    | none =>
      let (body, peers) := peerBodies depth rest
      (block :: body, peers)

/-- The sections of the heading that a line belongs to and of those of its depth around it. -/
def Document.peerSectionsAt (document : Document) (line : Nat) : List Section :=
  match document.owningHeading? line with
  | none => []
  | some (index, heading) =>
    let first := document.firstPeer index heading.depth
    (peerBodies heading.depth (document.drop first)).2.map fun (h, body) => .ofBlocks h body

end MarkdownOutline
