import MarkdownOutline.Markdown.BlockChain
import MarkdownOutline.Markdown.InlineReader

/-!
# Reading documents

A text becomes drafts and link definitions, and the drafts become blocks once their inlines are
read. Inside a block that the outline does not open, everything becomes markup. The inlines are
read in the order of the text, since every reference to a definition leaves less room for others.
-/

namespace MarkdownOutline

open Markdown

/-- The inline that a piece of markup is in a heading or paragraph. -/
def Inline.ofMarkup : Markup → Inline
  | .node (.text value) _ => .text value
  | .node .softBreak _ => .softBreak
  | .node .lineBreak _ => .lineBreak
  | m => .other m

namespace Markdown

/-- Reading that uses up references. -/
abbrev Referring := StateM References

private def rowMarkup (header : Bool) (cells : List (List Char)) : Referring Markup := do
  let cells ← cells.mapM fun cell => do
    pure (Markup.node .tableCell (← readInlines cell))
  pure (.node (.tableRow header) cells)

def DraftLeaf.toMarkup : DraftLeaf → Referring Markup
  | .paragraph text => do pure (.node .paragraph (← readInlines text))
  | .heading level text => do pure (.node (.heading level) (← readInlines text))
  | .code fenced info literal =>
    pure (.leaf (.codeBlock fenced (String.ofList info) (String.ofList literal)))
  | .html literal => pure (.leaf (.htmlBlock (String.ofList literal)))
  | .thematicBreak => pure (.leaf .thematicBreak)
  | .table columns [] => pure (.leaf (.table columns))
  | .table columns (header :: rows) => do
    let first ← rowMarkup true header
    let others ← rows.mapM (rowMarkup false)
    pure (.node (.table columns) (first :: others))

mutual

def Draft.toMarkup : Draft → Referring Markup
  | .leaf leaf _ => leaf.toMarkup
  | .quote children _ => do pure (.node .blockQuote (← draftsMarkup children))
  | .list marker tight items _ => do
    let items ← itemsMarkup items
    pure (.node (.list marker.ordered marker.start tight marker.delimiter) items)

def DraftItem.toMarkup : DraftItem → Referring Markup
  | .mk children _ => do pure (.node .item (← draftsMarkup children))

def draftsMarkup : List Draft → Referring (List Markup)
  | [] => pure []
  | draft :: rest => do
    let markup ← draft.toMarkup
    let others ← draftsMarkup rest
    pure (markup :: others)

def itemsMarkup : List DraftItem → Referring (List Markup)
  | [] => pure []
  | item :: rest => do
    let markup ← item.toMarkup
    let others ← itemsMarkup rest
    pure (markup :: others)

end

def readContent (text : List Char) : Referring (List Inline) := do
  pure ((← readInlines text).map Inline.ofMarkup)

mutual

def Draft.toBlock : Draft → Referring Block
  | .leaf (.paragraph text) span => do pure (.paragraph ⟨← readContent text, some span⟩)
  | .leaf (.heading level text) span => do
    pure (.heading ⟨level, ← readContent text, some span⟩)
  | .leaf leaf span => do pure (.other (← leaf.toMarkup) (some span))
  | .quote children span => do
    pure (.other (← Draft.toMarkup (.quote children span)) (some span))
  | .list marker tight items span => do
    let items ← itemsBlocks items
    pure (.list (.mk marker.ordered marker.start tight items (some span)))

def DraftItem.toItem : DraftItem → Referring Item
  | .mk children span => do pure (.mk (← draftsBlocks children) (some span))

def draftsBlocks : List Draft → Referring (List Block)
  | [] => pure []
  | draft :: rest => do
    let block ← draft.toBlock
    let others ← draftsBlocks rest
    pure (block :: others)

def itemsBlocks : List DraftItem → Referring (List Item)
  | [] => pure []
  | item :: rest => do
    let item ← item.toItem
    let others ← itemsBlocks rest
    pure (item :: others)

end

end Markdown

/-- The document that a Markdown text describes. -/
def Document.ofMarkdown (text : String) : Document :=
  let (drafts, targets) := BlockChain.read text.toList
  ((Markdown.draftsBlocks drafts).run (.ofText targets text)).1

end MarkdownOutline
