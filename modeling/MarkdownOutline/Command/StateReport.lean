import MarkdownOutline.Outline.Location

/-!
# Reports on lines

What a line of a document belongs to, written for readers and as JSON.
-/

namespace MarkdownOutline

def dotSeparated (numbers : List Nat) : String := ".".intercalate (numbers.map Nat.repr)

/-- The number of the last heading, with a part for every level down to its own. -/
def LineState.headingNumber (state : LineState) : String := dotSeparated (state.headings.number 1)

/-- The name of a kind of blocks in a report for readers. -/
def BlockKind.title : BlockKind → String
  | .heading => "Heading"
  | .paragraph => "Paragraph"
  | .list => "List"
  | .other => "Other"

/-- The name of a kind of blocks in JSON. -/
def BlockKind.key : BlockKind → String
  | .heading => "heading"
  | .paragraph => "paragraph"
  | .list => "list"
  | .other => "other"

def stateText (line : Nat) : Option LineState → String
  | none => "line " ++ Nat.repr line ++ ": no markdown node\n"
  | some state =>
    let heading :=
      if state.headings.depth = 0 then "(none)"
      else "depth " ++ Nat.repr state.headings.depth ++ ", index " ++ state.headingNumber
    let list :=
      if state.listDepth = 0 then "(none)"
      else "depth " ++ Nat.repr state.listDepth ++ ", index " ++ dotSeparated state.listPath
    "line:     " ++ Nat.repr line ++ "\n" ++
      "node:     " ++ state.blockKind.title ++ " (#" ++ Nat.repr state.blockIndex ++ ")\n" ++
      "heading:  " ++ heading ++ "\n" ++
      "list:     " ++ list ++ "\n"

/-- Numbers as a JSON array inside an object, an entry to a line. -/
def jsonNumbers (numbers : List Nat) : String :=
  if numbers.isEmpty then "[]"
  else "[\n    " ++ ",\n    ".intercalate (numbers.map Nat.repr) ++ "\n  ]"

def stateJson (line : Nat) : Option LineState → String
  | none => "null\n"
  | some state =>
    let fields := [("line", Nat.repr line),
      ("node_kind", "\"" ++ state.blockKind.key ++ "\""),
      ("node_index", Nat.repr state.blockIndex),
      ("heading_depth", Nat.repr state.headings.depth),
      ("heading_index", "\"" ++ state.headingNumber ++ "\""),
      ("list_depth", Nat.repr state.listDepth),
      ("list_index", jsonNumbers state.listPath)]
    "\x7b\n" ++ ",\n".intercalate (fields.map fun (key, value) => "  \"" ++ key ++ "\": " ++ value) ++
      "\n\x7d\n"

end MarkdownOutline
