import MarkdownOutline.Outline.Flatten

/-!
# Moving headings to another depth

A heading takes the headings of its section along by the same distance. Those that would end up
too deep turn into a list.
-/

namespace MarkdownOutline

/-- The heading is moved along with one of depth `old`, or with its peers too. -/
def movesAlong (peers : Bool) (old depth : Nat) : Bool := if peers then old ≤ depth else old < depth

/-- The depth that a heading of a depth ends up at when `old` becomes `new`. -/
def shiftedDepth (old new depth : Nat) : Int := (depth : Int) + ((new : Int) - (old : Int))

/-- The blocks after a heading that moved from depth `old` to `new`, with the headings that move
along shifted until the first one that does not. A heading that would end up too deep turns into a
list, together with the sections next to it. -/
def cascade (peers : Bool) (old new : Nat) : List Block → List Block
  | [] => []
  | .heading h :: rest =>
    if !movesAlong peers old h.depth then .heading h :: rest
    else if isHeadingDepth (shiftedDepth old new h.depth) then
      .heading { h with depth := (shiftedDepth old new h.depth).toNat } :: cascade peers old new rest
    else
      let (items, tail) :=
        flattenBlocks "" 0 (.heading h :: rest.takeWhile (Block.isWithin h.depth))
      .list (.numbered items) ::
        (tail ++ cascade peers old new (rest.dropWhile (Block.isWithin h.depth)))
  | block :: rest => block :: cascade peers old new rest
termination_by blocks => blocks.length
decreasing_by
  all_goals simp only [List.length_cons]
  · omega
  · exact Nat.lt_succ_of_le (List.dropWhile_sublist _).length_le
  · omega

/-- The document with the heading that starts at a line moved to another depth, and the headings
of its section with it. With `peers`, the headings of its depth around it move too. A depth that
cannot be written changes nothing. -/
def Document.retargetHeading (document : Document) (line depth : Nat) (peers : Bool) : Document :=
  if !isHeadingDepth depth then document
  else match document.headingStartingAt? line with
    | none => document
    | some index =>
      match document[index]?.bind Block.headingDepth? with
      | none => document
      | some old =>
        let first := if peers then document.firstPeer index old else index
        match document.drop first with
        | .heading h :: rest =>
          document.take first ++ .heading { h with depth } :: cascade peers h.depth depth rest
        | _ => document

end MarkdownOutline
