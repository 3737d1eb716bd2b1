import MarkdownOutline.Proofs.Depths
import MarkdownOutline.Proofs.HeadingNumbers
import MarkdownOutline.Proofs.SectionEntries

/-!
# Headings that move along

A heading that moves to another depth takes the headings of its section along. Those that still can
be written stay headings, all shifted by the same distance. The others leave the top of the document
run by run: each run of headings that end up too deep becomes one list, in which every one of them
is an item.
-/

namespace MarkdownOutline

/-- The heading with the same content and place, at the depth where it ends up when `old` becomes
`new`. -/
def Heading.IsShifted (old new : Nat) (h shifted : Heading) : Prop :=
  shifted.content = h.content ∧ shifted.span = h.span ∧
    (shifted.depth : Int) = shiftedDepth old new h.depth

/-- What becomes of blocks when headings of depth `old` move to `new` and the others with them. A
heading is shifted if it can be, and other blocks stay as they are. Next to each other, headings that
end up too deep become a list with the blocks under them, which tells them in order and is followed
by the blocks that it cannot hold. -/
inductive MovedAlong (old new : Nat) : List Block → List Block → Prop
  | nil : MovedAlong old new [] []
  | kept (block : Block) {rest moved : List Block} (hblock : block.heading? = none)
      (hrest : MovedAlong old new rest moved) : MovedAlong old new (block :: rest) (block :: moved)
  | shifted {h shifted : Heading} {rest moved : List Block}
      (hfits : shiftedDepth old new h.depth ≤ maxHeadingDepth)
      (hshifted : h.IsShifted old new shifted) (hrest : MovedAlong old new rest moved) :
      MovedAlong old new (.heading h :: rest) (.heading shifted :: moved)
  | listed {h : Heading} {under rest moved : List Block} {items : List Item}
      (hdeep : ∀ g ∈ Document.topHeadings (.heading h :: under),
        (maxHeadingDepth : Int) < shiftedDepth old new g.depth)
      (hitems : ReadInOrder items (sectionEntries "" 0 (.heading h :: under)))
      (hrest : MovedAlong old new rest moved) :
      MovedAlong old new (.heading h :: (under ++ rest))
        (.list (.numbered items) :: (under.filter (·.kind == .other) ++ moved))

/-- The headings that are left at the top are those that can be written, in order. -/
theorem MovedAlong.topHeadings {old new : Nat} {blocks moved : Document}
    (h : MovedAlong old new blocks moved) :
    List.Forall₂ (Heading.IsShifted old new)
      (blocks.topHeadings.filter fun h => shiftedDepth old new h.depth ≤ maxHeadingDepth)
      moved.topHeadings := by
  induction h with
  | nil => exact .nil
  | kept block hblock hrest ih =>
    simpa only [Document.topHeadings, List.filterMap_cons, hblock] using ih
  | @shifted h shifted rest moved hfits hshifted hrest ih =>
    have htop : Document.topHeadings (.heading h :: rest) = h :: Document.topHeadings rest := rfl
    rw [htop, List.filter_cons_of_pos (by simpa using hfits)]
    exact .cons hshifted ih
  | @listed h under rest moved items hdeep hitems hrest ih =>
    have htop : Document.topHeadings (.heading h :: (under ++ rest)) =
        Document.topHeadings (.heading h :: under) ++ Document.topHeadings rest := by
      rw [← List.cons_append, Document.topHeadings, List.filterMap_append]
      rfl
    have hnone : (Document.topHeadings (.heading h :: under)).filter
        (fun h => shiftedDepth old new h.depth ≤ maxHeadingDepth) = [] := by
      apply List.filter_eq_nil_iff.mpr
      intro g hg
      simpa using hdeep g hg
    have hlist : Document.topHeadings
        (.list (.numbered items) :: (under.filter (·.kind == .other) ++ moved)) =
          Document.topHeadings moved := by
      have htail : (under.filter (·.kind == .other)).filterMap Block.heading? = [] := by
        apply List.filterMap_eq_nil_iff.mpr
        intro block hblock
        have hkind := (List.mem_filter.mp hblock).2
        cases block with
        | heading g => cases hkind
        | _ => rfl
      simp only [Document.topHeadings, List.filterMap_cons, Block.heading?, List.filterMap_append,
        htail, List.nil_append]
    rw [htop, List.filter_append, hnone, hlist]
    exact ih

theorem le_of_movesAlong {peers : Bool} {old depth : Nat} (h : movesAlong peers old depth = true) :
    old ≤ depth := by
  cases peers with
  | true => exact movesAlong_iff.mp h
  | false => exact Nat.le_of_lt (movesAlong_iff.mp h)

theorem Block.staysIn_of_isWithin {peers : Bool} {old depth : Nat} {block : Block}
    (hin : movesAlong peers old depth = true) (hwithin : block.isWithin depth = true) :
    block.staysIn peers old = true := by
  cases block with
  | heading g =>
    have hdepth : depth ≤ g.depth := by simpa using hwithin
    apply movesAlong_iff.mpr
    have hmoves := movesAlong_iff.mp hin
    cases peers with
    | true => exact Nat.le_trans hmoves hdepth
    | false => exact Nat.lt_of_lt_of_le hmoves hdepth
  | _ => rfl

theorem Block.heading?_eq_none {block : Block} (h : ∀ g, block = .heading g → False) :
    block.heading? = none := by
  cases block with
  | heading g => exact absurd rfl (h g)
  | _ => rfl

theorem Block.staysIn_of_heading?_eq_none {block : Block} (h : block.heading? = none)
    (peers : Bool) (depth : Nat) : block.staysIn peers depth = true := by
  simp [staysIn, headingDepth?, h]

/-- The sections that become a list are part of those that move along. -/
theorem staysIn_section {peers : Bool} {old : Nat} {h : Heading}
    (hin : movesAlong peers old h.depth = true) (rest : List Block) :
    (Block.heading h :: rest).takeWhile (Block.staysIn peers old) =
        .heading h :: (rest.takeWhile (Block.isWithin h.depth) ++
          (rest.dropWhile (Block.isWithin h.depth)).takeWhile (Block.staysIn peers old)) ∧
      (Block.heading h :: rest).dropWhile (Block.staysIn peers old) =
        (rest.dropWhile (Block.isWithin h.depth)).dropWhile (Block.staysIn peers old) := by
  have hsplit : rest.takeWhile (Block.isWithin h.depth) ++ rest.dropWhile (Block.isWithin h.depth) =
      rest := List.takeWhile_append_dropWhile
  have hstay : ∀ block ∈ rest.takeWhile (Block.isWithin h.depth),
      block.staysIn peers old = true := by
    intro block hblock
    apply Block.staysIn_of_isWithin hin
    exact List.all_eq_true.mp List.all_takeWhile block hblock
  have hheading : (Block.heading h).staysIn peers old = true := hin
  rw [List.takeWhile_cons_of_pos hheading, List.dropWhile_cons_of_pos hheading]
  constructor
  · conv_lhs => rw [← hsplit, List.takeWhile_append_of_pos hstay]
  · conv_lhs => rw [← hsplit, List.dropWhile_append_of_pos hstay]

end MarkdownOutline
