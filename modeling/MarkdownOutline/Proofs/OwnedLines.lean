import MarkdownOutline.Outline.Location
import MarkdownOutline.Proofs.Counters
import Mathlib.Data.List.Forall2

/-!
# The owners of lines

A line belongs to the first block of the document that covers it. The state of the line counts the
headings up to that block and tells the place in it.
-/

namespace MarkdownOutline

/-- The line belongs to the block at the index: the first one that covers it. -/
def Document.OwnsLine (document : Document) (index line : Nat) : Prop :=
  document.findIdx? (Block.covers · line) = some index

instance (document : Document) (index line : Nat) : Decidable (document.OwnsLine index line) :=
  inferInstanceAs (Decidable (_ = _))

def Document.HeadingStartsAt (document : Document) (index line : Nat) : Prop :=
  ∃ heading span, document[index]? = some (.heading heading) ∧ heading.span = some span ∧
    span.first = line

def Document.HeadingsOwnStarts (document : Document) : Prop :=
  ∀ index heading, document[index]? = some (.heading heading) →
    ∃ span, heading.span = some span ∧ document.OwnsLine index span.first

instance (document : Document) : Decidable document.HeadingsOwnStarts :=
  decidable_of_iff (∀ index < document.length, (document[index]?.bind Block.heading?).all
      fun heading => heading.span.any fun span => decide (document.OwnsLine index span.first)) <| by
    simp only [Option.all_eq_true, Option.any_eq_true, decide_eq_true_eq, Option.bind_eq_some_iff,
      Block.heading?_eq_some_iff]
    constructor
    · intro h index heading hheading
      obtain ⟨hbound, -⟩ := List.getElem?_eq_some_iff.mp hheading
      exact h index hbound heading ⟨_, hheading, rfl⟩
    · rintro h index - heading ⟨block, hblock, rfl⟩
      exact h index heading hblock

/-- The state of a line among blocks is told by the first one that covers it. -/
theorem lineStateFrom_eq {line index : Nat} {blocks : List Block} {block : Block}
    (howns : Document.OwnsLine blocks index line) (hblock : blocks[index]? = some block)
    (counters : HeadingCounters) (before : Nat) :
    lineStateFrom line counters before blocks =
      some ⟨(blocks.take (index + 1)).foldl HeadingCounters.pass counters, block.path line,
        before + index, block.kind⟩ := by
  unfold Document.OwnsLine at howns
  induction blocks generalizing index counters before with
  | nil => simp at howns
  | cons first rest ih =>
    rw [List.findIdx?_cons] at howns
    by_cases hcovers : first.covers line = true
    · rw [if_pos hcovers] at howns
      obtain rfl : 0 = index := Option.some.inj howns
      obtain rfl : first = block := Option.some.inj hblock
      simp [lineStateFrom, hcovers]
    · rw [if_neg hcovers] at howns
      obtain ⟨later, hlater, rfl⟩ := Option.map_eq_some_iff.mp howns
      have hrest := ih hlater hblock (counters.pass first) (before + 1)
      simp only [lineStateFrom, hcovers, if_false, Bool.false_eq_true, hrest, List.take_succ_cons,
        List.foldl_cons]
      congr 2
      omega

theorem Document.OwnsLine.covers {document : Document} {index line : Nat} {block : Block}
    (h : document.OwnsLine index line) (hblock : document[index]? = some block) :
    block.covers line = true := by
  obtain ⟨hbound, hcovers, -⟩ := List.findIdx?_eq_some_iff_getElem.mp h
  obtain ⟨-, rfl⟩ := List.getElem?_eq_some_iff.mp hblock
  exact hcovers

theorem Document.ownsLine_of_lineState? {document : Document} {line : Nat} {state : LineState}
    (hstate : document.lineState? line = some state) : document.OwnsLine state.blockIndex line := by
  have hfrom (blocks : List Block) (counters : HeadingCounters) (before : Nat)
      (h : lineStateFrom line counters before blocks = some state) :
      ∃ index, Document.OwnsLine blocks index line ∧ state.blockIndex = before + index := by
    induction blocks generalizing counters before with
    | nil => simp [lineStateFrom] at h
    | cons first rest ih =>
      simp only [lineStateFrom] at h
      split at h
      next hcovers =>
        obtain rfl := Option.some.inj h
        exact ⟨0, by simp [OwnsLine, List.findIdx?_cons, hcovers], rfl⟩
      next hcovers =>
        obtain ⟨index, howns, hindex⟩ := ih _ _ h
        refine ⟨index + 1, ?_, by omega⟩
        unfold OwnsLine at howns ⊢
        simp [List.findIdx?_cons, hcovers, howns]
  obtain ⟨index, howns, hindex⟩ := hfrom document {} 0 hstate
  rw [hindex, Nat.zero_add]
  exact howns

theorem Document.owningHeading?_eq {document : Document} {index line : Nat} {heading : Heading}
    (howns : document.OwnsLine index line) (hheading : document[index]? = some (.heading heading)) :
    document.owningHeading? line = some (index, heading) := by
  have hstate := lineStateFrom_eq howns hheading {} 0
  rw [Nat.zero_add] at hstate
  simp [owningHeading?, lineState?, hstate, hheading, Block.heading?]

theorem Document.headingStartsAt_iff {document : Document} {index line : Nat} :
    document.HeadingStartsAt index line ↔
      ∃ block, document[index]? = some block ∧
        block.heading?.any (fun h => h.span.any (·.first == line)) = true := by
  constructor
  · rintro ⟨heading, span, hheading, hspan, hfirst⟩
    exact ⟨.heading heading, hheading, by simp [Block.heading?, hspan, hfirst]⟩
  · rintro ⟨block, hblock, hstarts⟩
    obtain ⟨heading, hheading, hstarts⟩ := (Option.any_eq_true _ _).mp hstarts
    obtain ⟨span, hspan, hfirst⟩ := (Option.any_eq_true _ _).mp hstarts
    obtain rfl := Block.heading?_eq_some_iff.mp hheading
    exact ⟨heading, span, hblock, hspan, by simpa using hfirst⟩

theorem Document.exists_headingStartingAt? {document : Document} {line : Nat}
    (hstarts : ∃ k, document.HeadingStartsAt k line) :
    ∃ index, document.headingStartingAt? line = some index ∧
      document.HeadingStartsAt index line ∧ ∀ k, document.HeadingStartsAt k line → index ≤ k := by
  obtain ⟨k, hk⟩ := hstarts
  cases hfound : document.headingStartingAt? line with
  | none =>
    obtain ⟨block, hblock, hheading⟩ := headingStartsAt_iff.mp hk
    have hnone := List.findIdx?_eq_none_iff.mp hfound block (List.mem_of_getElem? hblock)
    rw [hheading] at hnone
    cases hnone
  | some index =>
    obtain ⟨hbound, hheading, hbefore⟩ := List.findIdx?_eq_some_iff_getElem.mp hfound
    refine ⟨index, rfl, headingStartsAt_iff.mpr ⟨_, List.getElem?_eq_getElem hbound, hheading⟩, ?_⟩
    intro j hj
    apply Nat.le_of_not_lt
    intro hlt
    obtain ⟨block, hblock, hother⟩ := headingStartsAt_iff.mp hj
    obtain ⟨_, rfl⟩ := List.getElem?_eq_some_iff.mp hblock
    exact hbefore j hlt hother

theorem Document.headingStartingAt?_eq {document : Document} {index line : Nat}
    (hstarts : ∀ k, document.HeadingStartsAt k line ↔ k = index) :
    document.headingStartingAt? line = some index := by
  obtain ⟨found, hfound, hheading, -⟩ := exists_headingStartingAt? ⟨index, (hstarts index).mpr rfl⟩
  rw [hfound, (hstarts found).mp hheading]

/-- The two blocks cannot be told apart by the states of lines. -/
structure Block.SeenAs (block other : Block) : Prop where
  span : other.span = block.span
  path : ∀ line, other.path line = block.path line
  kind : other.kind = block.kind
  depth : other.headingDepth? = block.headingDepth?

theorem Block.SeenAs.refl (block : Block) : block.SeenAs block := ⟨rfl, fun _ => rfl, rfl, rfl⟩

theorem Block.seenAs_heading (numbering : HeadingNumbering) (counters : HeadingCounters)
    (heading : Heading) :
    (Block.heading heading).SeenAs (.heading (numbering.observe counters heading).2) where
  span := numbering.observe_span counters heading
  path := fun _ => rfl
  kind := rfl
  depth := congrArg some (numbering.observe_depth counters heading)

theorem Block.seenAs_list (numbering : ListNumbering) (list : ListBlock) :
    (Block.list list).SeenAs (.list (numbering.observe list)) where
  span := numbering.span_observe list
  path := by
    intro line
    simp only [Block.path, ListBlock.path, maxListDepth, ListBlock.pathWithin,
      numbering.items_observe]
  kind := rfl
  depth := rfl

theorem Document.numberBlocks_seenAs (numbering : HeadingNumbering) (lists : ListNumbering)
    (counters : HeadingCounters) (blocks : List Block) :
    List.Forall₂ Block.SeenAs blocks (numberBlocks numbering lists counters blocks) := by
  induction blocks generalizing counters with
  | nil => exact .nil
  | cons block rest ih =>
    cases block with
    | heading h => exact .cons (Block.seenAs_heading numbering counters h) (ih _)
    | list l => exact .cons (Block.seenAs_list lists l) (ih _)
    | paragraph p => exact .cons (.refl _) (ih _)
    | other m span => exact .cons (.refl _) (ih _)

theorem lineStateFrom_congr {blocks others : List Block}
    (h : List.Forall₂ Block.SeenAs blocks others) (line : Nat) (counters : HeadingCounters)
    (before : Nat) : lineStateFrom line counters before others =
      lineStateFrom line counters before blocks := by
  induction h generalizing counters before with
  | nil => rfl
  | @cons block other _ _ hblock _ ih =>
    have hpass : counters.pass other = counters.pass block := by
      rw [HeadingCounters.pass, hblock.depth]
      rfl
    have hcovers : other.covers line = block.covers line := by
      rw [Block.covers, hblock.span]
      rfl
    simp only [lineStateFrom, hpass, hcovers, hblock.path, hblock.kind, ih]

/-- The state of a line does not change when the document is numbered anew. -/
theorem Document.lineState?_formatIndex (document : Document) (options : FormatOptions)
    (line : Nat) : (document.formatIndex options).lineState? line = document.lineState? line :=
  lineStateFrom_congr (numberBlocks_seenAs _ _ _ document) line {} 0

end MarkdownOutline
