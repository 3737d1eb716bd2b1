import MarkdownOutline.Proofs.SectionMembers
import MarkdownOutline.Proofs.ShiftedSections

/-!
# Moving headings again

A heading that moves deeper takes its section along without loss as long as all headings of the
section still can be written. All of them are deeper by the same number of levels then, which
changes no comparison that a further move makes: it ends the section at the same heading, and turns
the same runs of headings into the same lists.
-/

namespace MarkdownOutline

/-- The block with its heading deeper by a number of levels. Other blocks stay as they are. -/
def Block.lowered (levels : Nat) : Block → Block
  | .heading h => .heading { h with depth := h.depth + levels }
  | block => block

namespace Block

@[simp] theorem lowered_heading (levels : Nat) (h : Heading) :
    (Block.heading h).lowered levels = .heading { h with depth := h.depth + levels } := rfl

theorem lowered_of_heading?_eq_none {block : Block} (h : block.heading? = none) (levels : Nat) :
    block.lowered levels = block := by
  cases block with
  | heading g => cases h
  | _ => rfl

theorem lowered_zero (block : Block) : block.lowered 0 = block := by cases block <;> rfl

theorem isBelow_comp_lowered (levels depth : Nat) :
    isBelow (depth + levels) ∘ lowered levels = isBelow depth := by
  funext block
  cases block with
  | heading h => simp
  | _ => rfl

theorem isWithin_lowered (levels depth : Nat) (block : Block) :
    (block.lowered levels).isWithin (depth + levels) = block.isWithin depth := by
  cases block with
  | heading h => simp
  | _ => rfl

theorem isWithin_mono {low high : Nat} {block : Block} (hle : low ≤ high)
    (h : block.isWithin high = true) : block.isWithin low = true := by
  cases block with
  | heading g =>
    rw [isWithin_heading, decide_eq_true_eq] at h ⊢
    exact Nat.le_trans hle h
  | _ => rfl

end Block

/-- A section turns into the same list at whatever depth it stands. -/
theorem flattenBlocks_lowered (levels : Nat) (title : String) (lists : Nat) (blocks : List Block) :
    flattenBlocks title lists (blocks.map (Block.lowered levels)) =
      flattenBlocks title lists blocks := by
  fun_induction flattenBlocks title lists blocks with
  | case1 => simp [flattenBlocks]
  | case2 title lists h rest inner innerTail hinner items tail hitems ihinner ihitems =>
    have hsame : ({ h with depth := h.depth + levels } : Heading).plainTitle = h.plainTitle := rfl
    rw [List.map_cons, Block.lowered_heading, flattenBlocks]
    simp only [hsame, List.takeWhile_map, List.dropWhile_map, Block.isBelow_comp_lowered, ihinner,
      ihitems, hinner, hitems]
  | case3 title lists p rest items tail hrest ih =>
    simp [Block.lowered, flattenBlocks, ih, hrest]
  | case4 title lists l rest items tail hrest ih =>
    simp [Block.lowered, flattenBlocks, ih, hrest]
  | case5 title lists m span rest items tail hrest ih =>
    simp [Block.lowered, flattenBlocks, ih, hrest]

/-- The blocks behind a heading of a depth, with its section deeper by a number of levels, or with
`peers` the sections of its depth that follow. -/
def lowerSection (peers : Bool) (depth levels : Nat) (blocks : List Block) : List Block :=
  (blocks.takeWhile (Block.staysIn peers depth)).map (Block.lowered levels) ++
    blocks.dropWhile (Block.staysIn peers depth)

section

variable {peers : Bool} {old new levels depth : Nat}

theorem lowerSection_cons_of_staysIn {block : Block} (hstays : block.staysIn peers old = true)
    (rest : List Block) :
    lowerSection peers old levels (block :: rest) =
      block.lowered levels :: lowerSection peers old levels rest := by
  rw [lowerSection, List.takeWhile_cons_of_pos hstays, List.dropWhile_cons_of_pos hstays]
  rfl

theorem lowerSection_cons_of_not_staysIn {block : Block} (hstops : ¬ block.staysIn peers old = true)
    (rest : List Block) :
    lowerSection peers old levels (block :: rest) = block :: rest := by
  rw [lowerSection, List.takeWhile_cons_of_neg hstops, List.dropWhile_cons_of_neg hstops]
  rfl

theorem lowerSection_zero (blocks : List Block) : lowerSection peers old 0 blocks = blocks := by
  have hsame : Block.lowered 0 = id := funext Block.lowered_zero
  rw [lowerSection, hsame, List.map_id, List.takeWhile_append_dropWhile]

/-- The sections that become a list when a heading moves are lowered with the others. -/
theorem lowerSection_section {h : Heading} (hin : movesAlong peers old h.depth = true)
    (rest : List Block) :
    lowerSection peers old levels (.heading h :: rest) =
      .heading { h with depth := h.depth + levels } ::
        ((rest.takeWhile (Block.isWithin h.depth)).map (Block.lowered levels) ++
          lowerSection peers old levels (rest.dropWhile (Block.isWithin h.depth))) := by
  obtain ⟨htake, hdrop⟩ := staysIn_section hin rest
  rw [lowerSection, htake, hdrop, List.map_cons, List.map_append, List.cons_append,
    List.append_assoc]
  rfl

theorem head?_lowerSection {blocks : List Block} (h : blocks.head?.all (!Block.isWithin depth ·)) :
    (lowerSection peers old levels blocks).head?.all (!Block.isWithin (depth + levels) ·) := by
  cases blocks with
  | nil => rfl
  | cons block rest =>
    by_cases hstays : block.staysIn peers old = true
    · rw [lowerSection_cons_of_staysIn hstays]
      simpa [Block.isWithin_lowered] using h
    · rw [lowerSection_cons_of_not_staysIn hstays]
      have hout : ¬ block.isWithin depth = true := by simpa using h
      have hlow := mt (Block.isWithin_mono (Nat.le_add_right depth levels)) hout
      simpa using hlow

theorem lowerSection_isWithin (peers : Bool) (old levels depth : Nat) (rest : List Block) :
    let within := (rest.takeWhile (Block.isWithin depth)).map (Block.lowered levels)
    let behind := lowerSection peers old levels (rest.dropWhile (Block.isWithin depth))
    (within ++ behind).takeWhile (Block.isWithin (depth + levels)) = within ∧
      (within ++ behind).dropWhile (Block.isWithin (depth + levels)) = behind := by
  intro within behind
  have hwithin : ∀ block ∈ within, block.isWithin (depth + levels) = true := by
    intro block hblock
    obtain ⟨block, hmem, rfl⟩ := List.mem_map.mp hblock
    rw [Block.isWithin_lowered]
    exact List.all_eq_true.mp List.all_takeWhile block hmem
  have hends : (rest.dropWhile (Block.isWithin depth)).head?.all (!Block.isWithin depth ·) := by
    have hnot := List.head?_dropWhile_not (Block.isWithin depth) rest
    cases hhead : (rest.dropWhile (Block.isWithin depth)).head? with
    | none => rfl
    | some block =>
      rw [hhead] at hnot
      simpa using hnot
  have hbehind : behind.head?.all (!Block.isWithin (depth + levels) ·) := head?_lowerSection hends
  exact ⟨takeWhile_append_of_head hwithin hbehind, dropWhile_append_of_head hwithin hbehind⟩

/-- When all headings of a section can be written at their new depths, it is lowered as a whole. -/
theorem cascade_eq_lowerSection (hold : 1 ≤ old) {blocks : List Block}
    (hfits : ∀ g, .heading g ∈ blocks.takeWhile (Block.staysIn peers old) →
      g.depth + levels ≤ maxHeadingDepth) :
    cascade peers old (old + levels) blocks = lowerSection peers old levels blocks := by
  generalize hnew : old + levels = new
  fun_induction cascade peers old new blocks with
  | case1 => rfl
  | case2 h rest hstays =>
    exact (lowerSection_cons_of_not_staysIn (by simpa using hstays) rest).symm
  | case3 h rest hstays hshift ih =>
    have hin : (Block.heading h).staysIn peers old = true := by simpa using hstays
    rw [List.takeWhile_cons_of_pos hin] at hfits
    have hdepth : (shiftedDepth old new h.depth).toNat = h.depth + levels := by
      unfold shiftedDepth
      omega
    rw [lowerSection_cons_of_staysIn hin, hdepth, ih fun g hg => hfits g (List.mem_cons_of_mem _ hg)]
    rfl
  | case4 h rest hstays hshift items tail hflat ih =>
    -- the heading can be written, so it does not become a list
    have hin : movesAlong peers old h.depth = true := by simpa using hstays
    have hfirst : (Block.heading h).staysIn peers old = true := hin
    rw [List.takeWhile_cons_of_pos hfirst] at hfits
    have hfit := hfits h List.mem_cons_self
    have hle := le_of_movesAlong hin
    rw [isHeadingDepth_iff] at hshift
    unfold shiftedDepth at hshift
    omega
  | case5 block rest hblock ih =>
    have hnone := Block.heading?_eq_none hblock
    have hin := Block.staysIn_of_heading?_eq_none hnone peers old
    rw [List.takeWhile_cons_of_pos hin] at hfits
    rw [lowerSection_cons_of_staysIn hin, Block.lowered_of_heading?_eq_none hnone,
      ih fun g hg => hfits g (List.mem_cons_of_mem _ hg)]

theorem cascade_self (hold : 1 ≤ old) {blocks : List Block}
    (hfits : ∀ g, .heading g ∈ blocks.takeWhile (Block.staysIn peers old) →
      g.depth ≤ maxHeadingDepth) :
    cascade peers old old blocks = blocks := by
  have hnowhere : cascade peers old (old + 0) blocks = lowerSection peers old 0 blocks :=
    cascade_eq_lowerSection hold hfits
  exact hnowhere.trans (lowerSection_zero blocks)

theorem movesAlong_add (peers : Bool) (old levels depth : Nat) :
    movesAlong peers (old + levels) (depth + levels) = movesAlong peers old depth := by
  cases peers <;> simp [movesAlong]

theorem movesAlong_of_add {peers : Bool} {old levels depth : Nat}
    (h : movesAlong peers (old + levels) depth = true) : movesAlong peers old depth = true := by
  have hle := Nat.le_add_right old levels
  rw [movesAlong_iff] at h ⊢
  cases peers with
  | true => exact Nat.le_trans hle h
  | false => exact Nat.lt_of_le_of_lt hle h

theorem shiftedDepth_add (old levels new depth : Nat) :
    shiftedDepth (old + levels) new (depth + levels) = shiftedDepth old new depth := by
  unfold shiftedDepth
  omega

/-- A section moves on from where it was lowered to as it would have moved at once. -/
theorem cascade_lowerSection (blocks : List Block) :
    cascade peers (old + levels) new (lowerSection peers old levels blocks) =
      cascade peers old new blocks := by
  fun_induction cascade peers old new blocks with
  | case1 => simp [lowerSection, cascade]
  | case2 h rest hstays =>
    have hstops : ¬ (Block.heading h).staysIn peers old = true := by simpa using hstays
    have hout : ¬ movesAlong peers (old + levels) h.depth = true := mt movesAlong_of_add hstops
    rw [lowerSection_cons_of_not_staysIn hstops, cascade]
    simp [hout]
  | case3 h rest hstays hshift ih =>
    have hin : (Block.heading h).staysIn peers old = true := by simpa using hstays
    rw [lowerSection_cons_of_staysIn hin, Block.lowered_heading, cascade]
    simp only [movesAlong_add, shiftedDepth_add, hstays, hshift, ih, if_true, if_false,
      Bool.false_eq_true]
  | case4 h rest hstays hshift items tail hflat ih =>
    have hin : movesAlong peers old h.depth = true := by simpa using hstays
    obtain ⟨htake, hdrop⟩ := lowerSection_isWithin peers old levels h.depth rest
    have hsame := flattenBlocks_lowered levels "" 0
      (.heading h :: rest.takeWhile (Block.isWithin h.depth))
    rw [List.map_cons, Block.lowered_heading] at hsame
    rw [lowerSection_section hin, cascade]
    simp only [movesAlong_add, shiftedDepth_add, hstays, hshift, if_false, Bool.false_eq_true,
      htake, hdrop, hsame, hflat, ih]
  | case5 block rest hblock ih =>
    have hnone := Block.heading?_eq_none hblock
    rw [lowerSection_cons_of_staysIn (Block.staysIn_of_heading?_eq_none hnone peers old),
      Block.lowered_of_heading?_eq_none hnone, cascade, ih]
    exact hblock

end

namespace Document

variable {document : Document} {index line : Nat} {h : Heading}

theorem exists_inSection_of_mem_takeWhile {g : Heading}
    (hheading : document[index]? = some (.heading h))
    (hg : .heading g ∈ (document.drop (index + 1)).takeWhile (Block.staysIn false h.depth)) :
    ∃ k, document.InSection index k ∧ document[k]? = some (.heading g) := by
  obtain ⟨stop, hrange, hextract, -⟩ := isSectionRange_takeWhile hheading false h.depth
  obtain ⟨j, hj⟩ := List.mem_iff_getElem?.mp hg
  have hin : (document.extract index stop)[j + 1]? = some (.heading g) := by
    rw [hextract, List.getElem?_cons_succ, hj]
  rw [List.extract_eq_take_drop, List.getElem?_take] at hin
  split at hin
  next hhigh =>
    rw [List.getElem?_drop] at hin
    refine ⟨index + (j + 1), ⟨by omega, fun k hlow hle => ?_⟩, hin⟩
    have hstop : k < stop := by omega
    have hbound : k < document.length := Nat.lt_of_lt_of_le hstop hrange.stop_le
    refine ⟨h, document[k], hheading, List.getElem?_eq_getElem hbound, ?_⟩
    cases hblock : document[k] with
    | heading deeper =>
      have hdeeper := hrange.inside k deeper hlow hstop (by
        rw [List.getElem?_eq_getElem hbound, hblock])
      simpa using hdeeper
    | _ => rfl
  next => cases hin

section

variable {front rest : List Block}

theorem headingStartingAt?_append_heading_iff :
    headingStartingAt? (front ++ .heading h :: rest) line = some front.length ↔
      headingStartingAt? front line = none ∧ h.span.any (·.first == line) = true := by
  constructor
  · intro hfound
    obtain ⟨_, hstarts, hbefore⟩ := List.findIdx?_eq_some_iff_getElem.mp hfound
    refine ⟨List.findIdx?_eq_none_iff.mpr fun block hblock => ?_, ?_⟩
    · obtain ⟨j, hj, rfl⟩ := List.getElem_of_mem hblock
      have hother := hbefore j hj
      rw [List.getElem_append_left hj] at hother
      exact Bool.eq_false_iff.mpr hother
    · rw [List.getElem_append_right (Nat.le_refl _)] at hstarts
      simp only [Nat.sub_self, List.getElem_cons_zero] at hstarts
      exact hstarts
  · rintro ⟨hfront, hspan⟩
    have hstarts : (Block.heading h).heading?.any (·.span.any (·.first == line)) = true := hspan
    unfold headingStartingAt? at hfront ⊢
    rw [List.findIdx?_append, hfront, List.findIdx?_cons, if_pos hstarts, Option.none_or,
      Option.map_some, Nat.zero_add]

theorem retargetHeading_append_heading {depth : Nat} (hlow : 1 ≤ depth)
    (hhigh : depth ≤ maxHeadingDepth)
    (hfound : headingStartingAt? (front ++ .heading h :: rest) line = some front.length) :
    retargetHeading (front ++ .heading h :: rest) line depth false =
      front ++ .heading { h with depth } :: cascade false h.depth depth rest := by
  have hdepth : isHeadingDepth depth = true := by
    rw [isHeadingDepth_iff]
    omega
  simp [retargetHeading, hdepth, hfound]

theorem retargetHeading_lowered {levels new : Nat} (hlow : 1 ≤ h.depth)
    (hhigh : h.depth + levels ≤ maxHeadingDepth)
    (hfound : headingStartingAt? (front ++ .heading h :: rest) line = some front.length)
    (hfits : ∀ g, .heading g ∈ rest.takeWhile (Block.staysIn false h.depth) →
      g.depth + levels ≤ maxHeadingDepth) (hnewLow : 1 ≤ new) (hnewHigh : new ≤ maxHeadingDepth) :
    (retargetHeading (front ++ .heading h :: rest) line (h.depth + levels) false).retargetHeading
        line new false = retargetHeading (front ++ .heading h :: rest) line new false := by
  obtain ⟨hfront, hspan⟩ := headingStartingAt?_append_heading_iff.mp hfound
  have hagain : headingStartingAt? (front ++ .heading { h with depth := h.depth + levels } ::
      lowerSection false h.depth levels rest) line = some front.length :=
    headingStartingAt?_append_heading_iff.mpr ⟨hfront, hspan⟩
  rw [retargetHeading_append_heading (by omega) hhigh hfound, cascade_eq_lowerSection hlow hfits,
    retargetHeading_append_heading hnewLow hnewHigh hagain, cascade_lowerSection,
    retargetHeading_append_heading hnewLow hnewHigh hfound]

end

/-- When a heading moves deeper and all headings of its section still can be written there, nothing
is lost: moved on to any other depth it is as if it had been moved there at once, also when headings
become lists then, and moved back it is as it was. -/
theorem retargetHeading_retargetHeading {deeper : Nat}
    (hstarts : document.HeadingStartsAt index line)
    (hearliest : ∀ k, document.HeadingStartsAt k line → index ≤ k)
    (hheading : document[index]? = some (.heading h)) (hlow : 1 ≤ h.depth)
    (hdeeper : h.depth ≤ deeper) (hhigh : deeper ≤ maxHeadingDepth)
    (hfits : ∀ k g, document.InSection index k → document[k]? = some (.heading g) →
      g.depth + (deeper - h.depth) ≤ maxHeadingDepth) :
    (∀ new, 1 ≤ new → new ≤ maxHeadingDepth →
      (document.retargetHeading line deeper false).retargetHeading line new false =
        document.retargetHeading line new false) ∧
      (document.retargetHeading line deeper false).retargetHeading line h.depth false =
        document := by
  obtain ⟨levels, rfl⟩ := Nat.exists_eq_add_of_le hdeeper
  rw [Nat.add_sub_cancel_left] at hfits
  have hsection : ∀ g, .heading g ∈
      (document.drop (index + 1)).takeWhile (Block.staysIn false h.depth) →
        g.depth + levels ≤ maxHeadingDepth := by
    intro g hg
    obtain ⟨k, hk, hget⟩ := exists_inSection_of_mem_takeWhile hheading hg
    exact hfits k g hk hget
  obtain ⟨found, hfound, hstarts', hearliest'⟩ := exists_headingStartingAt? ⟨index, hstarts⟩
  obtain rfl : index = found := Nat.le_antisymm (hearliest _ hstarts') (hearliest' _ hstarts)
  -- the document as what stands before the heading, the heading, and what stands behind it
  obtain ⟨front, rest, hfront, hrest, hwhole⟩ : ∃ front rest, front.length = index ∧
      document.drop (index + 1) = rest ∧ front ++ .heading h :: rest = document :=
    ⟨_, _, length_take_of_getElem? hheading, rfl, take_append_cons_drop hheading⟩
  rw [hrest] at hsection
  rw [← hwhole, ← hfront] at hfound
  rw [← hwhole]
  refine ⟨fun new => retargetHeading_lowered hlow hhigh hfound hsection, ?_⟩
  rw [retargetHeading_lowered hlow hhigh hfound hsection hlow (by omega),
    retargetHeading_append_heading hlow (by omega) hfound, cascade_self hlow]
  exact fun g hg => Nat.le_trans (Nat.le_add_right _ _) (hsection g hg)

/-- One level down the section still fits. From there the heading moves on to where two of the
headings under it end up too deep, and become one list with a block of code behind it. -/
theorem retargetHeading_retargetHeading_listed :
    let document : Document := [.heading ⟨2, [.text "A"], some ⟨1, 1⟩⟩,
      .paragraph ⟨[.text "x"], some ⟨2, 2⟩⟩, .heading ⟨4, [.text "B"], some ⟨3, 3⟩⟩,
      .other default (some ⟨4, 4⟩), .heading ⟨5, [.text "C"], some ⟨5, 5⟩⟩,
      .heading ⟨3, [.text "D"], some ⟨6, 6⟩⟩, .heading ⟨2, [.text "E"], some ⟨7, 7⟩⟩,
      .heading ⟨6, [.text "F"], some ⟨8, 8⟩⟩]
    (document.retargetHeading 1 3 false).headingDepths = [3, 5, 6, 4, 2, 6] ∧
      (document.retargetHeading 1 5 false).headingDepths = [5, 6, 2, 6] ∧
      (document.retargetHeading 1 3 false).retargetHeading 1 5 false =
        document.retargetHeading 1 5 false ∧
      (document.retargetHeading 1 3 false).retargetHeading 1 2 false = document := by
  intro document
  have hstarts : document.HeadingStartsAt 0 1 := ⟨_, _, rfl, rfl, rfl⟩
  have hshallow : ∀ k < document.length, document.InSection 0 k →
      (document[k]?.bind Block.headingDepth?).all (· + (3 - 2) ≤ maxHeadingDepth) := by decide
  have hfits : ∀ k g, document.InSection 0 k → document[k]? = some (.heading g) →
      g.depth + (3 - 2) ≤ maxHeadingDepth := by
    intro k g hin hk
    simpa [hk] using hshallow k (List.getElem?_eq_some_iff.mp hk).1 hin
  obtain ⟨hagain, hback⟩ := retargetHeading_retargetHeading hstarts (fun _ _ => Nat.zero_le _) rfl
    (by decide) (by decide) (by decide) hfits
  exact ⟨by decide +kernel, by decide +kernel, hagain 5 (by decide) (by decide), hback⟩

end Document

end MarkdownOutline
