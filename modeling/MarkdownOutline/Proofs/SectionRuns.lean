import MarkdownOutline.Proofs.Indentation
import MarkdownOutline.Proofs.PeerHeadings

/-!
# Runs of sections

The sections that turn into a list at once stand next to each other: they start with a heading and
go on up to a heading. The list takes their place, with the blocks that it cannot hold behind it.
-/

namespace MarkdownOutline

theorem heading_of_mem_head?_dropWhile (p : Nat → Bool) {blocks : List Block} :
    ∀ block ∈ (blocks.dropWhile (·.headingDepth?.all p)).head?, block.heading?.isSome = true := by
  intro block hblock
  have hnot := List.head?_dropWhile_not (·.headingDepth?.all p) blocks
  rw [hblock] at hnot
  cases block with
  | heading g => rfl
  | _ => simp [Block.headingDepth?, Block.heading?] at hnot

theorem flattenBlocks_tail (title : String) (lists : Nat) (blocks : List Block) :
    (flattenBlocks title lists blocks).2 = blocks.filter (·.kind == .other) := by
  fun_induction flattenBlocks title lists blocks with
  | case1 => rfl
  | case2 title lists g rest inner innerTail hinner items tail hitems ihinner ihitems =>
    simp only [hinner] at ihinner
    simp only [hitems] at ihitems
    have hrest : (rest.takeWhile (Block.isBelow g.depth)).filter (·.kind == .other) ++
        (rest.dropWhile (Block.isBelow g.depth)).filter (·.kind == .other) =
          rest.filter (·.kind == .other) := by
      rw [← List.filter_append, List.takeWhile_append_dropWhile]
    rw [ihinner, ihitems, hrest]
    rfl
  | case3 title lists p rest items tail hrest ih =>
    simp only [hrest] at ih
    exact ih
  | case4 title lists l rest items tail hrest ih =>
    simp only [hrest] at ih
    exact ih
  | case5 title lists m span rest items tail hrest ih =>
    simp only [hrest] at ih
    exact congrArg (.other m span :: ·) ih

/-- The block belongs to the section of a heading of the depth, or with `peers` to the sections of
its depth that follow. -/
def Block.staysIn (peers : Bool) (depth : Nat) (block : Block) : Bool :=
  block.headingDepth?.all (movesAlong peers depth)

@[simp] theorem Block.staysIn_heading (peers : Bool) (depth : Nat) (heading : Heading) :
    (Block.heading heading).staysIn peers depth = movesAlong peers depth heading.depth := rfl

/-- The index is that of the heading itself, or with `peers` of the first one of its peers. -/
def Document.IsFirstSection (document : Document) (peers : Bool) (index first : Nat) : Prop :=
  if peers then document.ArePeers index first ∧ ∀ k, document.ArePeers index k → first ≤ k
  else first = index

/-- The blocks from `first` up to `stop` are a heading with all that follows up to the next heading
that is not deeper than the depth, or with `peers` less deep. -/
structure Document.IsSectionRange (document : Document) (peers : Bool) (depth first stop : Nat) :
    Prop where
  first_lt : first < stop
  stop_le : stop ≤ document.length
  inside : ∀ k h, first < k → k < stop → document[k]? = some (.heading h) →
    if peers then depth ≤ h.depth else depth < h.depth
  ends : ∀ block, document[stop]? = some block → ∃ h, block = .heading h ∧
    if peers then h.depth < depth else h.depth ≤ depth

theorem movesAlong_iff {peers : Bool} {old depth : Nat} :
    movesAlong peers old depth = true ↔ if peers then old ≤ depth else old < depth := by
  cases peers <;> simp [movesAlong]

theorem movesAlong_eq_false_iff {peers : Bool} {old depth : Nat} :
    movesAlong peers old depth = false ↔ if peers then depth < old else depth ≤ old := by
  cases peers <;> simp [movesAlong]

theorem Document.isFirstSection_chosen {document : Document} {index : Nat} {h : Heading}
    (hheading : document[index]? = some (.heading h)) (peers : Bool) :
    document.IsFirstSection peers index
      (if peers then document.firstPeer index h.depth else index) := by
  cases peers with
  | true => exact firstPeer_isLeast hheading
  | false => rfl

theorem Document.IsFirstSection.exists_heading {document : Document} {peers : Bool}
    {index first : Nat} {h : Heading} (hfirst : document.IsFirstSection peers index first)
    (hheading : document[index]? = some (.heading h)) :
    ∃ g : Heading, document[first]? = some (.heading g) ∧ g.depth = h.depth := by
  cases peers with
  | true => exact hfirst.1.exists_heading hheading
  | false =>
    obtain rfl : first = index := hfirst
    exact ⟨h, hheading, rfl⟩

theorem Document.IsSectionRange.eq_append {document : Document} {peers : Bool}
    {depth first stop : Nat} (hrange : document.IsSectionRange peers depth first stop) :
    document = document.take first ++ (document.extract first stop ++ document.drop stop) := by
  have hlow := hrange.first_lt
  have hstop : document.drop stop = (document.drop first).drop (stop - first) := by
    rw [List.drop_drop]
    congr 1
    omega
  rw [List.extract_eq_take_drop, hstop, List.take_append_drop, List.take_append_drop]

theorem Document.IsSectionRange.add_length_extract {document : Document} {peers : Bool}
    {depth first stop : Nat} (hrange : document.IsSectionRange peers depth first stop) :
    first + (document.extract first stop).length = stop := by
  have hlow := hrange.first_lt
  have hhigh := hrange.stop_le
  rw [List.extract_eq_take_drop, List.length_take, List.length_drop]
  omega

theorem Document.isSectionRange_takeWhile {document : Document} {first : Nat} {g : Heading}
    (hfirst : document[first]? = some (.heading g)) (peers : Bool) (depth : Nat) :
    ∃ stop, document.IsSectionRange peers depth first stop ∧
      document.extract first stop =
        .heading g :: (document.drop (first + 1)).takeWhile (Block.staysIn peers depth) ∧
      document.drop stop =
        (document.drop (first + 1)).dropWhile (Block.staysIn peers depth) := by
  obtain ⟨hbound, hget⟩ := List.getElem?_eq_some_iff.mp hfirst
  let rest := document.drop (first + 1)
  let own := rest.takeWhile (Block.staysIn peers depth)
  have hrest : own ++ rest.dropWhile (Block.staysIn peers depth) = rest :=
    List.takeWhile_append_dropWhile
  have hlength : rest.length = document.length - (first + 1) := List.length_drop
  have hown : own.length ≤ rest.length := (List.takeWhile_sublist _).length_le
  have hdrop : document.drop (first + 1 + own.length) =
      rest.dropWhile (Block.staysIn peers depth) := by
    rw [← List.drop_drop]
    exact drop_length_takeWhile _ rest
  refine ⟨first + 1 + own.length, ⟨by omega, by omega, ?_, ?_⟩, ?_, hdrop⟩
  · intro k h hlow hhigh hk
    obtain ⟨j, rfl⟩ := Nat.exists_eq_add_of_le (Nat.succ_le_of_lt hlow)
    have hj : own[j]? = some (.heading h) := by
      have hrestj : rest[j]? = some (.heading h) := List.getElem?_drop.trans hk
      rwa [← hrest, List.getElem?_append_left (by omega)] at hrestj
    have hstays : Block.staysIn peers depth (.heading h) = true :=
      List.all_eq_true.mp List.all_takeWhile _ (List.mem_of_getElem? hj)
    exact movesAlong_iff.mp hstays
  · intro block hblock
    have hhead : (rest.dropWhile (Block.staysIn peers depth)).head? = some block := by
      rw [← hdrop, List.head?_drop]
      exact hblock
    have hnot := List.head?_dropWhile_not (Block.staysIn peers depth) rest
    rw [hhead] at hnot
    cases block with
    | heading h =>
      refine ⟨h, rfl, movesAlong_eq_false_iff.mp ?_⟩
      simpa [Block.staysIn] using hnot
    | _ => simp [Block.staysIn, Block.headingDepth?, Block.heading?] at hnot
  · have hwhole : document.drop first = .heading g :: rest := by
      rw [List.drop_eq_getElem_cons hbound, hget]
    have hcount : first + 1 + own.length - first = own.length + 1 := by omega
    rw [List.extract_eq_take_drop, hwhole, hcount, List.take_succ_cons]
    conv_lhs => rw [← hrest, List.take_left]

theorem Document.flattenSections?_eq {document : Document} {first index : Nat} {g h : Heading}
    {peers : Bool} (hheading : document[index]? = some (.heading h))
    (hfirst : document[first]? = some (.heading g)) (hdepth : g.depth = h.depth)
    (hown : peers = false → first = index) :
    let run := .heading g :: (document.drop (first + 1)).takeWhile (Block.staysIn peers h.depth)
    document.flattenSections? first index peers =
      some ⟨.numbered (flattenBlocks "" 0 run).1, (flattenBlocks "" 0 run).2,
        first + run.length⟩ := by
  intro run
  cases peers with
  | true =>
    obtain ⟨hbound, hget⟩ := List.getElem?_eq_some_iff.mp hfirst
    have hrun : (document.drop first).takeWhile (Block.isWithin h.depth) = run := by
      rw [List.drop_eq_getElem_cons hbound, hget, List.takeWhile_cons, if_pos (by simp [hdepth])]
      rfl
    have hwhole : peerRun h.depth run = run := by simp [run, peerRun, hdepth]
    simp [flattenSections?, hheading, Block.heading?, hrun, hwhole]
  | false =>
    obtain rfl := hown rfl
    obtain rfl : h = g := by simpa [hheading] using hfirst
    have hrun : .heading h :: (document.drop (first + 1)).takeWhile (Block.isBelow h.depth) = run :=
      rfl
    have hstop : first + 1 + ((document.drop (first + 1)).takeWhile (Block.isBelow h.depth)).length =
        first + run.length := by
      rw [← hrun, List.length_cons]
      omega
    simp [flattenSections?, hheading, Block.heading?, hrun, hstop]

/-- The sections that turn into a list are replaced by it and the blocks that it cannot hold. -/
theorem Document.headingToList_range {document : Document} {index : Nat} {h : Heading}
    (hheading : document[index]? = some (.heading h)) (peers onlyBelow : Bool) :
    ∃ first stop g, document.IsFirstSection (peers && !onlyBelow) index first ∧
      document.IsSectionRange peers h.depth first stop ∧
      document[first]? = some (.heading g) ∧
      document.extract first stop =
        .heading g :: (document.drop (first + 1)).takeWhile (Block.staysIn peers h.depth) ∧
      document.headingToList index peers onlyBelow =
        document.take first ++
          .list (.numbered (flattenBlocks "" 0 (document.extract first stop)).1) ::
          ((flattenBlocks "" 0 (document.extract first stop)).2 ++ document.drop stop) := by
  have hchosen := isFirstSection_chosen hheading (peers && !onlyBelow)
  generalize hfirst : (if (peers && !onlyBelow) = true then document.firstPeer index h.depth
    else index) = first at hchosen
  obtain ⟨g, hg, hdepth⟩ := hchosen.exists_heading hheading
  obtain ⟨stop, hrange, hextract, -⟩ := isSectionRange_takeWhile hg peers h.depth
  have hown : peers = false → first = index := by
    rintro rfl
    exact hchosen
  have hflat := flattenSections?_eq hheading hg hdepth hown
  have hstop := hrange.add_length_extract
  have hbind : document[index]?.bind Block.headingDepth? = some h.depth := by rw [hheading]; rfl
  refine ⟨first, stop, g, hchosen, hrange, hg, hextract, ?_⟩
  rw [hextract] at hstop ⊢
  simp only [headingToList, hbind, hfirst, hflat, hstop]

/-- The blocks that turn into a list with the heading at an index: those of its section, or with
`peers` those of the sections of its depth around it. -/
def Document.sectionRun (document : Document) (index : Nat) (peers : Bool) : List Block :=
  match document[index]? with
  | some (.heading h) =>
    if peers then
      (document.drop (document.firstPeer index h.depth)).takeWhile (Block.isWithin h.depth)
    else .heading h :: (document.drop (index + 1)).takeWhile (Block.isBelow h.depth)
  | _ => []

theorem Document.sectionRun_eq {document : Document} {index first : Nat} {g h : Heading}
    {peers : Bool} (hheading : document[index]? = some (.heading h))
    (hchosen : document.IsFirstSection peers index first)
    (hfirst : document[first]? = some (.heading g)) :
    document.sectionRun index peers =
      .heading g :: (document.drop (first + 1)).takeWhile (Block.staysIn peers h.depth) := by
  cases peers with
  | true =>
    obtain ⟨hpeer, hleast⟩ := hchosen
    obtain ⟨hpeer', hleast'⟩ := firstPeer_isLeast hheading
    obtain rfl : document.firstPeer index h.depth = first :=
      Nat.le_antisymm (hleast' _ hpeer) (hleast _ hpeer')
    obtain ⟨g', hg', hdepth⟩ := hpeer.exists_heading hheading
    obtain rfl : g = g' := by simpa [hfirst] using hg'
    obtain ⟨hbound, hget⟩ := List.getElem?_eq_some_iff.mp hfirst
    have hrun : document.sectionRun index true =
        (document.drop (document.firstPeer index h.depth)).takeWhile (Block.isWithin h.depth) := by
      simp [sectionRun, hheading]
    rw [hrun, List.drop_eq_getElem_cons hbound, hget, List.takeWhile_cons,
      if_pos (by simp [hdepth])]
    rfl
  | false =>
    obtain rfl : first = index := hchosen
    obtain rfl : h = g := by simpa [hheading] using hfirst
    have hrun : document.sectionRun first false =
        .heading h :: (document.drop (first + 1)).takeWhile (Block.isBelow h.depth) := by
      simp [sectionRun, hheading]
    exact hrun

/-- Sections that turn into a list start with a heading and go on up to a heading. -/
theorem Document.headingToList_eq {document : Document} {index : Nat} {h : Heading}
    (hheading : document[index]? = some (.heading h)) (peers : Bool) :
    ∃ before g rest after, document.sectionRun index peers = .heading g :: rest ∧
      document = before ++ .heading g :: (rest ++ after) ∧
      (∀ block ∈ after.head?, block.heading?.isSome = true) ∧
      document.headingToList index peers false =
        before ++ .list (.numbered (flattenBlocks "" 0 (.heading g :: rest)).1) ::
          ((flattenBlocks "" 0 (.heading g :: rest)).2 ++ after) := by
  obtain ⟨first, stop, g, hchosen, hrange, hfirst, hextract, hlist⟩ :=
    headingToList_range hheading peers false
  rw [Bool.not_false, Bool.and_true] at hchosen
  refine ⟨document.take first, g, _, document.drop stop, sectionRun_eq hheading hchosen hfirst,
    ?_, ?_, ?_⟩
  · rw [← List.cons_append, ← hextract]
    exact hrange.eq_append
  · intro block hblock
    rw [List.head?_drop] at hblock
    obtain ⟨other, rfl, -⟩ := hrange.ends block hblock
    rfl
  · rw [← hextract]
    exact hlist

end MarkdownOutline
