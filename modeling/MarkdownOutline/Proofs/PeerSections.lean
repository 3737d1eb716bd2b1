import MarkdownOutline.Proofs.PeerHeadings

/-!
# The sections of peers

The sections of a heading and its peers divide the blocks from the first peer up to the end of the
section around them. So extracting them together gives what extracting each one by itself gives.
-/

namespace MarkdownOutline

/-- A heading at its index in a document, with the blocks under it. -/
structure PlacedSection where
  index : Nat
  heading : Heading
  body : List Block

def Block.movedUp (levels : Nat) : Block → Block
  | .heading h => .heading { h with depth := h.depth - levels }
  | block => block

namespace PlacedSection

def blocks (s : PlacedSection) : List Block := .heading s.heading :: s.body

/-- The section stands in the document at its index. Its body goes on up to the next heading that is
not deeper than its own. -/
structure StandsIn (s : PlacedSection) (document : Document) : Prop where
  body_below : ∀ block ∈ s.body, block.isBelow s.heading.depth = true
  exists_after : ∃ after, document.drop s.index = s.blocks ++ after ∧
    ∀ block ∈ after.head?, block.isBelow s.heading.depth = false

/-- The section on its own, with its headings moved up by the depth of its own heading. -/
def extracted (s : PlacedSection) : Section :=
  ⟨s.heading.rawTitle, Document.toMarkdown (s.body.map (Block.movedUp s.heading.depth))⟩

end PlacedSection

/-- The sections are those of the peers of the heading at the index, in document order. Together
they are all blocks from the first peer up to the next heading that is less deep. -/
structure Document.IsPeerPartition (document : Document) (index : Nat)
    (peers : List PlacedSection) : Prop where
  ordered : peers.Pairwise (·.index < ·.index)
  arePeers_iff : ∀ k, document.ArePeers index k ↔ ∃ peer ∈ peers, peer.index = k
  standing : ∀ peer ∈ peers, peer.StandsIn document
  whole : ∃ before after, document = before ++ peers.flatMap PlacedSection.blocks ++ after ∧
    (∀ peer ∈ peers.head?, peer.index = before.length) ∧
    ∀ block ∈ after.head?, ∃ h : Heading, block = .heading h ∧
      ∀ peer ∈ peers, h.depth < peer.heading.depth

theorem PlacedSection.StandsIn.getElem? {s : PlacedSection} {document : Document}
    (h : s.StandsIn document) : document[s.index]? = some (.heading s.heading) := by
  obtain ⟨after, hdrop, -⟩ := h.exists_after
  rw [← List.head?_drop, hdrop]
  rfl

theorem PlacedSection.StandsIn.sectionBody_eq {s : PlacedSection} {document : Document}
    (h : s.StandsIn document) :
    sectionBody s.heading.depth (document.drop (s.index + 1)) = s.body := by
  obtain ⟨after, hdrop, hafter⟩ := h.exists_after
  have htail : document.drop (s.index + 1) = s.body ++ after := by
    rw [← List.tail_drop, hdrop]
    rfl
  have hstop : after.takeWhile (Block.isBelow s.heading.depth) = [] := by
    cases after with
    | nil => rfl
    | cons block after => rw [List.takeWhile_cons, hafter block rfl]; rfl
  rw [htail]
  exact (List.takeWhile_append_of_pos h.body_below).trans (by rw [hstop, List.append_nil])

/-- No heading of a section is at the depth of the section's own, so moving them up leaves each of
them a depth. -/
theorem ofBlocks_eq_extracted {s : PlacedSection}
    (hbody : ∀ block ∈ s.body, block.isBelow s.heading.depth = true) :
    Section.ofBlocks s.heading s.body = s.extracted := by
  have hmoved : s.body.map (Block.relativeTo s.heading.depth) =
      s.body.map (Block.movedUp s.heading.depth) := by
    refine List.map_congr_left fun block hblock => ?_
    cases block with
    | heading h =>
      have hdeeper : s.heading.depth < h.depth := by simpa using hbody _ hblock
      simp only [Block.relativeTo, Block.movedUp]
      rw [Nat.max_eq_left (by omega)]
    | _ => rfl
  rw [Section.ofBlocks, hmoved]
  rfl

theorem PlacedSection.StandsIn.sectionAt_eq {s : PlacedSection} {document : Document} {line : Nat}
    (h : s.StandsIn document) (howns : document.OwnsLine s.index line) :
    document.sectionAt line = s.extracted := by
  simp only [Document.sectionAt, Document.owningHeading?_eq howns h.getElem?, h.sectionBody_eq]
  exact ofBlocks_eq_extracted h.body_below

def sectionsBlocks (sections : List (Heading × List Block)) : List Block :=
  sections.flatMap fun s => .heading s.1 :: s.2

theorem sectionsBlocks_cons (s : Heading × List Block) (rest : List (Heading × List Block)) :
    sectionsBlocks (s :: rest) = (.heading s.1 :: s.2) ++ sectionsBlocks rest := rfl

def AreSections (depth : Nat) (sections : List (Heading × List Block)) : Prop :=
  ∀ s ∈ sections, s.1.depth = depth ∧ ∀ block ∈ s.2, block.isBelow depth = true

/-- Blocks are the ones under the heading before them, sections of the depth, and what follows from
the first heading on that is less deep. -/
theorem peerBodies_spec (depth : Nat) (blocks : List Block) :
    AreSections depth (peerBodies depth blocks).2 ∧
      (∀ block ∈ (peerBodies depth blocks).1, block.isBelow depth = true) ∧
      ∃ after, blocks = (peerBodies depth blocks).1 ++
          sectionsBlocks (peerBodies depth blocks).2 ++ after ∧
        ∀ block ∈ after.head?, block.isWithin depth = false := by
  fun_induction peerBodies depth blocks with
  | case1 => exact ⟨by simp [AreSections], by simp, [], by simp [sectionsBlocks]⟩
  | case2 block rest h hheading hlt =>
    obtain rfl := Block.heading?_eq_some_iff.mp hheading
    refine ⟨by simp [AreSections], by simp, .heading h :: rest, rfl, ?_⟩
    simpa using hlt
  | case3 block rest h hheading hge body peers hrest heq ih =>
    obtain rfl := Block.heading?_eq_some_iff.mp hheading
    rw [hrest] at ih
    obtain ⟨hpeers, hbody, after, hblocks, hafter⟩ := ih
    refine ⟨List.forall_mem_cons.mpr ⟨⟨heq, hbody⟩, hpeers⟩, by simp, after, ?_, hafter⟩
    rw [hblocks]
    simp [sectionsBlocks]
  | case4 block rest h hheading hge body peers hrest hne ih =>
    obtain rfl := Block.heading?_eq_some_iff.mp hheading
    rw [hrest] at ih
    obtain ⟨hpeers, hbody, after, hblocks, hafter⟩ := ih
    refine ⟨hpeers, List.forall_mem_cons.mpr ⟨?_, hbody⟩, after, ?_, hafter⟩
    · rw [Block.isBelow_heading, decide_eq_true_eq]
      omega
    · rw [hblocks]
      rfl
  | case5 block rest hheading body peers hrest ih =>
    rw [hrest] at ih
    obtain ⟨hpeers, hbody, after, hblocks, hafter⟩ := ih
    refine ⟨hpeers, List.forall_mem_cons.mpr ⟨?_, hbody⟩, after, ?_, hafter⟩
    · simp [Block.isBelow, Block.headingDepth?, hheading]
    · rw [hblocks]
      rfl

def placedFrom (index : Nat) : List (Heading × List Block) → List PlacedSection
  | [] => []
  | s :: rest => ⟨index, s.1, s.2⟩ :: placedFrom (index + s.2.length + 1) rest

theorem map_placedFrom (index : Nat) (sections : List (Heading × List Block)) :
    (placedFrom index sections).map (fun s => (s.heading, s.body)) = sections := by
  induction sections generalizing index with
  | nil => rfl
  | cons s rest ih => exact congrArg (s :: ·) (ih _)

theorem flatMap_placedFrom (index : Nat) (sections : List (Heading × List Block)) :
    (placedFrom index sections).flatMap PlacedSection.blocks = sectionsBlocks sections := by
  conv_rhs => rw [← map_placedFrom index sections, sectionsBlocks, List.flatMap_map]
  rfl

theorem index_of_mem_head?_placedFrom (index : Nat) (sections : List (Heading × List Block)) :
    ∀ s ∈ (placedFrom index sections).head?, s.index = index := by
  cases sections with
  | nil => simp [placedFrom]
  | cons s rest => simp [placedFrom]

theorem placedFrom_indices (index : Nat) (sections : List (Heading × List Block)) :
    (placedFrom index sections).Pairwise (·.index < ·.index) ∧
      ∀ s ∈ placedFrom index sections,
        index ≤ s.index ∧ s.index < index + (sectionsBlocks sections).length := by
  induction sections generalizing index with
  | nil => exact ⟨.nil, by simp [placedFrom]⟩
  | cons s rest ih =>
    obtain ⟨hpairwise, hbounds⟩ := ih (index + s.2.length + 1)
    have hlength : (sectionsBlocks (s :: rest)).length =
        s.2.length + 1 + (sectionsBlocks rest).length := by
      rw [sectionsBlocks_cons, List.length_append, List.length_cons]
    refine ⟨.cons (fun t ht => ?_) hpairwise, List.forall_mem_cons.mpr ⟨?_, fun t ht => ?_⟩⟩
    · have := (hbounds t ht).1
      dsimp only
      omega
    · dsimp only
      omega
    · have := hbounds t ht
      omega

theorem placedFrom_standing {document : Document} {depth index : Nat}
    {sections : List (Heading × List Block)} {after : List Block}
    (hsections : AreSections depth sections)
    (hdrop : document.drop index = sectionsBlocks sections ++ after)
    (hafter : ∀ block ∈ after.head?, block.isBelow depth = false) :
    ∀ s ∈ placedFrom index sections, s.StandsIn document := by
  induction sections generalizing index with
  | nil => simp [placedFrom]
  | cons s rest ih =>
    obtain ⟨⟨hdepth, hbody⟩, hrest⟩ := List.forall_mem_cons.mp hsections
    rw [sectionsBlocks_cons, List.append_assoc] at hdrop
    have hnext : document.drop (index + s.2.length + 1) = sectionsBlocks rest ++ after := by
      rw [Nat.add_assoc, ← List.drop_drop, hdrop]
      exact List.drop_left
    have hstop : ∀ block ∈ (sectionsBlocks rest ++ after).head?, block.isBelow depth = false := by
      cases rest with
      | nil => exact hafter
      | cons t rest =>
        have ht : t.1.depth = depth := (hrest t List.mem_cons_self).1
        simp [sectionsBlocks_cons, ht]
    subst hdepth
    exact List.forall_mem_cons.mpr ⟨⟨hbody, _, hdrop, hstop⟩, ih hrest hnext⟩

theorem exists_mem_placedFrom {depth : Nat} {sections : List (Heading × List Block)}
    (hsections : AreSections depth sections) (index : Nat) {k : Nat} {h : Heading}
    (hk : (sectionsBlocks sections)[k]? = some (.heading h)) (hdepth : h.depth = depth) :
    ∃ s ∈ placedFrom index sections, s.index = index + k := by
  induction sections generalizing index k with
  | nil => simp [sectionsBlocks] at hk
  | cons s rest ih =>
    obtain ⟨⟨-, hbody⟩, hrest⟩ := List.forall_mem_cons.mp hsections
    rw [sectionsBlocks_cons] at hk
    rcases Nat.lt_or_ge k (s.2.length + 1) with hlt | hge
    · cases k with
      | zero => exact ⟨_, List.mem_cons_self, rfl⟩
      | succ k =>
        -- a heading in the body is deeper
        rw [List.getElem?_append_left hlt, List.getElem?_cons_succ] at hk
        have hdeeper := hbody _ (List.mem_of_getElem? hk)
        simp [hdepth] at hdeeper
    · rw [List.getElem?_append_right hge, List.length_cons] at hk
      obtain ⟨t, ht, hindex⟩ := ih hrest (index + s.2.length + 1) hk
      exact ⟨t, List.mem_cons_of_mem _ ht, by omega⟩

theorem depth_of_mem_placedFrom {depth index : Nat} {sections : List (Heading × List Block)}
    (hsections : AreSections depth sections) {s : PlacedSection}
    (hs : s ∈ placedFrom index sections) : s.heading.depth = depth := by
  have hpair := List.mem_map_of_mem (f := fun s => (s.heading, s.body)) hs
  rw [map_placedFrom] at hpair
  exact (hsections _ hpair).1

theorem isWithin_of_mem_sectionsBlocks {depth : Nat} {sections : List (Heading × List Block)}
    (hsections : AreSections depth sections) :
    ∀ block ∈ sectionsBlocks sections, block.isWithin depth = true := by
  intro block hblock
  obtain ⟨s, hs, hblock⟩ := List.mem_flatMap.mp hblock
  obtain ⟨hdepth, hbody⟩ := hsections s hs
  rcases List.mem_cons.mp hblock with rfl | hblock
  · simp [hdepth]
  · exact Block.isWithin_of_isBelow (hbody block hblock)

namespace Document

variable {document : Document} {index : Nat} {heading : Heading}

/-- From the first peer on the document is cut into sections of the heading's depth. -/
theorem exists_drop_firstPeer (hheading : document[index]? = some (.heading heading)) :
    let first := document.firstPeer index heading.depth
    let sections := (peerBodies heading.depth (document.drop first)).2
    AreSections heading.depth sections ∧ ∃ after,
      document.drop first = sectionsBlocks sections ++ after ∧
        ∀ block ∈ after.head?, ∃ h : Heading, block = .heading h ∧ h.depth < heading.depth := by
  intro first sections
  obtain ⟨hpeer, -⟩ := firstPeer_isLeast hheading
  obtain ⟨g, hg, hdepth⟩ := hpeer.exists_heading hheading
  obtain ⟨hsections, hbody, after, hdrop, hafter⟩ :=
    peerBodies_spec heading.depth (document.drop first)
  have hempty : (peerBodies heading.depth (document.drop first)).1 = [] := by
    cases hcase : (peerBodies heading.depth (document.drop first)).1 with
    | nil => rfl
    | cons block body =>
      have hhead : block = .heading g := by
        rw [← List.head?_drop, hdrop, hcase] at hg
        exact Option.some.inj hg
      have hbelow := hbody block (hcase ▸ List.mem_cons_self)
      simp [hhead, hdepth] at hbelow
  rw [hempty] at hdrop
  refine ⟨hsections, after, hdrop, fun block hblock => ?_⟩
  have hless := hafter block hblock
  cases block with
  | heading h => exact ⟨h, rfl, by simpa using hless⟩
  | _ => simp [Block.isWithin, Block.headingDepth?, Block.heading?] at hless

def placedPeers (document : Document) (index depth : Nat) : List PlacedSection :=
  placedFrom (document.firstPeer index depth)
    (peerBodies depth (document.drop (document.firstPeer index depth))).2

theorem map_placedPeers (document : Document) (index depth : Nat) :
    (document.placedPeers index depth).map (fun s => (s.heading, s.body)) =
      (peerBodies depth (document.drop (document.firstPeer index depth))).2 :=
  map_placedFrom _ _

theorem placedPeers_standing (hheading : document[index]? = some (.heading heading)) :
    ∀ s ∈ document.placedPeers index heading.depth, s.StandsIn document := by
  obtain ⟨hsections, after, hdrop, hafter⟩ := exists_drop_firstPeer hheading
  refine placedFrom_standing hsections hdrop fun block hblock => ?_
  obtain ⟨h, rfl, hless⟩ := hafter block hblock
  simpa using Nat.le_of_lt hless

theorem arePeers_iff_exists_placedPeers (hheading : document[index]? = some (.heading heading))
    (k : Nat) :
    document.ArePeers index k ↔
      ∃ peer ∈ document.placedPeers index heading.depth, peer.index = k := by
  obtain ⟨hpeer, hleast⟩ := firstPeer_isLeast hheading
  obtain ⟨hsections, after, hdrop, hafter⟩ := exists_drop_firstPeer hheading
  have hstanding := placedPeers_standing hheading
  unfold placedPeers at hstanding ⊢
  generalize document.firstPeer index heading.depth = first at *
  generalize (peerBodies heading.depth (document.drop first)).2 = sections at *
  obtain ⟨g, hg, hdepth⟩ := hpeer.exists_heading hheading
  constructor
  · intro hk
    have hle := hleast k hk
    have hfirst := hpeer.symm.trans hk
    obtain ⟨h, hh, hsame⟩ := hk.exists_heading hheading
    obtain ⟨m, rfl⟩ := Nat.exists_eq_add_of_le hle
    -- the heading behind the sections is less deep, so the peer is in front of it
    have hinside : m < (sectionsBlocks sections).length := by
      refine Nat.lt_of_not_le fun hbehind => ?_
      rw [← List.getElem?_drop, hdrop, List.getElem?_append_right hbehind] at hh
      cases after with
      | nil => simp at hh
      | cons block after =>
        obtain ⟨other, rfl, hless⟩ := hafter block rfl
        have hother : document[first + (sectionsBlocks sections).length]? =
            some (.heading other) := by
          rw [← List.getElem?_drop, hdrop, List.getElem?_append_right (Nat.le_refl _), Nat.sub_self]
          rfl
        have hdeep := hfirst.depth_le hg (by omega) (by omega) hother
        omega
    rw [← List.getElem?_drop, hdrop, List.getElem?_append_left hinside] at hh
    exact exists_mem_placedFrom hsections first hh hsame
  · rintro ⟨peer, hmem, rfl⟩
    have hbounds := (placedFrom_indices first sections).2 peer hmem
    have hpeerDepth := depth_of_mem_placedFrom hsections hmem
    refine hpeer.trans ⟨g, peer.heading, hg, (hstanding peer hmem).getElem?,
      hdepth.trans hpeerDepth.symm, fun k other hlow hhigh hk => ?_⟩
    obtain ⟨m, rfl⟩ := Nat.exists_eq_add_of_le (show first ≤ k by omega)
    rw [← List.getElem?_drop, hdrop, List.getElem?_append_left (by omega)] at hk
    have hwithin := isWithin_of_mem_sectionsBlocks hsections _ (List.mem_of_getElem? hk)
    rw [hdepth]
    simpa using hwithin

theorem isPeerPartition_placedPeers (hheading : document[index]? = some (.heading heading)) :
    document.IsPeerPartition index (document.placedPeers index heading.depth) := by
  obtain ⟨g, hg, -⟩ := (firstPeer_isLeast hheading).1.exists_heading hheading
  obtain ⟨hbound, -⟩ := List.getElem?_eq_some_iff.mp hg
  obtain ⟨hsections, after, hdrop, hafter⟩ := exists_drop_firstPeer hheading
  refine ⟨(placedFrom_indices _ _).1, arePeers_iff_exists_placedPeers hheading,
    placedPeers_standing hheading, document.take (document.firstPeer index heading.depth), after,
    ?_, ?_, ?_⟩
  · rw [placedPeers, flatMap_placedFrom, List.append_assoc, ← hdrop, List.take_append_drop]
  · intro peer hfirst
    rw [List.length_take, Nat.min_eq_left (Nat.le_of_lt hbound)]
    exact index_of_mem_head?_placedFrom _ _ peer hfirst
  · intro block hblock
    obtain ⟨h, rfl, hless⟩ := hafter block hblock
    exact ⟨h, rfl, fun peer hmem => by rwa [depth_of_mem_placedFrom hsections hmem]⟩

/-- The sections of the peers of a heading are extracted together as each of them is by its first
line, if every heading owns its first line: they divide the blocks from the first peer up to the end
of the section around them, and each is its own blocks with the headings moved up by its depth. -/
theorem peerSectionsAt_eq_map_extracted {line : Nat} (howns : document.OwnsLine index line)
    (hheading : document[index]? = some (.heading heading)) (hstarts : document.HeadingsOwnStarts) :
    ∃ peers, document.IsPeerPartition index peers ∧
      document.peerSectionsAt line = peers.map PlacedSection.extracted ∧
      ∀ peer ∈ peers,
        (∃ span, peer.heading.span = some span ∧
          document.sectionAt span.first = peer.extracted) ∧
        ∀ h, .heading h ∈ peer.body → 1 ≤ h.depth - peer.heading.depth := by
  have hpartition := isPeerPartition_placedPeers hheading
  refine ⟨_, hpartition, ?_, fun peer hmem => ⟨?_, fun h hh => ?_⟩⟩
  · simp only [peerSectionsAt, owningHeading?_eq howns hheading]
    rw [← map_placedPeers, List.map_map]
    exact List.map_congr_left fun peer hmem =>
      ofBlocks_eq_extracted (hpartition.standing peer hmem).body_below
  · have hstanding := hpartition.standing peer hmem
    obtain ⟨span, hspan, hfirst⟩ := hstarts peer.index peer.heading hstanding.getElem?
    exact ⟨span, hspan, hstanding.sectionAt_eq hfirst⟩
  · have hbelow := (hpartition.standing peer hmem).body_below _ hh
    rw [Block.isBelow_heading, decide_eq_true_eq] at hbelow
    omega

/-- The peers own a paragraph and a heading that skips a level, and a deeper heading stands in front
of them. -/
theorem peerSectionsAt_eq_map_extracted_orphan :
    let document : Document := [.heading ⟨1, [.text "Top"], some ⟨1, 1⟩⟩,
      .heading ⟨3, [.text "Orphan"], some ⟨2, 2⟩⟩, .heading ⟨2, [.text "A"], some ⟨3, 3⟩⟩,
      .paragraph ⟨[.text "x"], some ⟨4, 4⟩⟩, .heading ⟨4, [.text "A1"], some ⟨5, 5⟩⟩,
      .heading ⟨2, [.text "B"], some ⟨6, 6⟩⟩, .heading ⟨1, [.text "Next"], some ⟨7, 7⟩⟩]
    document.OwnsLine 5 6 ∧ document.HeadingsOwnStarts ∧
      ∃ peers, document.IsPeerPartition 5 peers ∧
        document.peerSectionsAt 6 = peers.map PlacedSection.extracted ∧
        ∀ peer ∈ peers,
          (∃ span, peer.heading.span = some span ∧
            document.sectionAt span.first = peer.extracted) ∧
          ∀ h, .heading h ∈ peer.body → 1 ≤ h.depth - peer.heading.depth := by
  intro document
  have howns : document.OwnsLine 5 6 := by decide
  have hstarts : document.HeadingsOwnStarts := by decide
  exact ⟨howns, hstarts, peerSectionsAt_eq_map_extracted howns rfl hstarts⟩

end Document

end MarkdownOutline
