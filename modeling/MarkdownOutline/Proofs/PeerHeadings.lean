import MarkdownOutline.Outline.Cascade
import MarkdownOutline.Outline.Section
import MarkdownOutline.Proofs.OwnedLines

/-!
# Peers of a heading

Headings of one depth are peers if no heading between them is less deep. This is an equivalence,
and the first peer of a heading is the least one of its class. What is done to a heading and its
peers starts there, so it does not matter which of them it is asked of.
-/

namespace MarkdownOutline

/-- Headings of the same depth stand at the indices, with no heading between them that is less
deep. -/
def Document.ArePeers (document : Document) (i j : Nat) : Prop :=
  ∃ g h : Heading, document[i]? = some (.heading g) ∧ document[j]? = some (.heading h) ∧
    g.depth = h.depth ∧ ∀ k other, min i j < k → k < max i j →
      document[k]? = some (.heading other) → g.depth ≤ other.depth

namespace Document.ArePeers

variable {document : Document} {i j k : Nat}

theorem refl {heading : Heading} (h : document[i]? = some (.heading heading)) :
    document.ArePeers i i :=
  ⟨heading, heading, h, h, rfl, fun k _ hlow hhigh => by omega⟩

theorem symm (h : document.ArePeers i j) : document.ArePeers j i := by
  obtain ⟨g, h, hi, hj, hdepth, hbetween⟩ := h
  refine ⟨h, g, hj, hi, hdepth.symm, fun k other hlow hhigh hk => ?_⟩
  rw [← hdepth]
  exact hbetween k other (by omega) (by omega) hk

theorem exists_heading {g : Heading} (hij : document.ArePeers i j)
    (hi : document[i]? = some (.heading g)) :
    ∃ h : Heading, document[j]? = some (.heading h) ∧ h.depth = g.depth := by
  obtain ⟨g', h, hi', hj, hdepth, -⟩ := hij
  obtain rfl : g = g' := by simpa [hi] using hi'
  exact ⟨h, hj, hdepth.symm⟩

theorem depth_le {g other : Heading} (hij : document.ArePeers i j)
    (hi : document[i]? = some (.heading g)) (hlow : min i j ≤ k) (hhigh : k ≤ max i j)
    (hk : document[k]? = some (.heading other)) : g.depth ≤ other.depth := by
  obtain ⟨g', h, hi', hj, hdepth, hbetween⟩ := hij
  obtain rfl : g = g' := by simpa [hi] using hi'
  by_cases hki : k = i
  · obtain rfl : g = other := by simpa [hki, hi] using hk
    exact Nat.le_refl _
  by_cases hkj : k = j
  · obtain rfl : h = other := by simpa [hkj, hj] using hk
    exact Nat.le_of_eq hdepth
  exact hbetween k other (by omega) (by omega) hk

theorem trans (hij : document.ArePeers i j) (hjk : document.ArePeers j k) :
    document.ArePeers i k := by
  obtain ⟨g, h, hi, hj, hgh, -⟩ := id hij
  obtain ⟨h', hk, hdepth⟩ := hjk.exists_heading hj
  refine ⟨g, h', hi, hk, hgh.trans hdepth.symm, fun m other hlow hhigh hm => ?_⟩
  -- what is between the outer two is between the middle one and one of them
  by_cases hleft : min i j ≤ m ∧ m ≤ max i j
  · exact hij.depth_le hi hleft.1 hleft.2 hm
  · exact hgh ▸ hjk.depth_le hj (by omega) (by omega) hm

end Document.ArePeers

private def OnlyDeeper (document : Document) (depth low high : Nat) : Prop :=
  ∀ k heading, low ≤ k → k < high → document[k]? = some (.heading heading) →
    depth < heading.depth

private theorem OnlyDeeper.cons {document : Document} {depth low high : Nat}
    (h : OnlyDeeper document depth (low + 1) high)
    (hlow : ∀ heading, document[low]? = some (.heading heading) → depth < heading.depth) :
    OnlyDeeper document depth low high := by
  intro k heading hk hhigh hheading
  rcases Nat.lt_or_eq_of_le hk with hk | rfl
  · exact h k heading hk hhigh hheading
  · exact hlow heading hheading

private theorem OnlyDeeper.le {document : Document} {low found k : Nat} {heading : Heading}
    (h : OnlyDeeper document heading.depth low found)
    (hfound : document[found]? = some (.heading heading)) (hpeer : document.ArePeers found k)
    (hk : low ≤ k) : found ≤ k := by
  obtain ⟨g, hg, hsame⟩ := hpeer.exists_heading hfound
  refine Nat.le_of_not_lt fun hlt => ?_
  have hdeeper := h k g hk hlt hg
  omega

/-- The search for the first peer goes on from a heading that has no peer in the blocks that it has
passed. -/
private theorem firstPeerBefore_isLeast {document : Document} {depth found : Nat}
    {before after : List Block} {heading : Heading} (hdocument : document = before.reverse ++ after)
    (hfound : document[found]? = some (.heading heading)) (hdepth : heading.depth = depth)
    (hbefore : before.length ≤ found)
    (hpassed : OnlyDeeper document depth before.length found) :
    document.ArePeers found (firstPeerBefore depth found before) ∧
      ∀ k, document.ArePeers found k → firstPeerBefore depth found before ≤ k := by
  fun_induction firstPeerBefore depth found before generalizing heading after with
  | case1 found =>
    subst hdepth
    exact ⟨.refl hfound, fun k hpeer => hpassed.le hfound hpeer (Nat.zero_le k)⟩
  | case2 found block before hblock ih =>
    obtain ⟨g, hg, rfl⟩ := Block.headingDepth?_eq_some_iff.mp hblock
    have hnext : document[before.length]? = some (.heading g) := by simp [hdocument]
    have hpeer : document.ArePeers found before.length := by
      refine ⟨heading, g, hfound, hnext, hdepth.trans hg.symm, fun k other hlow hhigh hk => ?_⟩
      simp only [List.length_cons] at hbefore hpassed
      have hdeeper := hpassed k other (by omega) (by omega) hk
      omega
    have hdocument' : document = before.reverse ++ .heading g :: after := by simp [hdocument]
    obtain ⟨hfirst, hleast⟩ := ih hdocument' hnext hg (Nat.le_refl _)
      (fun k other hlow hhigh => by omega)
    exact ⟨hpeer.trans hfirst, fun k hk => hleast k (hpeer.symm.trans hk)⟩
  | case3 found block before d hblock hne hlt =>
    subst hdepth
    obtain ⟨g, hg, rfl⟩ := Block.headingDepth?_eq_some_iff.mp hblock
    have hnext : document[before.length]? = some (.heading g) := by simp [hdocument]
    refine ⟨.refl hfound, fun k hpeer => hpassed.le hfound hpeer ?_⟩
    -- a peer behind the less deep heading would have it in between
    rw [List.length_cons] at hbefore
    refine Nat.lt_of_not_le fun hk => ?_
    have hshallow := hpeer.depth_le hfound (by omega) (by omega) hnext
    omega
  | case4 found block before d hblock hne hge ih =>
    obtain ⟨g, hg, rfl⟩ := Block.headingDepth?_eq_some_iff.mp hblock
    have hnext : document[before.length]? = some (.heading g) := by simp [hdocument]
    have hdocument' : document = before.reverse ++ .heading g :: after := by simp [hdocument]
    refine ih hdocument' hfound hdepth (Nat.le_of_succ_le hbefore)
      (hpassed.cons fun other hother => ?_)
    obtain rfl : g = other := by simpa [hnext] using hother
    omega
  | case5 found block before hblock ih =>
    have hnext : document[before.length]? = some block := by simp [hdocument]
    have hdocument' : document = before.reverse ++ block :: after := by simp [hdocument]
    refine ih hdocument' hfound hdepth (Nat.le_of_succ_le hbefore)
      (hpassed.cons fun other hother => ?_)
    obtain rfl : block = .heading other := by simpa [hnext] using hother
    simp [Block.headingDepth?, Block.heading?] at hblock

theorem Document.firstPeer_isLeast {document : Document} {index : Nat} {heading : Heading}
    (hheading : document[index]? = some (.heading heading)) :
    document.ArePeers index (document.firstPeer index heading.depth) ∧
      ∀ k, document.ArePeers index k → document.firstPeer index heading.depth ≤ k := by
  obtain ⟨hbound, -⟩ := List.getElem?_eq_some_iff.mp hheading
  have hlength : (document.take index).reverse.length = index := by
    rw [List.length_reverse, List.length_take]
    omega
  have hdocument : document = (document.take index).reverse.reverse ++ document.drop index := by
    rw [List.reverse_reverse, List.take_append_drop]
  exact firstPeerBefore_isLeast hdocument hheading rfl (Nat.le_of_eq hlength)
    fun k other hlow hhigh => by omega

/-- Peers have the same depth and the same first peer. -/
theorem Document.ArePeers.exists_firstPeer_eq {document : Document} {i j : Nat}
    (hpeers : document.ArePeers i j) :
    ∃ g h : Heading, document[i]? = some (.heading g) ∧ document[j]? = some (.heading h) ∧
      g.depth = h.depth ∧ document.firstPeer i h.depth = document.firstPeer j h.depth := by
  obtain ⟨g, h, hi, hj, hdepth, -⟩ := id hpeers
  obtain ⟨hfirst, hleast⟩ := firstPeer_isLeast hi
  obtain ⟨hfirst', hleast'⟩ := firstPeer_isLeast hj
  rw [hdepth] at hfirst hleast
  refine ⟨g, h, hi, hj, hdepth, Nat.le_antisymm ?_ ?_⟩
  · exact hleast _ (hpeers.trans hfirst')
  · exact hleast' _ (hpeers.symm.trans hfirst)

namespace Document

variable {document : Document} {i j : Nat}

theorem headingToList_eq_of_arePeers (hpeers : document.ArePeers i j) :
    document.headingToList i true false = document.headingToList j true false := by
  obtain ⟨g, h, hi, hj, hdepth, hfirst⟩ := hpeers.exists_firstPeer_eq
  simp [headingToList, flattenSections?, hi, hj, Block.heading?, hdepth, hfirst]

theorem retargetHeading_eq_of_arePeers (hpeers : document.ArePeers i j) {line line' : Nat}
    (hline : ∀ k, document.HeadingStartsAt k line ↔ k = i)
    (hline' : ∀ k, document.HeadingStartsAt k line' ↔ k = j) (depth : Nat) :
    document.retargetHeading line depth true = document.retargetHeading line' depth true := by
  obtain ⟨g, h, hi, hj, hdepth, hfirst⟩ := hpeers.exists_firstPeer_eq
  simp [retargetHeading, headingStartingAt?_eq hline, headingStartingAt?_eq hline', hi, hj, hdepth,
    hfirst]

theorem peerSectionsAt_eq_of_arePeers (hpeers : document.ArePeers i j) {line line' : Nat}
    (hline : document.OwnsLine i line) (hline' : document.OwnsLine j line') :
    document.peerSectionsAt line = document.peerSectionsAt line' := by
  obtain ⟨g, h, hi, hj, hdepth, hfirst⟩ := hpeers.exists_firstPeer_eq
  simp only [peerSectionsAt, owningHeading?_eq hline hi, owningHeading?_eq hline' hj, hdepth,
    hfirst]

/-- It does not matter which of some peers is chosen: their sections turn into the same list, they
move to another depth alike if each of the two is found by its first line, and they are the same
sections for all lines that belong to them. -/
theorem changes_eq_of_arePeers (hpeers : document.ArePeers i j) :
    document.headingToList i true false = document.headingToList j true false ∧
      (∀ line line' depth, (∀ k, document.HeadingStartsAt k line ↔ k = i) →
        (∀ k, document.HeadingStartsAt k line' ↔ k = j) →
          document.retargetHeading line depth true = document.retargetHeading line' depth true) ∧
      ∀ line line', document.OwnsLine i line → document.OwnsLine j line' →
        document.peerSectionsAt line = document.peerSectionsAt line' :=
  ⟨headingToList_eq_of_arePeers hpeers,
    fun _ _ depth hline hline' => retargetHeading_eq_of_arePeers hpeers hline hline' depth,
    fun _ _ hline hline' => peerSectionsAt_eq_of_arePeers hpeers hline hline'⟩

/-- A deeper heading stands between the peers, and another one in front of them. -/
theorem changes_eq_of_arePeers_orphan :
    let document : Document := [.heading ⟨1, [.text "Top"], some ⟨1, 1⟩⟩,
      .heading ⟨3, [.text "Orphan"], some ⟨2, 2⟩⟩, .heading ⟨2, [.text "A"], some ⟨3, 3⟩⟩,
      .heading ⟨3, [.text "A1"], some ⟨4, 4⟩⟩, .heading ⟨2, [.text "B"], some ⟨5, 5⟩⟩]
    document.ArePeers 2 4 ∧
      document.headingToList 2 true false = document.headingToList 4 true false ∧
      document.retargetHeading 3 6 true = document.retargetHeading 5 6 true ∧
      document.peerSectionsAt 3 = document.peerSectionsAt 5 := by
  intro document
  have hpeers : document.ArePeers 2 4 := by
    refine ⟨_, _, rfl, rfl, rfl, fun k other hlow hhigh hk => ?_⟩
    obtain rfl : k = 3 := by omega
    obtain rfl := Block.heading.inj (Option.some.inj hk)
    decide
  have hthree : ∀ k, document.HeadingStartsAt k 3 ↔ k = 2 := by
    intro k
    rcases k with _ | _ | _ | _ | _ | k <;> simp [HeadingStartsAt, document]
  have hfive : ∀ k, document.HeadingStartsAt k 5 ↔ k = 4 := by
    intro k
    rcases k with _ | _ | _ | _ | _ | k <;> simp [HeadingStartsAt, document]
  obtain ⟨hlist, hdepth, hsections⟩ := changes_eq_of_arePeers hpeers
  exact ⟨hpeers, hlist, hdepth 3 5 6 hthree hfive, hsections 3 5 (by decide) (by decide)⟩

end Document

end MarkdownOutline
