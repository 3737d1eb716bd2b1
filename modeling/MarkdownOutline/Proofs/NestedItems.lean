import MarkdownOutline.Proofs.SectionEntries
import MarkdownOutline.Proofs.SectionMembers

/-!
# Items and the headings that own them

In the list that sections turn into, the nesting of the items is that of the sections. The item of a
block is in the list under the heading that owns the block, or in the outer list if no heading does,
and each list keeps the order of the document, whatever depths are skipped or come back.
-/

namespace MarkdownOutline

def ItemsOf (itemAt : Nat → Item) (p : Nat → Prop) (items : List Item) : Prop :=
  ∃ indices : List Nat, indices.Pairwise (· < ·) ∧ (∀ index, index ∈ indices ↔ p index) ∧
    items = indices.map itemAt

/-- The item of a block. That of a heading holds the title and a list of the items that the heading
owns. A paragraph is an item by itself, and a list stands in an item under a label. -/
inductive Block.HasItem (owned : List Item → Prop) : Block → Item → Prop
  | heading (h : Heading) {inner : List Item} (howned : owned inner) :
      HasItem owned (.heading h)
        (.mk [.paragraph (.ofText h.plainTitle), .list (.numbered inner)] none)
  | paragraph (p : Paragraph) : HasItem owned (.paragraph p) (.mk [.paragraph p] none)
  | list (label : Paragraph) (l : ListBlock) :
      HasItem owned (.list l) (.mk [.paragraph label, .list l] none)

/-- The block at the index gets an item: it is a heading, a paragraph or a list. -/
def Document.IsListed (document : Document) (index : Nat) : Prop :=
  ∃ block, document[index]? = some block ∧ block.kind ≠ .other

/-- Each of the blocks has its item, in the list of the heading that owns the block. The outer list
has the items of the blocks that no heading owns. -/
structure IsNestedAs (blocks : Document) (itemAt : Nat → Item) (items : List Item) : Prop where
  outer : ItemsOf itemAt (fun j => blocks.IsListed j ∧ ∀ i, ¬ blocks.IsOwner i j) items
  nested : ∀ (i : Nat) (block : Block), blocks[i]? = some block → block.kind ≠ .other →
    block.HasItem (ItemsOf itemAt fun j => blocks.IsListed j ∧ blocks.IsOwner i j) (itemAt i)

namespace ItemsOf

variable {itemAt : Nat → Item} {p q : Nat → Prop} {items : List Item}

theorem congr (h : ItemsOf itemAt p items) (hpq : ∀ index, q index ↔ p index) :
    ItemsOf itemAt q items := by
  obtain ⟨indices, hascend, hmem, hitems⟩ := h
  exact ⟨indices, hascend, fun index => (hmem index).trans (hpq index).symm, hitems⟩

theorem shift {moved : Nat → Item} (h : ItemsOf itemAt p items) (places : Nat)
    (hmoved : ∀ index, p index → moved (places + index) = itemAt index) :
    ItemsOf moved (fun index => places ≤ index ∧ p (index - places)) items := by
  obtain ⟨indices, hascend, hmem, rfl⟩ := h
  refine ⟨indices.map (places + ·), ?_, ?_, ?_⟩
  · exact List.pairwise_map.mpr (hascend.imp fun hlt => Nat.add_lt_add_left hlt places)
  · intro index
    rw [List.mem_map]
    constructor
    · rintro ⟨i, hi, rfl⟩
      exact ⟨Nat.le_add_right .., by simpa using (hmem i).mp hi⟩
    · rintro ⟨hle, hp⟩
      exact ⟨_, (hmem _).mpr hp, Nat.add_sub_cancel' hle⟩
  · rw [List.map_map]
    exact List.map_congr_left fun index hindex => (hmoved index ((hmem index).mp hindex)).symm

theorem append {others : List Item} (hitems : ItemsOf itemAt p items)
    (hothers : ItemsOf itemAt q others) (hlt : ∀ i j, p i → q j → i < j) :
    ItemsOf itemAt (fun index => p index ∨ q index) (items ++ others) := by
  obtain ⟨is, hascend, hmem, rfl⟩ := hitems
  obtain ⟨js, hascend', hmem', rfl⟩ := hothers
  refine ⟨is ++ js, List.pairwise_append.mpr ⟨hascend, hascend', ?_⟩, ?_, ?_⟩
  · intro i hi j hj
    exact hlt i j ((hmem i).mp hi) ((hmem' j).mp hj)
  · intro index
    rw [List.mem_append, hmem, hmem']
  · rw [List.map_append]

end ItemsOf

theorem Block.HasItem.mono {owned owned' : List Item → Prop} {block : Block} {item : Item}
    (h : block.HasItem owned item) (hmono : ∀ items, owned items → owned' items) :
    block.HasItem owned' item := by
  cases h with
  | heading h howned => exact .heading h (hmono _ howned)
  | paragraph p => exact .paragraph p
  | list label l => exact .list label l

/-- The items of blocks in two parts, the first of which has `count` blocks. -/
def joinedItems (count : Nat) (first second : Nat → Item) (index : Nat) : Item :=
  if index < count then first index else second (index - count)

theorem joinedItems_left {count index : Nat} {first second : Nat → Item} (h : index < count) :
    joinedItems count first second index = first index := if_pos h

@[simp] theorem joinedItems_right (count index : Nat) (first second : Nat → Item) :
    joinedItems count first second (count + index) = second index := by
  rw [joinedItems, if_neg (Nat.not_lt.mpr (Nat.le_add_right ..)), Nat.add_sub_cancel_left]

theorem ItemsOf.behind {p q : Nat → Prop} {first second : Nat → Item} {items : List Item}
    (h : ItemsOf second p items) (count : Nat) (hfirst : ∀ index < count, ¬ q index)
    (hsecond : ∀ index, q (count + index) ↔ p index) :
    ItemsOf (joinedItems count first second) q items := by
  refine (h.shift count fun j _ => joinedItems_right ..).congr fun index => ?_
  rcases Nat.lt_or_ge index count with hlow | hhigh
  · simp [hfirst index hlow, Nat.not_le.mpr hlow]
  · obtain ⟨j, rfl⟩ := Nat.exists_eq_add_of_le hhigh
    simp [hsecond]

namespace Document

variable {front back : Document} {index owner : Nat}

theorem IsListed.lt_length {document : Document} (h : document.IsListed index) :
    index < document.length := by
  obtain ⟨block, hblock, -⟩ := h
  exact (List.getElem?_eq_some_iff.mp hblock).1

theorem isListed_append_left (hindex : index < front.length) :
    IsListed (front ++ back) index ↔ IsListed front index := by
  unfold IsListed
  rw [List.getElem?_append_left hindex]

theorem isListed_append_right (front : Document) :
    IsListed (front ++ back) (front.length + index) ↔ IsListed back index := by
  unfold IsListed
  rw [List.getElem?_append_right (Nat.le_add_right ..), Nat.add_sub_cancel_left]

/-- What stands below a heading of the first part also stands below one of the second part that is
before it. -/
def IsClosed (front back : Document) : Prop :=
  ∀ i j, i < front.length → StandsBelow (front ++ back) i (front.length + j) →
    ∃ k < j, StandsBelow back k j

/-- No heading of a closed part owns a block behind the part. -/
theorem IsClosed.isOwner_iff (h : front.IsClosed back) :
    IsOwner (front ++ back) owner (front.length + index) ↔
      ∃ k, owner = front.length + k ∧ IsOwner back k index := by
  constructor
  · intro howner
    by_cases hfront : owner < front.length
    · obtain ⟨k, hlt, hk⟩ := h owner index hfront howner.below
      have hbetween := (standsBelow_append_right front).mpr hk
      exact absurd hbetween (howner.nearest _ (by omega) (by omega))
    · obtain ⟨k, rfl⟩ := Nat.exists_eq_add_of_le (Nat.not_lt.mp hfront)
      exact ⟨k, rfl, (isOwner_append_right front).mp howner⟩
  · rintro ⟨k, rfl, hk⟩
    exact (isOwner_append_right front).mpr hk

end Document

open Document in
theorem IsNestedAs.append {front back : Document} {itemAt itemAt' : Nat → Item}
    {items items' : List Item} (hfront : IsNestedAs front itemAt items)
    (hback : IsNestedAs back itemAt' items') (hclosed : front.IsClosed back) :
    IsNestedAs (front ++ back) (joinedItems front.length itemAt itemAt') (items ++ items') := by
  have hleft {p : Nat → Prop} {xs : List Item} (hp : ∀ j, p j → j < front.length)
      (h : ItemsOf itemAt p xs) : ItemsOf (joinedItems front.length itemAt itemAt') p xs := by
    refine (h.shift 0 fun j hj => ?_).congr fun j => by simp
    rw [Nat.zero_add, joinedItems_left (hp j hj)]
  have hbehind (j : Nat) : ¬ front.IsListed (front.length + j) := fun h =>
    absurd h.lt_length (Nat.not_lt.mpr (Nat.le_add_right ..))
  constructor
  · have hshift := hback.outer.shift front.length fun j _ =>
      joinedItems_right front.length j itemAt itemAt'
    have hboth := (hleft (fun j hj => hj.1.lt_length) hfront.outer).append hshift
      fun i j hi hj => Nat.lt_of_lt_of_le hi.1.lt_length hj.1
    refine hboth.congr fun j => ?_
    rcases Nat.lt_or_ge j front.length with hj | hj
    · simp only [isListed_append_left hj, isOwner_append_left hj, Nat.not_le.mpr hj, false_and,
        or_false]
    · obtain ⟨j, rfl⟩ := Nat.exists_eq_add_of_le hj
      simp only [isListed_append_right, hclosed.isOwner_iff, hbehind, false_and, false_or, hj,
        true_and, Nat.add_sub_cancel_left, not_exists, not_and]
      exact and_congr_right fun _ => ⟨fun h i => h _ i rfl, fun h _ i _ => h i⟩
  · intro i block hblock hkind
    rcases Nat.lt_or_ge i front.length with hi | hi
    · rw [List.getElem?_append_left hi] at hblock
      rw [joinedItems_left hi]
      refine (hfront.nested i block hblock hkind).mono fun xs hxs => ?_
      refine (hleft (fun j hj => hj.1.lt_length) hxs).congr fun j => ?_
      rcases Nat.lt_or_ge j front.length with hj | hj
      · simp only [isListed_append_left hj, isOwner_append_left hj]
      · obtain ⟨j, rfl⟩ := Nat.exists_eq_add_of_le hj
        simp only [hclosed.isOwner_iff, hbehind, false_and, iff_false, not_and, not_exists]
        rintro - k rfl
        omega
    · obtain ⟨i, rfl⟩ := Nat.exists_eq_add_of_le hi
      rw [List.getElem?_append_right hi, Nat.add_sub_cancel_left] at hblock
      rw [joinedItems_right]
      refine (hback.nested i block hblock hkind).mono fun xs hxs => ?_
      refine hxs.behind front.length (fun j hj howned => ?_) fun j => ?_
      · have := ((isOwner_append_left hj).mp howned.2).before
        omega
      · rw [isListed_append_right, isOwner_append_right]

theorem isNestedAs_nil (itemAt : Nat → Item) : IsNestedAs [] itemAt [] := by
  constructor
  · refine ⟨[], .nil, fun index => ?_, rfl⟩
    simp [Document.IsListed]
  · intro i block hblock
    simp at hblock

theorem root_isOwner_iff {h : Heading} {body : Document}
    (hbody : ∀ block ∈ body, block.isBelow h.depth = true) {index : Nat}
    (hindex : index < body.length) :
    Document.IsOwner (.heading h :: body) 0 (1 + index) ↔ ∀ i, ¬ body.IsOwner i index := by
  have hright {i j : Nat} : Document.StandsBelow (.heading h :: body) (1 + i) (1 + j) ↔
      body.StandsBelow i j := Document.standsBelow_append_right [.heading h]
  have hroot : Document.StandsBelow (.heading h :: body) 0 (1 + index) := by
    refine ⟨h, body[index], rfl, ?_, hbody _ (List.getElem_mem hindex)⟩
    rw [Nat.add_comm, List.getElem?_cons_succ, List.getElem?_eq_getElem hindex]
  constructor
  · intro howner i hi
    exact howner.nearest (1 + i) (by omega) (Nat.add_lt_add_left hi.before 1) (hright.mpr hi.below)
  · intro hfree
    refine ⟨by omega, hroot, fun k hlow hhigh hk => ?_⟩
    obtain ⟨k, rfl⟩ := Nat.exists_eq_add_of_le (Nat.succ_le_of_lt hlow)
    obtain ⟨i, hi⟩ := Document.exists_isOwner (by omega) (hright.mp hk)
    exact hfree i hi

/-- A section is the item of its heading, with the items of what stands under the heading in it. -/
theorem IsNestedAs.section {h : Heading} {body : Document} {itemAt : Nat → Item}
    {items : List Item} (hitems : IsNestedAs body itemAt items)
    (hbody : ∀ block ∈ body, block.isBelow h.depth = true) :
    IsNestedAs (.heading h :: body)
      (joinedItems 1 (fun _ => headingItem h.plainTitle items) itemAt)
      [headingItem h.plainTitle items] := by
  have hlisted (j : Nat) : Document.IsListed (.heading h :: body) (1 + j) ↔ body.IsListed j :=
    Document.isListed_append_right [.heading h]
  have howned (i j : Nat) : Document.IsOwner (.heading h :: body) (1 + i) (1 + j) ↔
      body.IsOwner i j := Document.isOwner_append_right [.heading h]
  have hfirst (i j : Nat) (hj : j < 1) : ¬ Document.IsOwner (.heading h :: body) i j :=
    fun howner => by have := howner.before; omega
  constructor
  · refine ⟨[0], List.pairwise_singleton _ _, fun index => ?_, rfl⟩
    rw [List.mem_singleton]
    constructor
    · rintro rfl
      exact ⟨⟨_, rfl, by simp [Block.kind]⟩, fun i => hfirst i 0 Nat.one_pos⟩
    · rintro ⟨hin, hfree⟩
      -- A block behind the heading is owned in the body, or else by the heading.
      apply Classical.byContradiction
      intro hne
      obtain ⟨j, rfl⟩ := Nat.exists_eq_add_of_le (Nat.one_le_iff_ne_zero.mpr hne)
      have hj := ((hlisted j).mp hin).lt_length
      exact hfree 0 ((root_isOwner_iff hbody hj).mpr fun i hi =>
        hfree (1 + i) ((howned i j).mpr hi))
  · intro i block hblock hkind
    rcases Nat.eq_zero_or_pos i with rfl | hi
    · obtain rfl : Block.heading h = block := Option.some.inj hblock
      refine .heading h (hitems.outer.behind 1 (fun j hj howned => hfirst 0 j hj howned.2)
        fun j => ?_)
      rw [hlisted]
      exact and_congr_right fun hin => root_isOwner_iff hbody hin.lt_length
    · obtain ⟨i, rfl⟩ := Nat.exists_eq_add_of_le hi
      rw [Nat.add_comm, List.getElem?_cons_succ] at hblock
      rw [joinedItems_right]
      refine (hitems.nested i block hblock hkind).mono fun xs hxs => ?_
      refine hxs.behind 1 (fun j hj howned => hfirst _ j hj howned.2) fun j => ?_
      rw [hlisted, howned]

/-- A section ends at a heading that is no deeper than its own, so all that stands below a heading of
the section stands below that one too. -/
theorem isClosed_section {h : Heading} {body back : Document}
    (hbody : ∀ block ∈ body, block.isBelow h.depth = true)
    (hback : ∀ block ∈ back.head?, block.isBelow h.depth = false) :
    Document.IsClosed (.heading h :: body) back := by
  rintro i j hi ⟨g, block, hg, hblock, hbelow⟩
  rw [List.getElem?_append_left hi] at hg
  rw [List.getElem?_append_right (Nat.le_add_right ..), Nat.add_sub_cancel_left] at hblock
  have hdeep : h.depth ≤ g.depth := by
    rcases List.mem_cons.mp (List.mem_of_getElem? hg) with heq | hmem
    · rw [Block.heading.inj heq]
    · exact Nat.le_of_lt (by simpa using hbody _ hmem)
  have hown : block.isBelow h.depth = true := Block.isBelow_mono hdeep hbelow
  obtain ⟨first, rest, rfl⟩ : ∃ first rest, back = first :: rest := by
    cases back with
    | nil => simp at hblock
    | cons first rest => exact ⟨first, rest, rfl⟩
  have hfirst := hback first rfl
  cases j with
  | zero =>
    obtain rfl : first = block := Option.some.inj hblock
    rw [hown] at hfirst
    cases hfirst
  | succ j =>
    cases first with
    | heading g' =>
      have hshallow : g'.depth ≤ h.depth := by simpa using hfirst
      exact ⟨0, Nat.succ_pos j, g', block, rfl, hblock, Block.isBelow_mono hshallow hown⟩
    | _ => cases hfirst

theorem isClosed_singleton {block : Block} (hblock : block.heading? = none) (back : Document) :
    Document.IsClosed [block] back := by
  rintro i j hi ⟨g, other, hg, -, -⟩
  obtain rfl : i = 0 := by simpa using hi
  obtain rfl : block = .heading g := Option.some.inj hg
  cases hblock

theorem IsNestedAs.cons {block : Block} {item : Item} {rest : Document} {itemAt : Nat → Item}
    {items : List Item} (hrest : IsNestedAs rest itemAt items) (hblock : block.heading? = none)
    (hkind : block.kind ≠ .other) (hitem : ∀ owned, block.HasItem owned item) :
    IsNestedAs (block :: rest) (joinedItems 1 (fun _ => item) itemAt) (item :: items) := by
  have hsingle : IsNestedAs [block] (fun _ => item) [item] := by
    constructor
    · refine ⟨[0], List.pairwise_singleton _ _, fun index => ?_, rfl⟩
      rw [List.mem_singleton]
      constructor
      · rintro rfl
        exact ⟨⟨block, rfl, hkind⟩, fun i hi => absurd hi.before (Nat.not_lt_zero i)⟩
      · rintro ⟨hin, -⟩
        simpa using hin.lt_length
    · intro i other hother _
      obtain rfl : other = block := by simpa using List.mem_of_getElem? hother
      exact hitem _
  exact hsingle.append hrest (isClosed_singleton hblock rest)

theorem IsNestedAs.cons_other {m : Markup} {span : Option Span} {rest : Document}
    {itemAt : Nat → Item} {items : List Item} (hrest : IsNestedAs rest itemAt items) :
    IsNestedAs (.other m span :: rest) (joinedItems 1 itemAt itemAt) items := by
  have hnone : IsNestedAs [.other m span] itemAt [] := by
    constructor
    · refine ⟨[], .nil, fun index => ?_, rfl⟩
      rw [List.mem_nil_iff, false_iff]
      rintro ⟨⟨block, hblock, hkind⟩, -⟩
      obtain rfl : block = .other m span := by simpa using List.mem_of_getElem? hblock
      exact hkind rfl
    · intro i block hblock hkind
      obtain rfl : block = .other m span := by simpa using List.mem_of_getElem? hblock
      exact absurd rfl hkind
  exact hnone.append hrest (isClosed_singleton rfl rest)

theorem exists_isNestedAs_flattenBlocks (title : String) (lists : Nat) (blocks : List Block) :
    ∃ itemAt, IsNestedAs blocks itemAt (flattenBlocks title lists blocks).1 := by
  fun_induction flattenBlocks title lists blocks with
  | case1 => exact ⟨fun _ => .mk [] none, isNestedAs_nil _⟩
  | case2 title lists h rest inner innerTail hinner items tail hitems ihinner ihitems =>
    rw [hinner] at ihinner
    rw [hitems] at ihitems
    obtain ⟨innerAt, hinnerAt⟩ := ihinner
    obtain ⟨itemAt, hitemAt⟩ := ihitems
    have hbody : ∀ block ∈ rest.takeWhile (Block.isBelow h.depth),
        block.isBelow h.depth = true := List.all_eq_true.mp List.all_takeWhile
    have hback : ∀ block ∈ (rest.dropWhile (Block.isBelow h.depth)).head?,
        block.isBelow h.depth = false := by
      intro block hblock
      have hnot := List.head?_dropWhile_not (Block.isBelow h.depth) rest
      rw [hblock] at hnot
      simpa using hnot
    have hboth := (hinnerAt.section hbody).append hitemAt (isClosed_section hbody hback)
    rw [List.cons_append, List.takeWhile_append_dropWhile] at hboth
    exact ⟨_, hboth⟩
  | case3 title lists p rest items tail hrest ih =>
    rw [hrest] at ih
    obtain ⟨itemAt, hitemAt⟩ := ih
    exact ⟨_, hitemAt.cons rfl (by simp [Block.kind]) fun _ => .paragraph p⟩
  | case4 title lists l rest items tail hrest ih =>
    rw [hrest] at ih
    obtain ⟨itemAt, hitemAt⟩ := ih
    exact ⟨_, hitemAt.cons rfl (by simp [Block.kind]) fun _ => .list _ l⟩
  | case5 title lists m span rest items tail hrest ih =>
    rw [hrest] at ih
    obtain ⟨itemAt, hitemAt⟩ := ih
    exact ⟨_, hitemAt.cons_other⟩

theorem Document.exists_isOwner_of_heading {g : Heading} {rest : Document} {index : Nat}
    {block : Block} (hblock : (Block.heading g :: rest)[index]? = some block)
    (hnone : block.heading? = none) : ∃ owner, IsOwner (.heading g :: rest) owner index := by
  have hpos : 0 < index := by
    apply Nat.pos_of_ne_zero
    rintro rfl
    obtain rfl : Block.heading g = block := Option.some.inj hblock
    cases hnone
  have hbelow : block.isBelow g.depth = true := by
    simp [Block.isBelow, Block.headingDepth?, hnone]
  exact exists_isOwner hpos ⟨g, block, rfl, hblock, hbelow⟩

/-- In the list that sections turn into, with the peers of the heading or without them, the items
are nested as the sections are. The item of a heading is in the list of the nearest heading before it
that is less deep, and in the outer list exactly if the run has no such heading. The item of a
paragraph or list is in the list of the nearest heading before it. Everywhere the items keep the
order of the document. -/
theorem Document.headingToList_isNestedAs {document : Document} {index : Nat} {h : Heading}
    (hheading : document[index]? = some (.heading h)) (peers onlyBelow : Bool) :
    ∃ first stop items itemAt, document.IsFirstSection (peers && !onlyBelow) index first ∧
      document.IsSectionRange peers h.depth first stop ∧ index < stop ∧
      document.headingToList index peers onlyBelow =
        document.take first ++ [.list (.numbered items)] ++
          (document.extract first stop).filter (·.kind == .other) ++ document.drop stop ∧
      IsNestedAs (document.extract first stop) itemAt items ∧
      ∀ (j : Nat) (block : Block), (document.extract first stop)[j]? = some block →
        block.heading? = none → ∃ owner, IsOwner (document.extract first stop) owner j := by
  obtain ⟨first, stop, g, hchosen, hrange, -, hextract, hlist⟩ :=
    headingToList_range hheading peers onlyBelow
  have hindex := hrange.index_lt hheading hchosen fun hall => (Bool.and_eq_true_iff.mp hall).1
  obtain ⟨itemAt, hnested⟩ := exists_isNestedAs_flattenBlocks "" 0 (document.extract first stop)
  refine ⟨first, stop, _, itemAt, hchosen, hrange, hindex, ?_, hnested, ?_⟩
  · rw [hlist, flattenBlocks_tail]
    simp only [List.append_assoc, List.cons_append, List.nil_append]
  · intro j block hblock hnone
    rw [hextract] at hblock ⊢
    exact exists_isOwner_of_heading hblock hnone

/-- Depths are skipped on the way down and on the way back, and paragraphs and lists stand where the
list returns to a heading above. -/
theorem Document.headingToList_isNestedAs_skipping :
    let document : Document := [.heading ⟨1, [.text "A"], none⟩, .heading ⟨4, [.text "B"], none⟩,
      .paragraph (.ofText "b"), .heading ⟨2, [.text "C"], none⟩, .list (.numbered []),
      .heading ⟨5, [.text "D"], none⟩, .heading ⟨3, [.text "E"], none⟩, .other default none,
      .paragraph (.ofText "e"), .heading ⟨1, [.text "Z"], none⟩]
    document[0]? = some (.heading ⟨1, [.text "A"], none⟩) ∧
      ∃ first stop items itemAt, document.IsFirstSection false 0 first ∧
        document.IsSectionRange false 1 first stop ∧ 0 < stop ∧
        document.headingToList 0 false false =
          document.take first ++ [.list (.numbered items)] ++
            (document.extract first stop).filter (·.kind == .other) ++ document.drop stop ∧
        IsNestedAs (document.extract first stop) itemAt items ∧
        ∀ (j : Nat) (block : Block), (document.extract first stop)[j]? = some block →
          block.heading? = none → ∃ owner, IsOwner (document.extract first stop) owner j := by
  intro document
  have hheading : document[0]? = some (.heading ⟨1, [.text "A"], none⟩) := rfl
  exact ⟨hheading, headingToList_isNestedAs hheading false false⟩

end MarkdownOutline
