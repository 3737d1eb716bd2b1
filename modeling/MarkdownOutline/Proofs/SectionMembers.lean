import MarkdownOutline.Outline.Flatten

/-!
# Members of sections

Whether a block stands below a heading is told by the two of them: it is no heading, or a deeper
one. The section of a heading goes on as long as all blocks stand below it, and the owner of a block
is the nearest heading before it that it stands below.
-/

namespace MarkdownOutline

theorem Block.isBelow_mono {low high : Nat} {block : Block} (hle : low ≤ high)
    (h : block.isBelow high = true) : block.isBelow low = true := by
  cases block with
  | heading g =>
    rw [isBelow_heading, decide_eq_true_eq] at h ⊢
    exact Nat.lt_of_le_of_lt hle h
  | _ => rfl

namespace Document

/-- A heading stands at one index, and at the other a block that is no heading or a deeper one. -/
def StandsBelow (document : Document) (above index : Nat) : Prop :=
  ∃ h block, document[above]? = some (.heading h) ∧ document[index]? = some block ∧
    block.isBelow h.depth = true

/-- The block at an index belongs to the section of a heading before it: from the heading on, all
blocks up to it stand below the heading. -/
def InSection (document : Document) (above index : Nat) : Prop :=
  above < index ∧ ∀ k, above < k → k ≤ index → document.StandsBelow above k

/-- Of the headings that the block at an index stands below, the owner is the nearest one before
it. -/
structure IsOwner (document : Document) (owner index : Nat) : Prop where
  before : owner < index
  below : document.StandsBelow owner index
  nearest : ∀ k, owner < k → k < index → ¬ document.StandsBelow k index

instance (document : Document) (above index : Nat) : Decidable (document.StandsBelow above index) :=
  decidable_of_iff ((document[above]?.bind Block.headingDepth?).any fun depth =>
      document[index]?.any (Block.isBelow depth)) <| by
    simp only [Option.any_eq_true, Option.bind_eq_some_iff, Block.headingDepth?_eq_some_iff]
    constructor
    · rintro ⟨_, ⟨_, habove, h, rfl, rfl⟩, block, hblock, hbelow⟩
      exact ⟨h, block, habove, hblock, hbelow⟩
    · rintro ⟨h, block, habove, hblock, hbelow⟩
      exact ⟨_, ⟨_, habove, h, rfl, rfl⟩, block, hblock, hbelow⟩

instance (document : Document) (above index : Nat) : Decidable (document.InSection above index) :=
  decidable_of_iff (above < index ∧ ∀ k < index + 1, above < k → document.StandsBelow above k) <|
    and_congr_right fun _ => forall_congr' fun _ =>
      ⟨fun h hlow hhigh => h (Nat.lt_succ_of_le hhigh) hlow,
        fun h hhigh hlow => h hlow (Nat.le_of_lt_succ hhigh)⟩

theorem exists_isOwner {document : Document} {above index : Nat} (hlt : above < index)
    (h : document.StandsBelow above index) : ∃ owner, document.IsOwner owner index := by
  by_cases hnearer : ∃ k, above < k ∧ k < index ∧ document.StandsBelow k index
  · obtain ⟨k, hlow, hhigh, hk⟩ := hnearer
    exact exists_isOwner hhigh hk
  · exact ⟨above, hlt, h, fun k hlow hhigh hk => hnearer ⟨k, hlow, hhigh, hk⟩⟩
termination_by index - above

section

variable {document : Document} {index : Nat} {block : Block}

theorem length_take_of_getElem? (h : document[index]? = some block) :
    (document.take index).length = index := by
  rw [List.length_take]
  exact Nat.min_eq_left (Nat.le_of_lt (List.getElem?_eq_some_iff.mp h).1)

theorem take_append_cons_drop (h : document[index]? = some block) :
    document.take index ++ block :: document.drop (index + 1) = document := by
  have hdrop : document.drop index = block :: document.drop (index + 1) := by
    rw [List.drop_eq_getElem?_toList_append, h]
    rfl
  rw [← hdrop, List.take_append_drop]

end

variable {front back : List Block} {above index : Nat}

theorem standsBelow_append_left (habove : above < front.length) (hindex : index < front.length) :
    StandsBelow (front ++ back) above index ↔ StandsBelow front above index := by
  unfold StandsBelow
  rw [List.getElem?_append_left habove, List.getElem?_append_left hindex]

theorem standsBelow_append_right (front : List Block) :
    StandsBelow (front ++ back) (front.length + above) (front.length + index) ↔
      StandsBelow back above index := by
  unfold StandsBelow
  rw [List.getElem?_append_right (Nat.le_add_right ..),
    List.getElem?_append_right (Nat.le_add_right ..), Nat.add_sub_cancel_left,
    Nat.add_sub_cancel_left]

theorem isOwner_append_left (hindex : index < front.length) :
    IsOwner (front ++ back) above index ↔ IsOwner front above index := by
  constructor
  · rintro ⟨hbefore, hbelow, hnearest⟩
    refine ⟨hbefore, (standsBelow_append_left (by omega) hindex).mp hbelow, ?_⟩
    intro k hlow hhigh hk
    exact hnearest k hlow hhigh ((standsBelow_append_left (by omega) hindex).mpr hk)
  · rintro ⟨hbefore, hbelow, hnearest⟩
    refine ⟨hbefore, (standsBelow_append_left (by omega) hindex).mpr hbelow, ?_⟩
    intro k hlow hhigh hk
    exact hnearest k hlow hhigh ((standsBelow_append_left (by omega) hindex).mp hk)

theorem isOwner_append_right (front : List Block) :
    IsOwner (front ++ back) (front.length + above) (front.length + index) ↔
      IsOwner back above index := by
  constructor
  · rintro ⟨hbefore, hbelow, hnearest⟩
    refine ⟨by omega, (standsBelow_append_right front).mp hbelow, ?_⟩
    intro k hlow hhigh hk
    exact hnearest (front.length + k) (by omega) (by omega) ((standsBelow_append_right front).mpr hk)
  · rintro ⟨hbefore, hbelow, hnearest⟩
    refine ⟨by omega, (standsBelow_append_right front).mpr hbelow, ?_⟩
    intro k hlow hhigh hk
    obtain ⟨k, rfl⟩ := Nat.exists_eq_add_of_le (show front.length ≤ k by omega)
    exact hnearest k (by omega) (by omega) ((standsBelow_append_right front).mp hk)

end Document

end MarkdownOutline
