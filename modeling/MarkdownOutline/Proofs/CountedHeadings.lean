import MarkdownOutline.Proofs.Counters
import Mathlib.Data.List.DropRight

/-!
# What the heading counters count

The counter of a level depends only on the headings after the last one above the level. If there are
none it is zero, and otherwise it counts those that stand at the level, and once more the first of
them if that is deeper, since it opens the level without a heading of its own.
-/

namespace MarkdownOutline

/-- The depth that a heading counts at: its own, or the nearest one that can be written. -/
def countedDepth (depth : Nat) : Nat := min (max depth 1) maxHeadingDepth

/-- The counters after headings of these depths, counted one by one. -/
def HeadingCounters.after (depths : List Nat) : HeadingCounters := depths.foldl advance {}

/-- The headings after the last one above the level. -/
def sinceAbove (level : Nat) (depths : List Nat) : List Nat :=
  depths.rtakeWhile (level ≤ countedDepth ·)

/-- What headings of which none is above the level count for it. -/
def levelCount (level : Nat) : List Nat → Nat
  | [] => 0
  | first :: rest => (first :: rest).countP (countedDepth · = level) +
      if level < countedDepth first then 1 else 0

theorem levelCount_pos {level : Nat} {depths : List Nat} (hne : depths ≠ [])
    (habove : ∀ depth ∈ depths, level ≤ countedDepth depth) : 0 < levelCount level depths := by
  obtain ⟨first, rest, rfl⟩ := List.exists_cons_of_ne_nil hne
  rcases Nat.lt_or_eq_of_le (habove first List.mem_cons_self) with hdeeper | hlevel
  · rw [levelCount, if_pos hdeeper]
    exact Nat.succ_pos _
  · rw [levelCount, List.countP_cons_of_pos (by simpa using hlevel.symm)]
    omega

theorem levelCount_concat {level depth : Nat} {depths : List Nat}
    (habove : ∀ d ∈ depths, level ≤ countedDepth d) (hdepth : level ≤ countedDepth depth) :
    levelCount level (depths ++ [depth]) =
      if level < countedDepth depth then max (levelCount level depths) 1
      else levelCount level depths + 1 := by
  cases depths with
  | nil =>
    rcases Nat.lt_or_eq_of_le hdepth with hdeeper | rfl
    · have hne : countedDepth depth ≠ level := Nat.ne_of_gt hdeeper
      simp [levelCount, hdeeper, hne]
    · simp [levelCount]
  | cons first rest =>
    have hpos := levelCount_pos (List.cons_ne_nil first rest) habove
    have hcount : levelCount level (first :: rest ++ [depth]) =
        levelCount level (first :: rest) + [depth].countP (countedDepth · = level) := by
      rw [List.cons_append, levelCount, levelCount, ← List.cons_append, List.countP_append]
      omega
    rw [hcount]
    rcases Nat.lt_or_eq_of_le hdepth with hdeeper | rfl
    · have hne : countedDepth depth ≠ level := Nat.ne_of_gt hdeeper
      rw [if_pos hdeeper, List.countP_singleton, if_neg (by simpa using hne)]
      omega
    · simp

theorem levelCount_le (level : Nat) (depths : List Nat) :
    levelCount level depths ≤ depths.length := by
  cases depths with
  | nil => exact Nat.le_refl _
  | cons first rest =>
    have hrest := List.countP_le_length (p := (countedDepth · = level)) (l := rest)
    rw [levelCount, List.countP_cons, List.length_cons]
    by_cases hdeeper : level < countedDepth first
    · have hne : countedDepth first ≠ level := Nat.ne_of_gt hdeeper
      simp [hdeeper, hne, hrest]
    · simp only [hdeeper, if_false]
      split <;> omega

/-- One more heading above a level leaves nothing counted there, and any other heading opens or
continues the level. -/
theorem levelCount_sinceAbove_concat (level : Nat) (depths : List Nat) (depth : Nat) :
    levelCount level (sinceAbove level (depths ++ [depth])) =
      if level < countedDepth depth then max (levelCount level (sinceAbove level depths)) 1
      else if level = countedDepth depth then levelCount level (sinceAbove level depths) + 1
      else 0 := by
  by_cases hdepth : level ≤ countedDepth depth
  · have habove : ∀ d ∈ sinceAbove level depths, level ≤ countedDepth d := fun d hd => by
      simpa using List.mem_rtakeWhile_imp hd
    have hconcat : sinceAbove level (depths ++ [depth]) = sinceAbove level depths ++ [depth] :=
      List.rtakeWhile_concat_pos _ _ _ (by simpa using hdepth)
    rw [hconcat, levelCount_concat habove hdepth]
    split
    · rfl
    · rw [if_pos (by omega)]
  · have hconcat : sinceAbove level (depths ++ [depth]) = [] :=
      List.rtakeWhile_concat_neg _ _ _ (by simpa using hdepth)
    rw [hconcat, if_neg (by omega), if_neg (by omega), levelCount]

namespace HeadingCounters

theorem count_getElem? (above : Nat) (levels : List Nat) (index : Nat) :
    (count above levels)[index]? = levels[index]?.map fun n =>
      if index < above then max n 1 else if index = above then n + 1 else 0 := by
  induction levels generalizing above index with
  | nil => simp [count]
  | cons n levels ih =>
    cases above with
    | zero => cases index <;> simp [count, -List.map_const']
    | succ above => cases index <;> simp [count, ih]

/-- The counter of a level after one more heading: a deeper heading sees to it that the level is
opened, one at the level is counted, and one above the level starts it again. -/
theorem advance_slots_getElem? (counters : HeadingCounters) (depth : Nat) {level : Nat}
    (hlevel : 1 ≤ level) :
    (counters.advance depth).slots[level]? = counters.slots[level]?.map fun n =>
      if level < countedDepth depth then max n 1
      else if level = countedDepth depth then n + 1 else 0 := by
  obtain ⟨index, rfl⟩ := Nat.exists_eq_add_of_le' hlevel
  obtain ⟨above, habove⟩ : ∃ n, countedDepth depth = n + 1 := by
    refine ⟨countedDepth depth - 1, ?_⟩
    unfold countedDepth maxHeadingDepth
    omega
  have hslots : (counters.advance depth).slots[index + 1]? =
      (count (countedDepth depth - 1) counters.levels)[index]? := rfl
  rw [hslots, habove, Nat.add_sub_cancel, count_getElem?, slots, List.getElem?_cons_succ]
  simp only [Nat.add_lt_add_iff_right, Nat.add_right_cancel_iff]

theorem after_concat (depths : List Nat) (depth : Nat) :
    after (depths ++ [depth]) = (after depths).advance depth := List.foldl_concat ..

theorem slots_after_getElem? (depths : List Nat) {level : Nat} (hlevel : 1 ≤ level)
    (hmax : level ≤ maxHeadingDepth) :
    (after depths).slots[level]? = some (levelCount level (sinceAbove level depths)) := by
  induction depths using List.reverseRecOn with
  | nil =>
    obtain ⟨index, rfl⟩ := Nat.exists_eq_add_of_le' hlevel
    exact List.getElem?_replicate_of_lt hmax
  | append_singleton depths depth ih =>
    rw [after_concat, advance_slots_getElem? _ _ hlevel, ih, Option.map_some,
      levelCount_sinceAbove_concat]

theorem settled_after (depths : List Nat) : (after depths).Settled := by
  induction depths using List.reverseRecOn with
  | nil => exact settled_start
  | append_singleton depths depth ih => exact after_concat depths depth ▸ ih.advance depth

theorem depth_after (depths : List Nat) :
    (after depths).depth = (depths.getLast?.map countedDepth).getD 0 := by
  cases depths using List.reverseRecOn with
  | nil => rfl
  | append_singleton depths depth =>
    rw [after_concat, List.getLast?_concat]
    rfl

theorem le_length_of_mem_slots_after {depths : List Nat} {n : Nat} (h : n ∈ (after depths).slots) :
    n ≤ depths.length := by
  obtain ⟨level, hslot⟩ := List.mem_iff_getElem?.mp h
  obtain ⟨hlevel, -⟩ := List.getElem?_eq_some_iff.mp hslot
  rw [slots, List.length_cons, (settled_after depths).levels_length] at hlevel
  cases level with
  | zero =>
    obtain rfl : 0 = n := Option.some.inj hslot
    exact Nat.zero_le _
  | succ index =>
    rw [slots_after_getElem? depths (Nat.le_add_left ..) (Nat.le_of_lt_succ hlevel)] at hslot
    obtain rfl := Option.some.inj hslot
    calc levelCount (index + 1) (sinceAbove (index + 1) depths)
        ≤ (sinceAbove (index + 1) depths).length := levelCount_le _ _
      _ ≤ depths.length := (List.rtakeWhile_suffix _ _).length_le

theorem Settled.slot_pos_iff {counters : HeadingCounters} (h : counters.Settled) {level n : Nat}
    (hslot : counters.slots[level]? = some n) : 0 < n ↔ 1 ≤ level ∧ level ≤ counters.depth := by
  cases level with
  | zero =>
    obtain rfl : 0 = n := Option.some.inj hslot
    simp
  | succ index =>
    rw [slots, List.getElem?_cons_succ, h.levels_eq] at hslot
    rcases Nat.lt_or_ge index counters.depth with hindex | hindex
    · rw [List.getElem?_append_left (h.path_length ▸ hindex)] at hslot
      have hn := h.pos n (List.mem_of_getElem? hslot)
      omega
    · rw [List.getElem?_append_right (h.path_length ▸ hindex)] at hslot
      have hn : n = 0 := List.eq_of_mem_replicate (List.mem_of_getElem? hslot)
      omega

/-- After any headings, given by their depths, the counter of a level is what the headings after the
last one above the level count for it: nothing if there are none, and otherwise those at the level,
and one more if the first of them is deeper. The counters of depth 0 and of the levels below the
last heading are 0, those of the levels down to it are not, and none exceeds the number of
headings. -/
theorem slots_after (depths : List Nat) :
    (after depths).slots.length = maxHeadingDepth + 1 ∧ (after depths).slots[0]? = some 0 ∧
      (∀ level, 1 ≤ level → level ≤ maxHeadingDepth →
        (after depths).slots[level]? = some (levelCount level (sinceAbove level depths))) ∧
      (after depths).depth = (depths.getLast?.map countedDepth).getD 0 ∧
      (∀ level n, (after depths).slots[level]? = some n →
        (0 < n ↔ 1 ≤ level ∧ level ≤ (after depths).depth)) ∧
      ∀ n ∈ (after depths).slots, n ≤ depths.length := by
  have hsettled := settled_after depths
  have hlength : (after depths).slots.length = maxHeadingDepth + 1 := by
    rw [slots, List.length_cons, hsettled.levels_length]
  exact ⟨hlength, rfl, fun level => slots_after_getElem? depths, depth_after depths,
    fun level n => hsettled.slot_pos_iff, fun n => le_length_of_mem_slots_after⟩

/-- The second level is opened by a heading of depth 3, counted twice and opened again after a
heading of depth 1. -/
example : (after [3, 2, 2, 0, 4]).slots = [0, 2, 1, 1, 1, 0, 0] := by decide

end HeadingCounters

end MarkdownOutline
