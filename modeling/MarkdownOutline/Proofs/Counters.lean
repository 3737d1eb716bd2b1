import MarkdownOutline.Outline.Numbering
import Mathlib.Data.List.Basic
import Mathlib.Data.List.Lex

/-!
# The path of the heading counters

Among the counters only those down to the last heading matter: they are positive, and the ones
below are zero. They form a path through the sections, and one more heading cuts the path off or
extends it, and raises its last part.
-/

namespace MarkdownOutline

/-- The path after one more heading at a level, given as the number of levels above it. -/
def nextPath : Nat → List Nat → List Nat
  | 0, [] => [1]
  | 0, n :: _ => [n + 1]
  | above + 1, [] => 1 :: nextPath above []
  | above + 1, n :: path => n :: nextPath above path

@[simp] theorem nextPath_length (above : Nat) (path : List Nat) :
    (nextPath above path).length = above + 1 := by
  induction above generalizing path with
  | zero => cases path <;> rfl
  | succ above ih => cases path <;> simp [nextPath, ih]

theorem nextPath_pos (above : Nat) (path : List Nat) (h : ∀ n ∈ path, 0 < n) :
    ∀ n ∈ nextPath above path, 0 < n := by
  induction above generalizing path with
  | zero => cases path <;> simp [nextPath]
  | succ above ih =>
    cases path with
    | nil => simpa [nextPath] using ih [] (by simp)
    | cons m path =>
      simp only [List.mem_cons, forall_eq_or_imp] at h
      simpa [nextPath, h.1] using ih path h.2

/-- The path grows in the order that compares part by part, where a longer path follows the path
it starts with. -/
theorem nextPath_lex (above : Nat) (path : List Nat) :
    List.Lex (· < ·) path (nextPath above path) := by
  induction above generalizing path with
  | zero =>
    cases path with
    | nil => exact .nil
    | cons n path => exact .rel n.lt_succ_self
  | succ above ih =>
    cases path with
    | nil => exact .nil
    | cons n path => exact .cons (ih path)

theorem nextPath_take (count above : Nat) (path : List Nat) (ha : count ≤ above)
    (hp : count ≤ path.length) : (nextPath above path).take count = path.take count := by
  induction count generalizing above path with
  | zero => rfl
  | succ count ih =>
    obtain ⟨above, rfl⟩ := Nat.exists_eq_succ_of_ne_zero (Nat.ne_of_gt (Nat.zero_lt_of_lt ha))
    cases path with
    | nil => simp at hp
    | cons n path =>
      simp only [nextPath, List.take_succ_cons, List.cons.injEq, true_and]
      exact ih above path (by omega) (by simpa using hp)

theorem nextPath_nil_take (count above : Nat) (ha : count ≤ above) :
    (nextPath above []).take count = List.replicate count 1 := by
  induction count generalizing above with
  | zero => rfl
  | succ count ih =>
    obtain ⟨above, rfl⟩ := Nat.exists_eq_succ_of_ne_zero (Nat.ne_of_gt (Nat.zero_lt_of_lt ha))
    simp only [nextPath, List.take_succ_cons, List.replicate_succ]
    rw [ih above (by omega)]

namespace HeadingCounters

def path (counters : HeadingCounters) : List Nat := counters.levels.take counters.depth

/-- The levels down to the last heading have been counted, and those below have not. -/
structure Settled (counters : HeadingCounters) : Prop where
  depth_le : counters.depth ≤ maxHeadingDepth
  levels_length : counters.levels.length = maxHeadingDepth
  levels_eq : counters.levels =
    counters.path ++ List.replicate (maxHeadingDepth - counters.depth) 0
  pos : ∀ n ∈ counters.path, 0 < n

theorem Settled.path_length {counters : HeadingCounters} (h : counters.Settled) :
    counters.path.length = counters.depth := by
  rw [path, List.length_take, h.levels_length]
  exact Nat.min_eq_left h.depth_le

theorem settled_start : Settled {} := ⟨by decide, rfl, rfl, by simp [path]⟩

private theorem count_path (above spare : Nat) (path : List Nat) (hpos : ∀ n ∈ path, 0 < n)
    (ha : above < path.length + spare) :
    count above (path ++ List.replicate spare 0) =
      nextPath above path ++ List.replicate (path.length + spare - (above + 1)) 0 := by
  induction above generalizing path spare with
  | zero =>
    cases path with
    | nil =>
      obtain ⟨spare, rfl⟩ := Nat.exists_eq_succ_of_ne_zero (by simpa using Nat.ne_of_gt ha)
      simp [count, nextPath, List.replicate_succ]
    | cons n path => simp [count, nextPath, List.map_const']
  | succ above ih =>
    cases path with
    | nil =>
      obtain ⟨spare, rfl⟩ : ∃ k, spare = k + 1 := ⟨spare - 1, by simp at ha; omega⟩
      have hrest := ih spare [] (by simp) (by simpa using ha)
      simp only [List.nil_append, List.length_nil, Nat.zero_add] at hrest
      simp [List.replicate_succ, count, nextPath, hrest]
    | cons n path =>
      have hn : 0 < n := hpos n (by simp)
      have hrest := ih spare path (fun k hk => hpos k (by simp [hk]))
        (by simp only [List.length_cons] at ha; omega)
      have hmax : max n 1 = n := by omega
      have hlen : path.length + 1 + spare - (above + 1 + 1) = path.length + spare - (above + 1) := by
        omega
      simp only [List.cons_append, count, nextPath, hrest, hmax, List.length_cons, hlen]

theorem Settled.advance_levels {counters : HeadingCounters} (h : counters.Settled) (depth : Nat) :
    (counters.advance depth).levels =
      nextPath (min (max depth 1) maxHeadingDepth - 1) counters.path ++
        List.replicate (maxHeadingDepth - min (max depth 1) maxHeadingDepth) 0 := by
  have hle := h.depth_le
  have hlen := h.path_length
  have hm : maxHeadingDepth = 6 := rfl
  simp only [advance]
  conv_lhs => rw [h.levels_eq]
  rw [count_path _ _ _ h.pos (by omega)]
  congr 2
  omega

theorem Settled.advance_path {counters : HeadingCounters} (h : counters.Settled) (depth : Nat) :
    (counters.advance depth).path =
      nextPath (min (max depth 1) maxHeadingDepth - 1) counters.path := by
  have hd : (counters.advance depth).depth = min (max depth 1) maxHeadingDepth := rfl
  have hm : maxHeadingDepth = 6 := rfl
  rw [path, h.advance_levels depth, hd]
  exact List.take_left' (by rw [nextPath_length]; omega)

theorem Settled.advance {counters : HeadingCounters} (h : counters.Settled) (depth : Nat) :
    (counters.advance depth).Settled where
  depth_le := Nat.min_le_right _ _
  levels_length := by
    have hm : maxHeadingDepth = 6 := rfl
    rw [h.advance_levels depth, List.length_append, nextPath_length, List.length_replicate]
    omega
  levels_eq := by rw [h.advance_path depth, h.advance_levels depth]; rfl
  pos := by
    rw [h.advance_path depth]
    exact nextPath_pos _ _ h.pos

theorem number_eq_drop (counters : HeadingCounters) (first : Nat) (hfirst : 1 ≤ first) :
    counters.number first = counters.path.drop (first - 1) := by
  obtain ⟨above, rfl⟩ := Nat.exists_eq_add_of_le' hfirst
  simp only [number, slots, path, List.drop_succ_cons, Nat.add_sub_cancel, List.drop_take]
  congr 1
  omega

end HeadingCounters

theorem HeadingNumbering.observe_counters (numbering : HeadingNumbering)
    (counters : HeadingCounters) (heading : Heading) :
    (numbering.observe counters heading).1 = counters.advance heading.depth := by
  unfold observe
  dsimp only
  split <;> rfl

theorem HeadingNumbering.observe_depth (numbering : HeadingNumbering) (counters : HeadingCounters)
    (heading : Heading) : (numbering.observe counters heading).2.depth = heading.depth := by
  unfold observe
  dsimp only
  split <;> rfl

theorem HeadingNumbering.observe_span (numbering : HeadingNumbering) (counters : HeadingCounters)
    (heading : Heading) : (numbering.observe counters heading).2.span = heading.span := by
  unfold observe
  dsimp only
  split <;> rfl

end MarkdownOutline
