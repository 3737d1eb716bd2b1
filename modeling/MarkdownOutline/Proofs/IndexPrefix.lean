import MarkdownOutline.Outline.IndexPrefix
import MarkdownOutline.Proofs.Digits

/-!
# Taking numbers off titles

A number in front of a title is taken off group by group. White space in front of it is no part of
a group: it goes last, and a number behind it stays.
-/

namespace MarkdownOutline

open Text

theorem afterNumberGroup?_eq_some_iff {s rest : List Char} :
    afterNumberGroup? s = some rest ↔
      ∃ digits, digits ≠ [] ∧ (∀ c ∈ digits, isDecimalDigit c = true) ∧
        s = digits ++ '.' :: rest := by
  constructor
  · intro h
    unfold afterNumberGroup? at h
    split at h
    next c digits after hdigits hafter =>
      cases h
      refine ⟨c :: digits, List.cons_ne_nil c digits, fun d hd => ?_, ?_⟩
      · exact List.all_eq_true.mp List.all_takeWhile d (hdigits ▸ hd)
      · rw [← hdigits, ← hafter, List.takeWhile_append_dropWhile]
    · cases h
  · rintro ⟨digits, hne, hdigits, rfl⟩
    have hdot : isDecimalDigit '.' = false := by decide
    have hhead : ('.' :: rest).head?.all (!isDecimalDigit ·) := by simp [hdot]
    obtain ⟨c, digits, rfl⟩ := List.exists_cons_of_ne_nil hne
    rw [afterNumberGroup?, takeWhile_append_of_head hdigits hhead,
      dropWhile_append_of_head hdigits hhead]
    rfl

private theorem length_afterNumberGroup? {s rest : List Char} (h : afterNumberGroup? s = some rest) :
    rest.length < s.length := by
  obtain ⟨digits, -, -, rfl⟩ := afterNumberGroup?_eq_some_iff.mp h
  simp only [List.length_append, List.length_cons]
  omega

private theorem length_behindGroup {s rest : List Char} (h : afterNumberGroup? s = some rest) :
    (rest.dropWhile isBlank).length < s.length :=
  Nat.lt_of_le_of_lt (List.dropWhile_sublist isBlank).length_le (length_afterNumberGroup? h)

/-- Induction on the groups in front of a title, each with the white space behind it. -/
@[elab_as_elim]
theorem group_induction {motive : List Char → Prop}
    (group : ∀ s rest, afterNumberGroup? s = some rest →
      motive (rest.dropWhile isBlank) → motive s)
    (other : ∀ s, afterNumberGroup? s = none → motive s) (title : List Char) : motive title := by
  induction hn : title.length using Nat.strongRecOn generalizing title with
  | ind n ih =>
    cases hgroup : afterNumberGroup? title with
    | none => exact other title hgroup
    | some rest =>
      have hlt := length_behindGroup hgroup
      exact group title rest hgroup (ih _ (hn ▸ hlt) _ rfl)

private theorem dropGroups_of_no_group {s : List Char} (h : afterNumberGroup? s = none)
    (fuel : Nat) : dropGroups fuel s = s.dropWhile isBlank := by
  cases fuel with
  | zero => rfl
  | succ fuel => rw [dropGroups, h]

private theorem dropGroups_congr {fuel limit : Nat} {s : List Char} (hfuel : s.length ≤ fuel)
    (hlimit : s.length ≤ limit) : dropGroups fuel s = dropGroups limit s := by
  induction s using group_induction generalizing fuel limit with
  | group s rest hgroup ih =>
    have hlt := length_behindGroup hgroup
    obtain ⟨fuel, rfl⟩ : ∃ k, fuel = k + 1 := ⟨fuel - 1, by omega⟩
    obtain ⟨limit, rfl⟩ : ∃ k, limit = k + 1 := ⟨limit - 1, by omega⟩
    rw [dropGroups, dropGroups, hgroup]
    exact ih (by omega) (by omega)
  | other s hgroup => rw [dropGroups_of_no_group hgroup, dropGroups_of_no_group hgroup]

theorem dropIndexPrefix_of_group {s rest : List Char} (h : afterNumberGroup? s = some rest) :
    dropIndexPrefix s = dropIndexPrefix (rest.dropWhile isBlank) := by
  have hlt := length_behindGroup h
  obtain ⟨n, hn⟩ : ∃ n, s.length = n + 1 := ⟨s.length - 1, by omega⟩
  rw [dropIndexPrefix, hn, dropGroups, h]
  exact dropGroups_congr (by omega) (Nat.le_refl _)

theorem dropIndexPrefix_of_no_group {s : List Char} (h : afterNumberGroup? s = none) :
    dropIndexPrefix s = s.dropWhile isBlank := dropGroups_of_no_group h _

theorem dropIndexPrefix_suffix (title : List Char) : dropIndexPrefix title <:+ title := by
  induction title using group_induction with
  | group s rest hgroup ih =>
    obtain ⟨digits, -, -, hs⟩ := afterNumberGroup?_eq_some_iff.mp hgroup
    have hbehind : rest <:+ s := ⟨digits ++ ['.'], by simp [hs]⟩
    rw [dropIndexPrefix_of_group hgroup]
    exact (ih.trans (List.dropWhile_suffix _)).trans hbehind
  | other s hgroup =>
    rw [dropIndexPrefix_of_no_group hgroup]
    exact List.dropWhile_suffix _

theorem length_dropIndexPrefix_le (title : List Char) :
    (dropIndexPrefix title).length ≤ title.length := (dropIndexPrefix_suffix title).length_le

/-- White space stands in front of the number of the title. -/
def HidesNumber (title : List Char) : Prop :=
  afterNumberGroup? title = none ∧ (afterNumberGroup? (title.dropWhile isBlank)).isSome

instance (title : List Char) : Decidable (HidesNumber title) := inferInstanceAs (Decidable (_ ∧ _))

private theorem dropWhile_isBlank_idem (s : List Char) :
    (s.dropWhile isBlank).dropWhile isBlank = s.dropWhile isBlank := by
  induction s with
  | nil => rfl
  | cons c s ih =>
    rw [List.dropWhile_cons]
    split
    · exact ih
    next hc => rw [List.dropWhile_cons, if_neg hc]

theorem dropIndexPrefix_dropWhile (title : List Char) :
    (dropIndexPrefix title).dropWhile isBlank = dropIndexPrefix title := by
  induction title using group_induction with
  | group s rest hgroup ih =>
    rw [dropIndexPrefix_of_group hgroup]
    exact ih
  | other s hgroup => rw [dropIndexPrefix_of_no_group hgroup, dropWhile_isBlank_idem]

private theorem not_hidesNumber_dropWhile (s : List Char) : ¬ HidesNumber (s.dropWhile isBlank) := by
  rintro ⟨hnone, hsome⟩
  rw [dropWhile_isBlank_idem, hnone] at hsome
  cases hsome

/-- Taking the number off again finds another one exactly if white space hid it. -/
theorem dropIndexPrefix_idem_iff (title : List Char) :
    dropIndexPrefix (dropIndexPrefix title) = dropIndexPrefix title ↔ ¬ HidesNumber title := by
  induction title using group_induction with
  | group s rest hgroup ih =>
    rw [dropIndexPrefix_of_group hgroup, ih]
    have hshown : ¬ HidesNumber s := by simp [HidesNumber, hgroup]
    exact iff_of_true (not_hidesNumber_dropWhile rest) hshown
  | other s hgroup =>
    rw [dropIndexPrefix_of_no_group hgroup]
    unfold HidesNumber
    rw [hgroup]
    cases hhidden : afterNumberGroup? (s.dropWhile isBlank) with
    | none => simp [dropIndexPrefix_of_no_group hhidden, dropWhile_isBlank_idem]
    | some rest =>
      refine iff_of_false (fun hsame => ?_) (by simp)
      have hlt := length_behindGroup hhidden
      have hle := length_dropIndexPrefix_le (rest.dropWhile isBlank)
      rw [dropIndexPrefix_of_group hhidden] at hsame
      rw [← hsame] at hlt
      omega

private theorem isDecimalDigit_of_isDigit {c : Char} (h : c.isDigit = true) :
    isDecimalDigit c = true := by
  simp only [Char.isDigit, ge_iff_le, Bool.and_eq_true, decide_eq_true_eq] at h
  refine List.any_eq_true.mpr ⟨0x30, by decide, ?_⟩
  simp only [Bool.and_eq_true, decide_eq_true_eq]
  exact h

theorem afterNumberGroup?_toDigits (n : Nat) (rest : List Char) :
    afterNumberGroup? (Nat.toDigits 10 n ++ '.' :: rest) = some rest :=
  afterNumberGroup?_eq_some_iff.mpr ⟨_, Nat.toDigits_ne_nil,
    fun _ hc => isDecimalDigit_of_isDigit (isDigit_of_mem_toDigits hc), rfl⟩

theorem isBlank_of_isDecimalDigit {c : Char} (h : isDecimalDigit c = true) :
    isBlank c = false := by
  have hall : ∀ first ∈ decimalZeros, ∀ n < 10, isBlank (Char.ofNat (first + n)) = false := by
    decide +kernel
  obtain ⟨first, hfirst, hc⟩ := List.any_eq_true.mp h
  simp only [Bool.and_eq_true, decide_eq_true_eq] at hc
  have hblank := hall first hfirst (c.toNat - first) (by omega)
  rwa [Nat.add_sub_cancel' hc.1, Char.ofNat_toNat] at hblank

/-- A dotted number is taken off whole, and what is behind it is treated as a title of its own. -/
theorem dropIndexPrefix_dotted (number : List Nat) (title : List Char)
    (htitle : title.dropWhile isBlank = title) :
    dropIndexPrefix ((dotted number).toList ++ title) = dropIndexPrefix title := by
  cases number with
  | nil => rfl
  | cons n number =>
    have hlist : (dotted (n :: number)).toList ++ title =
        (n :: number).flatMap (fun n => Nat.toDigits 10 n ++ ['.']) ++ ' ' :: title := by
      simp [dotted]
    rw [hlist]
    clear hlist
    induction number generalizing n with
    | nil =>
      simp only [List.flatMap_cons, List.flatMap_nil, List.append_assoc, List.singleton_append]
      rw [dropIndexPrefix_of_group (afterNumberGroup?_toDigits n _)]
      exact congrArg dropIndexPrefix htitle
    | cons m number ih =>
      have hm := ih m
      rw [List.flatMap_cons, List.append_assoc, List.append_assoc, List.singleton_append,
        dropIndexPrefix_of_group (afterNumberGroup?_toDigits n _)]
      obtain ⟨c, digits, hc⟩ :=
        List.exists_cons_of_ne_nil (Nat.toDigits_ne_nil (n := m) (b := 10))
      have hdigit : c.isDigit = true := isDigit_of_mem_toDigits (n := m) (hc ▸ List.mem_cons_self)
      rw [List.flatMap_cons, hc] at hm ⊢
      have hblank := isBlank_of_isDecimalDigit (isDecimalDigit_of_isDigit hdigit)
      simp only [List.cons_append, List.dropWhile_cons, hblank, Bool.false_eq_true,
        if_false] at hm ⊢
      exact hm

end MarkdownOutline
