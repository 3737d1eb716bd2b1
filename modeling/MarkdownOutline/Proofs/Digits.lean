import MarkdownOutline.Outline.Numbering
import MarkdownOutline.Text.Ascii
import Mathlib.Data.List.Basic
import Mathlib.Data.String.Basic

/-!
# Written numbers

The digits of a number read back as the number, so a dotted number tells its parts.
-/

namespace MarkdownOutline

open Text

private theorem digitValue_digitChar (n : Nat) (h : n < 10) : digitValue n.digitChar = n := by
  have hall : ∀ k < 10, digitValue (Nat.digitChar k) = k := by decide
  exact hall n h

theorem decimalValue_toDigits (n : Nat) : decimalValue (Nat.toDigits 10 n) = n := by
  induction n using Nat.strongRecOn with
  | ind n ih =>
    by_cases hn : n < 10
    · rw [Nat.toDigits_of_lt_base hn]
      simp [decimalValue, numberValue, digitValue_digitChar n hn]
    · have hlow : n % 10 < 10 := Nat.mod_lt n (by decide)
      have hhigh := ih (n / 10) (by omega)
      rw [Nat.toDigits_of_base_le (by decide) (by omega)]
      simp only [decimalValue, numberValue, List.foldl_append, List.foldl_cons,
        List.foldl_nil] at hhigh ⊢
      rw [hhigh, digitValue_digitChar _ hlow]
      omega

theorem isDigit_of_mem_toDigits {n : Nat} {c : Char} (h : c ∈ Nat.toDigits 10 n) :
    c.isDigit = true := Nat.isDigit_of_mem_toDigits (by decide) (by decide) h

theorem utf8Len_of_ascii {s : List Char} (h : ∀ c ∈ s, c.toNat ≤ 127) :
    String.utf8Len s = s.length := by
  induction s with
  | nil => rfl
  | cons c s ih =>
    have hc : c.utf8Size = 1 := Char.utf8Size_eq_one_iff.mpr (h c List.mem_cons_self)
    rw [String.utf8Len_cons, ih fun d hd => h d (List.mem_cons_of_mem _ hd), hc, List.length_cons]

theorem utf8Len_of_isDigit {digits : List Char} (h : ∀ c ∈ digits, c.isDigit = true) :
    String.utf8Len digits = digits.length :=
  utf8Len_of_ascii fun c hc => (Char.isDigit_iff_toNat.mp (h c hc)).2.trans (by decide)

theorem takeWhile_append_of_head {α : Type} {p : α → Bool} {front back : List α}
    (hfront : ∀ a ∈ front, p a = true) (hback : back.head?.all (!p ·)) :
    (front ++ back).takeWhile p = front := by
  rw [List.takeWhile_append_of_pos hfront]
  cases back with
  | nil => simp
  | cons a back => simp_all

theorem dropWhile_append_of_head {α : Type} {p : α → Bool} {front back : List α}
    (hfront : ∀ a ∈ front, p a = true) (hback : back.head?.all (!p ·)) :
    (front ++ back).dropWhile p = back := by
  rw [List.dropWhile_append_of_pos hfront]
  cases back with
  | nil => rfl
  | cons a back => simp_all

theorem toDigits_takeWhile_isDigit (n : Nat) {rest : List Char} (h : rest.head?.all (!·.isDigit)) :
    (Nat.toDigits 10 n ++ rest).takeWhile Char.isDigit = Nat.toDigits 10 n :=
  takeWhile_append_of_head (fun _ hc => isDigit_of_mem_toDigits hc) h

theorem toDigits_dropWhile_isDigit (n : Nat) {rest : List Char} (h : rest.head?.all (!·.isDigit)) :
    (Nat.toDigits 10 n ++ rest).dropWhile Char.isDigit = rest :=
  dropWhile_append_of_head (fun _ hc => isDigit_of_mem_toDigits hc) h

theorem toDigits_append_inj {m n : Nat} {s t : List Char} (hs : s.head?.all (!·.isDigit))
    (ht : t.head?.all (!·.isDigit)) (h : Nat.toDigits 10 m ++ s = Nat.toDigits 10 n ++ t) :
    m = n ∧ s = t := by
  have htake := congrArg (List.takeWhile Char.isDigit) h
  have hdrop := congrArg (List.dropWhile Char.isDigit) h
  rw [toDigits_takeWhile_isDigit m hs, toDigits_takeWhile_isDigit n ht] at htake
  rw [toDigits_dropWhile_isDigit m hs, toDigits_dropWhile_isDigit n ht] at hdrop
  refine ⟨?_, hdrop⟩
  rw [← decimalValue_toDigits m, htake, decimalValue_toDigits n]

private theorem dottedParts_inj {a b : List Nat}
    (h : (a.flatMap fun n => Nat.toDigits 10 n ++ ['.']) =
      b.flatMap fun n => Nat.toDigits 10 n ++ ['.']) : a = b := by
  induction a generalizing b with
  | nil =>
    cases b with
    | nil => rfl
    | cons n b => simp at h
  | cons m a ih =>
    cases b with
    | nil => simp at h
    | cons n b =>
      simp only [List.flatMap_cons, List.append_assoc] at h
      obtain ⟨hmn, hrest⟩ := toDigits_append_inj (by simp) (by simp) h
      rw [hmn, ih (List.append_cancel_left hrest)]

theorem dotted_injective : Function.Injective dotted := by
  intro a b h
  unfold dotted at h
  by_cases ha : a.isEmpty <;> by_cases hb : b.isEmpty
  · rw [List.isEmpty_iff.mp ha, List.isEmpty_iff.mp hb]
  · simp [ha, hb] at h
  · simp [ha, hb] at h
  · simp only [ha, hb, Bool.false_eq_true, if_false, String.append_left_inj] at h
    exact dottedParts_inj (String.ofList_injective h)

end MarkdownOutline
