import MarkdownOutline.Proofs.Counters
import MarkdownOutline.Proofs.Digits
import Mathlib.Data.List.Forall2
import Mathlib.Data.List.Infix
import Mathlib.Data.List.Nodup
import Mathlib.Order.Defs.LinearOrder

/-!
# The numbers of headings

Formatting numbers the headings of a document from its highest level on. The numbers are the
paths of the counters without the levels that no heading stands at, and they form an outline:
they grow in document order, and each starts with the number of the section around it.
-/

namespace MarkdownOutline

/-- The headings of the document that stand outside lists. -/
def Document.topHeadings (document : Document) : List Heading := document.filterMap Block.heading?

def Document.headingDepths (document : Document) : List Nat :=
  document.filterMap Block.headingDepth?

def Heading.HasNumber (heading : Heading) (number : List Nat) : Prop :=
  ∃ title rest, heading.content = .text (dotted number ++ title) :: rest

/-- Of the headings with these depths, the one at `j` is the nearest shallower one before the one
at `i`. -/
def IsParent (depths : List Nat) (j i : Nat) : Prop :=
  j < i ∧ ∃ d e, depths[j]? = some d ∧ depths[i]? = some e ∧ d < e ∧
    ∀ k f, j < k → k < i → depths[k]? = some f → e ≤ f

/-- The numbers count the headings with these depths in an outline whose highest level is `top`. -/
structure IsNumbering (top : Nat) (depths : List Nat) (numbers : List (List Nat)) : Prop where
  lengths : List.Forall₂ (fun depth number => number.length = depth - top + 1) depths numbers
  written_nodup : (numbers.map dotted).Nodup
  increasing : numbers.Pairwise (List.Lex (· < ·))
  hierarchical : ∀ j i parent number, IsParent depths j i → numbers[j]? = some parent →
    numbers[i]? = some number → parent <+: number

def pathsFrom (path : List Nat) : List Nat → List (List Nat)
  | [] => []
  | depth :: depths =>
    nextPath (depth - 1) path :: pathsFrom (nextPath (depth - 1) path) depths

private theorem lex_trans {a b c : List Nat} (hab : List.Lex (· < ·) a b)
    (hbc : List.Lex (· < ·) b c) : List.Lex (· < ·) a c :=
  List.lt_trans (α := Nat) hab hbc

theorem pathsFrom_lex (path : List Nat) (depths : List Nat) :
    ∀ p ∈ pathsFrom path depths, List.Lex (· < ·) path p := by
  induction depths generalizing path with
  | nil => simp [pathsFrom]
  | cons depth depths ih =>
    intro p hp
    have hnext := nextPath_lex (depth - 1) path
    rcases List.mem_cons.mp hp with rfl | hp
    · exact hnext
    · exact lex_trans hnext (ih _ p hp)

theorem pathsFrom_pairwise (path : List Nat) (depths : List Nat) :
    (pathsFrom path depths).Pairwise (List.Lex (· < ·)) := by
  induction depths generalizing path with
  | nil => exact .nil
  | cons depth depths ih => exact .cons (pathsFrom_lex _ depths) (ih _)

theorem pathsFrom_lengths (path depths : List Nat) (hdepths : ∀ depth ∈ depths, 1 ≤ depth) :
    List.Forall₂ (fun depth p => p.length = depth) depths (pathsFrom path depths) := by
  induction depths generalizing path with
  | nil => exact .nil
  | cons depth depths ih =>
    refine .cons ?_ (ih _ fun d hd => hdepths d (List.mem_cons_of_mem _ hd))
    have h := hdepths depth List.mem_cons_self
    rw [nextPath_length]
    omega

theorem pathsFrom_take (path : List Nat) (count : Nat) (depths : List Nat) (i : Nat) (p : List Nat)
    (hpath : count ≤ path.length) (hp : (pathsFrom path depths)[i]? = some p)
    (hdeeper : ∀ k d, k ≤ i → depths[k]? = some d → count < d) :
    p.take count = path.take count := by
  induction depths generalizing path i with
  | nil => simp [pathsFrom] at hp
  | cons depth depths ih =>
    have hdepth : count < depth := hdeeper 0 depth (by omega) rfl
    have hnext : (nextPath (depth - 1) path).take count = path.take count :=
      nextPath_take count (depth - 1) path (by omega) hpath
    cases i with
    | zero =>
      simp only [pathsFrom, List.getElem?_cons_zero, Option.some.injEq] at hp
      rw [← hp, hnext]
    | succ i =>
      simp only [pathsFrom, List.getElem?_cons_succ] at hp
      rw [← hnext]
      refine ih _ i (by rw [nextPath_length]; omega) hp fun k d hk hd => ?_
      exact hdeeper (k + 1) d (by omega) (by simpa using hd)

/-- The path of a heading starts with the path of the section around it. -/
theorem pathsFrom_hierarchical (path depths : List Nat) (hdepths : ∀ depth ∈ depths, 1 ≤ depth)
    {j i : Nat} {p q : List Nat} (hparent : IsParent depths j i)
    (hp : (pathsFrom path depths)[j]? = some p) (hq : (pathsFrom path depths)[i]? = some q) :
    p <+: q := by
  induction depths generalizing path j i with
  | nil => simp [pathsFrom] at hp
  | cons depth depths ih =>
    obtain ⟨hji, d, e, hd, he, hde, hbetween⟩ := hparent
    obtain ⟨i, rfl⟩ : ∃ k, i = k + 1 := ⟨i - 1, by omega⟩
    simp only [List.getElem?_cons_succ] at he
    simp only [pathsFrom, List.getElem?_cons_succ] at hq
    have hrest : ∀ depth ∈ depths, 1 ≤ depth := fun d hd => hdepths d (List.mem_cons_of_mem _ hd)
    cases j with
    | zero =>
      simp only [List.getElem?_cons_zero, Option.some.injEq] at hd
      simp only [pathsFrom, List.getElem?_cons_zero, Option.some.injEq] at hp
      subst hd hp
      have hdepth := hdepths depth List.mem_cons_self
      have hlen : (nextPath (depth - 1) path).length = depth := by rw [nextPath_length]; omega
      have htake := pathsFrom_take _ depth depths i q (by omega) hq fun k f hk hf => by
        rcases Nat.lt_or_eq_of_le hk with hk | rfl
        · have := hbetween (k + 1) f (by omega) (by omega) (by simpa using hf)
          omega
        · have hef : e = f := Option.some.inj (he.symm.trans hf)
          omega
      rw [List.take_of_length_le (Nat.le_of_eq hlen)] at htake
      rw [← htake]
      exact List.take_prefix _ _
    | succ j =>
      simp only [List.getElem?_cons_succ] at hd
      simp only [pathsFrom, List.getElem?_cons_succ] at hp
      refine ih _ hrest ⟨by omega, d, e, hd, he, hde, fun k f hjk hki hf => ?_⟩ hp hq
      exact hbetween (k + 1) f (by omega) (by omega) (by simpa using hf)

theorem pathsFrom_take_ones (path : List Nat) (above : Nat) (depths : List Nat)
    (hpath : path = [] ∨ path.take above = List.replicate above 1)
    (hdepths : ∀ depth ∈ depths, above < depth) :
    ∀ p ∈ pathsFrom path depths, p.take above = List.replicate above 1 := by
  induction depths generalizing path with
  | nil => simp [pathsFrom]
  | cons depth depths ih =>
    have hdepth := hdepths depth List.mem_cons_self
    have hnext : (nextPath (depth - 1) path).take above = List.replicate above 1 := by
      rcases hpath with rfl | hpath
      · exact nextPath_nil_take above (depth - 1) (by omega)
      · have hlen := congrArg List.length hpath
        rw [List.length_take, List.length_replicate] at hlen
        rw [nextPath_take above (depth - 1) path (by omega) (by omega), hpath]
    intro p hp
    rcases List.mem_cons.mp hp with rfl | hp
    · exact hnext
    · exact ih _ (.inr hnext) (fun d hd => hdepths d (List.mem_cons_of_mem _ hd)) p hp

private theorem lex_drop {a b : List Nat} (count : Nat) (htake : a.take count = b.take count)
    (h : List.Lex (· < ·) a b) : List.Lex (· < ·) (a.drop count) (b.drop count) := by
  rw [← List.take_append_drop count a, ← List.take_append_drop count b, htake] at h
  generalize b.take count = start at h
  induction start with
  | nil => exact h
  | cons n start ih =>
    cases h with
    | cons h => exact ih h
    | rel h => exact absurd h (lt_irrefl n)

/-- The numbers of headings from a level on that is at most the highest. -/
def numbersFrom (top : Nat) (depths : List Nat) : List (List Nat) :=
  (pathsFrom [] depths).map (·.drop (top - 1))

theorem numbersFrom_pairwise {top : Nat} {depths : List Nat} (htop : 1 ≤ top)
    (hdepths : ∀ depth ∈ depths, top ≤ depth) :
    (numbersFrom top depths).Pairwise (List.Lex (· < ·)) := by
  have hones := pathsFrom_take_ones [] (top - 1) depths (.inl rfl) fun d hd => by
    have := hdepths d hd
    omega
  refine List.pairwise_map.mpr ((pathsFrom_pairwise [] depths).imp_of_mem ?_)
  intro p q hp hq hlex
  exact lex_drop (top - 1) ((hones p hp).trans (hones q hq).symm) hlex

theorem numbersFrom_isNumbering {top : Nat} {depths : List Nat} (htop : 1 ≤ top)
    (hdepths : ∀ depth ∈ depths, top ≤ depth) : IsNumbering top depths (numbersFrom top depths) where
  lengths := by
    have hlengths := pathsFrom_lengths [] depths fun d hd => htop.trans (hdepths d hd)
    refine List.forall₂_map_right_iff.mpr
      (((List.forall₂_and_left depths _).mpr ⟨hdepths, hlengths⟩).imp ?_)
    rintro depth p ⟨hle, hlength⟩
    rw [List.length_drop, hlength]
    omega
  written_nodup := by
    refine List.Nodup.map dotted_injective ((numbersFrom_pairwise htop hdepths).imp ?_)
    rintro a b hlex rfl
    exact List.lt_irrefl (α := Nat) a hlex
  increasing := numbersFrom_pairwise htop hdepths
  hierarchical := by
    intro j i parent number hparent hj hi
    simp only [numbersFrom, List.getElem?_map, Option.map_eq_some_iff] at hj hi
    obtain ⟨p, hp, rfl⟩ := hj
    obtain ⟨q, hq, rfl⟩ := hi
    have hprefix := pathsFrom_hierarchical [] depths (fun d hd => htop.trans (hdepths d hd))
      hparent hp hq
    exact List.IsPrefix.drop hprefix (top - 1)

private theorem foldl_depthRange (depths : List Nat) (range : DepthRange) :
    (depths.foldl (fun range? depth =>
      some (match range? with
        | none => (⟨depth, depth⟩ : DepthRange)
        | some range => ⟨min range.min depth, max range.max depth⟩)) (some range)).map (·.min) =
      some (depths.foldl min range.min) := by
  induction depths generalizing range with
  | nil => rfl
  | cons depth depths ih => exact ih ⟨min range.min depth, max range.max depth⟩

theorem Document.depthRange?_map_min (document : Document) :
    document.depthRange?.map (·.min) = document.headingDepths.min? := by
  unfold depthRange? headingDepths
  cases document.filterMap Block.headingDepth? with
  | nil => rfl
  | cons depth depths => exact foldl_depthRange depths ⟨depth, depth⟩

theorem Document.headingDepths_numberBlocks (numbering : HeadingNumbering) (lists : ListNumbering)
    (counters : HeadingCounters) (blocks : List Block) :
    headingDepths (numberBlocks numbering lists counters blocks) = headingDepths blocks := by
  fun_induction numberBlocks numbering lists counters blocks with
  | case1 => rfl
  | case2 counters h rest counters' h' hobserve ih =>
    have hdepth : h'.depth = h.depth := by
      have := numbering.observe_depth counters h
      rwa [hobserve] at this
    simp only [headingDepths, List.filterMap_cons] at ih ⊢
    rw [ih]
    simp only [Block.headingDepth?, Block.heading?, Option.map_some, hdepth]
  | case3 counters l rest ih => exact ih
  | case4 counters block rest _ _ ih =>
    simp only [headingDepths, List.filterMap_cons] at ih ⊢
    rw [ih]

theorem dotted_isEmpty (number : List Nat) : (dotted number).isEmpty = number.isEmpty := by
  unfold dotted
  by_cases h : number.isEmpty <;> simp [h]

/-- A number that is not empty ends up in front of the title, whatever the content starts with. -/
theorem HeadingNumbering.renumber_dotted (number : List Nat) (content : List Inline)
    (h : number ≠ []) :
    ∃ title rest, renumber (dotted number) content = .text (dotted number ++ title) :: rest := by
  have hne : (dotted number).isEmpty = false := by
    rw [dotted_isEmpty]
    simpa using h
  unfold renumber
  split
  · exact ⟨_, _, rfl⟩
  · exact ⟨"", content, by simp [hne]⟩

theorem HeadingNumbering.observe_hasNumber (numbering : HeadingNumbering)
    (counters : HeadingCounters) (h : Heading) {level top : Nat}
    (hnumbering : numbering.indexFrom = some (.depth level))
    (hfirst : numbering.firstLevel level = top) (htop : 1 ≤ top) (hcounters : counters.Settled)
    (hdepth : top ≤ h.depth ∧ h.depth ≤ maxHeadingDepth) :
    (numbering.observe counters h).2.HasNumber
      ((nextPath (h.depth - 1) counters.path).drop (top - 1)) := by
  have hlevel : min (max h.depth 1) maxHeadingDepth - 1 = h.depth - 1 := by omega
  have hnumber : (counters.advance h.depth).number top =
      (nextPath (h.depth - 1) counters.path).drop (top - 1) := by
    rw [HeadingCounters.number_eq_drop _ top htop, hcounters.advance_path, hlevel]
  have hne : (nextPath (h.depth - 1) counters.path).drop (top - 1) ≠ [] := by
    rw [← List.length_pos_iff, List.length_drop, nextPath_length]
    omega
  simp only [observe, hnumbering, indexPrefix, hfirst, hnumber]
  exact renumber_dotted _ h.content hne

theorem Document.numberBlocks_hasNumber (numbering : HeadingNumbering) (lists : ListNumbering)
    (counters : HeadingCounters) (blocks : List Block) {level top : Nat}
    (hnumbering : numbering.indexFrom = some (.depth level))
    (hfirst : numbering.firstLevel level = top) (htop : 1 ≤ top) (hcounters : counters.Settled)
    (hdepths : ∀ depth ∈ headingDepths blocks, top ≤ depth ∧ depth ≤ maxHeadingDepth) :
    List.Forall₂ Heading.HasNumber (topHeadings (numberBlocks numbering lists counters blocks))
      ((pathsFrom counters.path (headingDepths blocks)).map (·.drop (top - 1))) := by
  fun_induction numberBlocks numbering lists counters blocks with
  | case1 => exact .nil
  | case2 counters h rest counters' h' hobserve ih =>
    have hh : top ≤ h.depth ∧ h.depth ≤ maxHeadingDepth := hdepths h.depth List.mem_cons_self
    have hcounted : counters' = counters.advance h.depth := by
      have := congrArg Prod.fst hobserve
      simp only [HeadingNumbering.observe, hnumbering] at this
      exact this.symm
    have hpath : counters'.path = nextPath (h.depth - 1) counters.path := by
      rw [hcounted, hcounters.advance_path]
      congr 1
      omega
    refine .cons ?_ ?_
    · have := numbering.observe_hasNumber counters h hnumbering hfirst htop hcounters hh
      rwa [hobserve] at this
    · rw [← hpath]
      exact ih (hcounted ▸ hcounters.advance h.depth) fun d hd =>
        hdepths d (List.mem_cons_of_mem _ hd)
  | case3 counters l rest ih => exact ih hcounters hdepths
  | case4 counters block rest hheading hlist ih =>
    cases block with
    | heading h => exact absurd rfl (hheading h)
    | list l => exact absurd rfl (hlist l)
    | paragraph p => exact ih hcounters hdepths
    | other m span => exact ih hcounters hdepths

/-- Formatting from a level on that is at most the highest numbers all headings of the document:
the numbers have a part for each level from the highest one on, they are all different and grow in
document order, and each starts with that of the section around it. -/
theorem Document.formatIndex_isNumbering (document : Document) (options : FormatOptions)
    (level top : Nat)
    (hdepths : ∀ depth ∈ document.headingDepths, 1 ≤ depth ∧ depth ≤ maxHeadingDepth)
    (htop : document.headingDepths.min? = some top) (hlevel : level ≤ top)
    (hfrom : options.indexFrom = .depth level) :
    (document.formatIndex options).headingDepths = document.headingDepths ∧
      ∃ numbers, IsNumbering top document.headingDepths numbers ∧
        List.Forall₂ Heading.HasNumber (document.formatIndex options).topHeadings numbers := by
  obtain ⟨hmem, hleast⟩ := List.min?_eq_some_iff.mp htop
  have hone : 1 ≤ top := (hdepths top hmem).1
  have hfirst : max level top = top := Nat.max_eq_right hlevel
  refine ⟨headingDepths_numberBlocks _ _ _ _, numbersFrom top document.headingDepths,
    numbersFrom_isNumbering hone hleast, ?_⟩
  refine numberBlocks_hasNumber _ _ _ _ (congrArg some hfrom) ?_ hone
    HeadingCounters.settled_start fun d hd => ⟨hleast d hd, (hdepths d hd).2⟩
  simp only [HeadingNumbering.firstLevel, depthRange?_map_min, htop, Option.getD_some, hfirst]

/-- A document that skips levels on the way down and comes back to them. -/
theorem Document.formatIndex_isNumbering_skipping :
    let document : Document := [.heading ⟨2, [.text "a"], none⟩, .heading ⟨4, [.text "b"], none⟩,
      .heading ⟨3, [.softBreak], none⟩, .heading ⟨4, [.text "7. c"], none⟩]
    (document.formatIndex ⟨.depth 1, .disabled⟩).headingDepths = document.headingDepths ∧
      ∃ numbers, IsNumbering 2 document.headingDepths numbers ∧
        List.Forall₂ Heading.HasNumber
          (document.formatIndex ⟨.depth 1, .disabled⟩).topHeadings numbers :=
  formatIndex_isNumbering _ ⟨.depth 1, .disabled⟩ 1 2 (by decide) (by decide) (by decide) rfl

end MarkdownOutline
