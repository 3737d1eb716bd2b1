import MarkdownOutline.Outline.Flatten
import MarkdownOutline.Proofs.HeadingNumbers

/-!
# Nested headings

A heading stands under the nearest heading above it that is less deep, that one under the next, and
so on. How many there are is its level of nesting, which no heading's depth falls short of. The two
grow together from the first heading of a section on if no depth is skipped.
-/

namespace MarkdownOutline

/-- The depths of the headings that a heading stands under, the innermost first. The headings before
it are given by their depths, the nearest first. -/
def ancestors (depth : Nat) : List Nat → List Nat
  | [] => []
  | d :: earlier => if d < depth then d :: ancestors d earlier else ancestors depth earlier

/-- The level of the last of some headings, which are given by their depths, the last first. -/
def nestingLevel : List Nat → Nat
  | [] => 0
  | depth :: earlier => (ancestors depth earlier).length

/-- The headings among the blocks with their levels. The headings before them are given by their
depths, the nearest first. -/
def nestedHeadings (earlier : List Nat) : List Block → List (Heading × Nat)
  | [] => []
  | .heading h :: rest =>
    (h, nestingLevel (h.depth :: earlier)) :: nestedHeadings (h.depth :: earlier) rest
  | _ :: rest => nestedHeadings earlier rest

/-- The levels of the headings that own the paragraphs and lists among the blocks: the nearest
headings above them. -/
def ownerLevels (earlier : List Nat) : List Block → List Nat
  | [] => []
  | .heading h :: rest => ownerLevels (h.depth :: earlier) rest
  | .paragraph _ :: rest | .list _ :: rest => nestingLevel earlier :: ownerLevels earlier rest
  | .other .. :: rest => ownerLevels earlier rest

def Document.nestingHeight (document : Document) : Nat :=
  ((nestedHeadings [] document).map (·.2 + 1)).foldr max 0

/-- No heading is more than one deeper than the heading before it. -/
def Document.SkipsNoDepth (document : Document) : Prop :=
  document.headingDepths.IsChain fun above depth => depth ≤ above + 1

theorem nestedHeadings_fst (earlier : List Nat) (blocks : Document) :
    (nestedHeadings earlier blocks).map Prod.fst = blocks.topHeadings := by
  fun_induction nestedHeadings earlier blocks with
  | case1 => rfl
  | case2 earlier h rest ih =>
    rw [List.map_cons, ih]
    rfl
  | case3 earlier block rest hblock ih =>
    rw [ih]
    cases block with
    | heading h => exact absurd rfl (hblock h)
    | _ => rfl

theorem lt_nestingHeight {blocks : Document} {found : Heading × Nat}
    (h : found ∈ nestedHeadings [] blocks) : found.2 < blocks.nestingHeight := by
  have hmax (levels : List Nat) : ∀ level ∈ levels, level ≤ levels.foldr max 0 := by
    induction levels with
    | nil => simp
    | cons first levels ih =>
      intro level hlevel
      rw [List.foldr_cons]
      rcases List.mem_cons.mp hlevel with rfl | hlevel
      · exact Nat.le_max_left _ _
      · exact (ih level hlevel).trans (Nat.le_max_right _ _)
  exact hmax _ _ (List.mem_map.mpr ⟨found, h, rfl⟩)

theorem nestingHeight_le {blocks : Document} {bound : Nat}
    (h : ∀ found ∈ nestedHeadings [] blocks, found.2 < bound) : blocks.nestingHeight ≤ bound := by
  unfold Document.nestingHeight
  generalize nestedHeadings [] blocks = headings at h ⊢
  induction headings with
  | nil => exact Nat.zero_le _
  | cons found others ih =>
    obtain ⟨hfound, hothers⟩ := List.forall_mem_cons.mp h
    exact Nat.max_le.mpr ⟨hfound, ih hothers⟩

theorem mem_ownerLevels {earlier : List Nat} {blocks : List Block} {level : Nat}
    (h : level ∈ ownerLevels earlier blocks) :
    level = nestingLevel earlier ∨ ∃ found ∈ nestedHeadings earlier blocks, found.2 = level := by
  fun_induction ownerLevels earlier blocks with
  | case1 => simp at h
  | case2 earlier g rest ih =>
    refine .inr ?_
    rcases ih h with rfl | ⟨found, hfound, rfl⟩
    · exact ⟨_, List.mem_cons_self, rfl⟩
    · exact ⟨found, List.mem_cons_of_mem _ hfound, rfl⟩
  | case3 earlier p rest ih => exact (List.mem_cons.mp h).elim .inl ih
  | case4 earlier l rest ih => exact (List.mem_cons.mp h).elim .inl ih
  | case5 earlier m span rest ih => exact ih h

theorem ancestors_append {depth : Nat} {between : List Nat} (h : ∀ d ∈ between, depth ≤ d)
    (earlier : List Nat) : ancestors depth (between ++ earlier) = ancestors depth earlier := by
  induction between with
  | nil => rfl
  | cons d between ih =>
    have hd : ¬ d < depth := Nat.not_lt.mpr (h d (by simp))
    rw [List.cons_append, ancestors, if_neg hd]
    exact ih fun d' hd' => h d' (by simp [hd'])

private theorem nestedHeadings_append (earlier : List Nat) (first second : Document) :
    nestedHeadings earlier (first ++ second) =
      nestedHeadings earlier first ++
        nestedHeadings (first.headingDepths.reverse ++ earlier) second := by
  fun_induction nestedHeadings earlier first with
  | case1 => rfl
  | case2 earlier h rest ih =>
    have hdepths : Document.headingDepths (.heading h :: rest) =
        h.depth :: Document.headingDepths rest := rfl
    simp only [List.cons_append, nestedHeadings, ih, hdepths, List.reverse_cons,
      List.append_assoc, List.nil_append]
  | case3 earlier block rest hblock ih =>
    cases block with
    | heading h => exact absurd rfl (hblock h)
    | _ => exact ih

private theorem ownerLevels_append (earlier : List Nat) (first second : Document) :
    ownerLevels earlier (first ++ second) =
      ownerLevels earlier first ++
        ownerLevels (first.headingDepths.reverse ++ earlier) second := by
  fun_induction ownerLevels earlier first with
  | case1 => rfl
  | case2 earlier h rest ih =>
    have hdepths : Document.headingDepths (.heading h :: rest) =
        h.depth :: Document.headingDepths rest := rfl
    simp only [List.cons_append, ownerLevels, ih, hdepths, List.reverse_cons,
      List.append_assoc, List.nil_append]
  | case3 earlier p rest ih => exact congrArg (nestingLevel earlier :: ·) ih
  | case4 earlier l rest ih => exact congrArg (nestingLevel earlier :: ·) ih
  | case5 earlier m span rest ih => exact ih

/-- Two runs of earlier headings under which every heading stands alike are the same to the
blocks. -/
private theorem levels_congr {xs ys : List Nat} (blocks : Document)
    (hsame : ∀ depth, ancestors depth xs = ancestors depth ys)
    (hlevel : nestingLevel xs = nestingLevel ys) :
    nestedHeadings xs blocks = nestedHeadings ys blocks ∧
      ownerLevels xs blocks = ownerLevels ys blocks := by
  induction blocks generalizing xs ys with
  | nil => exact ⟨rfl, rfl⟩
  | cons block rest ih =>
    cases block with
    | heading g =>
      have hnext : ∀ depth, ancestors depth (g.depth :: xs) = ancestors depth (g.depth :: ys) := by
        intro depth
        simp only [ancestors, hsame]
      have hown : nestingLevel (g.depth :: xs) = nestingLevel (g.depth :: ys) := by
        simp only [nestingLevel, hsame]
      obtain ⟨hheadings, howners⟩ := ih hnext hown
      exact ⟨by rw [nestedHeadings, nestedHeadings, hown, hheadings], howners⟩
    | paragraph p =>
      obtain ⟨hheadings, howners⟩ := ih hsame hlevel
      exact ⟨hheadings, by rw [ownerLevels, ownerLevels, hlevel, howners]⟩
    | list l =>
      obtain ⟨hheadings, howners⟩ := ih hsame hlevel
      exact ⟨hheadings, by rw [ownerLevels, ownerLevels, hlevel, howners]⟩
    | other m span => exact ih hsame hlevel

private theorem levels_congr_heading {xs ys : List Nat} (h : Heading) (rest : Document)
    (hsame : ∀ depth ≤ h.depth, ancestors depth xs = ancestors depth ys) :
    nestedHeadings xs (.heading h :: rest) = nestedHeadings ys (.heading h :: rest) ∧
      ownerLevels xs (.heading h :: rest) = ownerLevels ys (.heading h :: rest) := by
  have hnext : ∀ depth, ancestors depth (h.depth :: xs) = ancestors depth (h.depth :: ys) := by
    intro depth
    by_cases hdepth : h.depth < depth
    · simp only [ancestors, hdepth, if_true, hsame h.depth le_rfl]
    · simp only [ancestors, hdepth, if_false, hsame depth (Nat.not_lt.mp hdepth)]
  have hown : nestingLevel (h.depth :: xs) = nestingLevel (h.depth :: ys) := by
    simp only [nestingLevel, hsame h.depth le_rfl]
  obtain ⟨hheadings, howners⟩ := levels_congr rest hnext hown
  exact ⟨by rw [nestedHeadings, nestedHeadings, hown, hheadings], howners⟩

theorem isBelow_iff {depth : Nat} {block : Block} :
    block.isBelow depth = true ↔ ∀ d ∈ block.headingDepth?, depth < d := by
  simp [Block.isBelow, Option.all_eq_true]

theorem lt_of_mem_headingDepths {depth : Nat} {blocks : Document}
    (h : ∀ block ∈ blocks, block.isBelow depth = true) :
    ∀ d ∈ blocks.headingDepths, depth < d := by
  intro d hd
  obtain ⟨block, hblock, hdepth⟩ := List.mem_filterMap.mp hd
  exact isBelow_iff.mp (h block hblock) d hdepth

theorem levels_section (earlier : List Nat) (h : Heading) (rest : Document) :
    nestedHeadings earlier (.heading h :: rest) =
        (h, nestingLevel (h.depth :: earlier)) ::
          (nestedHeadings (h.depth :: earlier) (rest.takeWhile (Block.isBelow h.depth)) ++
            nestedHeadings earlier (rest.dropWhile (Block.isBelow h.depth))) ∧
      ownerLevels earlier (.heading h :: rest) =
        ownerLevels (h.depth :: earlier) (rest.takeWhile (Block.isBelow h.depth)) ++
          ownerLevels earlier (rest.dropWhile (Block.isBelow h.depth)) := by
  let own : Document := rest.takeWhile (Block.isBelow h.depth)
  let after : Document := rest.dropWhile (Block.isBelow h.depth)
  have hsplit : own ++ after = rest := List.takeWhile_append_dropWhile
  have hown : ∀ d ∈ own.headingDepths.reverse ++ [h.depth], h.depth ≤ d := by
    intro d hd
    rcases List.mem_append.mp hd with hd | hd
    · have hbelow : ∀ block ∈ own, block.isBelow h.depth = true :=
        List.all_eq_true.mp List.all_takeWhile
      exact (lt_of_mem_headingDepths hbelow d (List.mem_reverse.mp hd)).le
    · exact (List.mem_singleton.mp hd).ge
  have hafter : nestedHeadings (own.headingDepths.reverse ++ h.depth :: earlier) after =
        nestedHeadings earlier after ∧
      ownerLevels (own.headingDepths.reverse ++ h.depth :: earlier) after =
        ownerLevels earlier after := by
    cases hcase : after with
    | nil => exact ⟨rfl, rfl⟩
    | cons block others =>
      have hnot : block.isBelow h.depth = false := by
        have hhead := List.head?_dropWhile_not (Block.isBelow h.depth) rest
        rw [show rest.dropWhile (Block.isBelow h.depth) = block :: others from hcase] at hhead
        simpa using hhead
      obtain ⟨g, rfl⟩ : ∃ g, block = .heading g := by
        cases block with
        | heading g => exact ⟨g, rfl⟩
        | _ => simp [Block.isBelow, Block.headingDepth?, Block.heading?] at hnot
      have hg : g.depth ≤ h.depth := by
        simpa [Block.isBelow, Block.headingDepth?, Block.heading?] using hnot
      refine levels_congr_heading g others fun depth hdepth => ?_
      have hsame := ancestors_append (fun d hd => (hdepth.trans hg).trans (hown d hd)) earlier
      rwa [List.append_assoc, List.singleton_append] at hsame
  refine ⟨?_, ?_⟩
  · rw [nestedHeadings]
    conv_lhs => rw [← hsplit]
    rw [nestedHeadings_append, hafter.1]
  · rw [ownerLevels]
    conv_lhs => rw [← hsplit]
    rw [ownerLevels_append, hafter.2]

private theorem length_ancestors_add_le {root depth : Nat} {earlier : List Nat}
    (hearlier : ∀ d ∈ earlier, root ≤ d) (hdepth : root ≤ depth) :
    root + (ancestors depth earlier).length ≤ depth := by
  induction earlier generalizing depth with
  | nil => simpa [ancestors] using hdepth
  | cons d earlier ih =>
    have hrest : ∀ d' ∈ earlier, root ≤ d' := fun d' hd' => hearlier d' (by simp [hd'])
    by_cases hd : d < depth
    · have hown := ih hrest (hearlier d (by simp))
      simp only [ancestors, hd, if_true, List.length_cons]
      omega
    · simp only [ancestors, hd, if_false]
      exact ih hrest hdepth

private theorem le_length_ancestors {d depth : Nat} {between earlier : List Nat}
    (hbetween : ∀ d' ∈ between, d < d') (hdepth : d < depth) :
    (ancestors d earlier).length < (ancestors depth (between ++ d :: earlier)).length := by
  induction between generalizing depth with
  | nil => simp [ancestors, hdepth]
  | cons d' between ih =>
    have hrest : ∀ b ∈ between, d < b := fun b hb => hbetween b (by simp [hb])
    rw [List.cons_append]
    by_cases hd' : d' < depth
    · have hown := ih hrest (hbetween d' (by simp))
      simp only [ancestors, hd', if_true, List.length_cons]
      omega
    · simp only [ancestors, hd', if_false]
      exact ih hrest hdepth

/-- Below a heading all levels are higher than its own, and no heading above it owns a paragraph or
a list. -/
theorem levels_below {depth : Nat} {blocks : Document}
    (h : ∀ block ∈ blocks, block.isBelow depth = true) (earlier : List Nat) :
    (∀ found ∈ nestedHeadings (depth :: earlier) blocks,
        nestingLevel (depth :: earlier) < found.2) ∧
      ∀ level ∈ ownerLevels (depth :: earlier) blocks, nestingLevel (depth :: earlier) ≤ level := by
  -- `between` are the deeper headings that have come since.
  have hmain (blocks : Document) (hblocks : ∀ block ∈ blocks, block.isBelow depth = true)
      (between : List Nat) (hbetween : ∀ d ∈ between, depth < d) :
      (∀ found ∈ nestedHeadings (between ++ depth :: earlier) blocks,
          nestingLevel (depth :: earlier) < found.2) ∧
        ∀ level ∈ ownerLevels (between ++ depth :: earlier) blocks,
          nestingLevel (depth :: earlier) ≤ level := by
    induction blocks generalizing between with
    | nil => simp [nestedHeadings, ownerLevels]
    | cons block rest ih =>
      have hrest := ih (fun b hb => hblocks b (by simp [hb]))
      have hnear : nestingLevel (depth :: earlier) ≤ nestingLevel (between ++ depth :: earlier) := by
        cases between with
        | nil => exact le_rfl
        | cons d between =>
          exact (le_length_ancestors (fun d' hd' => hbetween d' (by simp [hd']))
            (hbetween d (by simp))).le
      cases block with
      | heading g =>
        have hg : depth < g.depth := isBelow_iff.mp (hblocks (.heading g) (by simp)) _ rfl
        have hnext := hrest (g.depth :: between) (by simpa [hg] using hbetween)
        exact ⟨List.forall_mem_cons.mpr ⟨le_length_ancestors hbetween hg, hnext.1⟩, hnext.2⟩
      | paragraph p =>
        have hnext := hrest between hbetween
        exact ⟨hnext.1, List.forall_mem_cons.mpr ⟨hnear, hnext.2⟩⟩
      | list l =>
        have hnext := hrest between hbetween
        exact ⟨hnext.1, List.forall_mem_cons.mpr ⟨hnear, hnext.2⟩⟩
      | other m span => exact hrest between hbetween
  exact hmain blocks h [] (by simp)

/-- The depth of a heading in a section is at least its level below the section's. -/
theorem add_level_le_depth {root : Heading} {body : Document}
    (hbody : ∀ block ∈ body, block.isBelow root.depth = true) :
    ∀ found ∈ nestedHeadings [] (.heading root :: body),
      root.depth + found.2 ≤ found.1.depth := by
  have hmain (blocks : Document) (hblocks : ∀ depth ∈ blocks.headingDepths, root.depth ≤ depth)
      (earlier : List Nat) (hearlier : ∀ depth ∈ earlier, root.depth ≤ depth) :
      ∀ found ∈ nestedHeadings earlier blocks, root.depth + found.2 ≤ found.1.depth := by
    fun_induction nestedHeadings earlier blocks with
    | case1 => simp
    | case2 earlier h rest ih =>
      have hdepths : Document.headingDepths (.heading h :: rest) =
          h.depth :: Document.headingDepths rest := rfl
      rw [hdepths, List.forall_mem_cons] at hblocks
      rw [List.forall_mem_cons]
      exact ⟨length_ancestors_add_le hearlier hblocks.1,
        ih hblocks.2 (List.forall_mem_cons.mpr ⟨hblocks.1, hearlier⟩)⟩
    | case3 earlier block rest hblock ih =>
      refine ih ?_ hearlier
      cases block with
      | heading h => exact absurd rfl (hblock h)
      | _ => exact hblocks
  refine hmain _ ?_ [] (by simp)
  intro depth hdepth
  rcases List.mem_cons.mp hdepth with rfl | hdepth
  · exact le_rfl
  · exact (lt_of_mem_headingDepths hbody depth hdepth).le

private theorem isChain_of_levels {root depth : Nat} {earlier : List Nat} {blocks : Document}
    (hdepth : root + nestingLevel (depth :: earlier) = depth)
    (h : ∀ found ∈ nestedHeadings (depth :: earlier) blocks, root + found.2 = found.1.depth) :
    (depth :: blocks.headingDepths).IsChain fun above depth => depth ≤ above + 1 := by
  induction blocks generalizing depth earlier with
  | nil => exact List.IsChain.singleton _
  | cons block rest ih =>
    cases block with
    | heading g =>
      obtain ⟨hg, hrest⟩ := List.forall_mem_cons.mp h
      refine List.isChain_cons_cons.mpr ⟨?_, ih hg hrest⟩
      show g.depth ≤ depth + 1
      -- a heading that is deeper than the one before it stands right under it
      by_cases hdeeper : depth < g.depth
      · simp only [nestingLevel, ancestors, hdeeper, if_true, List.length_cons] at hg hdepth
        omega
      · omega
    | _ => exact ih hdepth h

private theorem levels_of_isChain {root depth : Nat} {earlier : List Nat} {blocks : Document}
    (hfull : ∀ e, root ≤ e → e ≤ depth + 1 → root + (ancestors e (depth :: earlier)).length = e)
    (hblocks : ∀ e ∈ blocks.headingDepths, root < e)
    (h : (depth :: blocks.headingDepths).IsChain fun above depth => depth ≤ above + 1) :
    ∀ found ∈ nestedHeadings (depth :: earlier) blocks, root + found.2 = found.1.depth := by
  induction blocks generalizing depth earlier with
  | nil => simp [nestedHeadings]
  | cons block rest ih =>
    cases block with
    | heading g =>
      have hdepths : Document.headingDepths (.heading g :: rest) =
          g.depth :: Document.headingDepths rest := rfl
      rw [hdepths, List.isChain_cons_cons] at h
      rw [hdepths, List.forall_mem_cons] at hblocks
      have hg := hfull g.depth hblocks.1.le h.1
      refine List.forall_mem_cons.mpr ⟨hg, ih ?_ hblocks.2 h.2⟩
      intro e hroot he
      by_cases hdeeper : g.depth < e
      · simp only [ancestors, hdeeper, if_true, List.length_cons] at hg ⊢
        omega
      · rw [ancestors, if_neg hdeeper]
        exact hfull e hroot (by omega)
    | _ => exact ih hfull hblocks h

theorem add_level_eq_depth_iff {root : Heading} {body : Document}
    (hbody : ∀ block ∈ body, block.isBelow root.depth = true) :
    (∀ found ∈ nestedHeadings [] (.heading root :: body),
        root.depth + found.2 = found.1.depth) ↔
      Document.SkipsNoDepth (.heading root :: body) := by
  have hroot : root.depth + nestingLevel [root.depth] = root.depth := rfl
  refine ⟨fun h => isChain_of_levels hroot (List.forall_mem_cons.mp h).2, fun h => ?_⟩
  refine List.forall_mem_cons.mpr ⟨hroot, levels_of_isChain ?_ (lt_of_mem_headingDepths hbody) h⟩
  intro depth hle hdepth
  by_cases hdeeper : root.depth < depth
  · simp only [ancestors, hdeeper, if_true, List.length_singleton]
    omega
  · simp only [ancestors, hdeeper, if_false, List.length_nil]
    omega

end MarkdownOutline
