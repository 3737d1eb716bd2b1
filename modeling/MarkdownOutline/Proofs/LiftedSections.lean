import MarkdownOutline.Markdown.Reader
import MarkdownOutline.Outline.Lift
import MarkdownOutline.Proofs.Depths
import MarkdownOutline.Proofs.IndexPrefix
import MarkdownOutline.Proofs.NestedHeadings
import MarkdownOutline.Proofs.SectionRuns
import Mathlib.Data.List.TakeWhile

/-!
# Sections as lists and back

A section that is turned into a list has its headings at the depth of their nesting once the list is
lifted again. The rounds of lifting cannot tell a paragraph or the label of a list from the title of
a heading, so they make headings of those too, unless they only stand under the innermost headings.
-/

namespace MarkdownOutline

theorem liftRounds_append (rounds depth : Nat) (first second : List Block) :
    liftRounds rounds depth (first ++ second) =
      liftRounds rounds depth first ++ liftRounds rounds depth second := by
  induction rounds generalizing depth first second with
  | zero => rfl
  | succ rounds ih =>
    simp only [liftRounds, liftRound, List.flatMap_append]
    exact ih _ _ _

private theorem liftRounds_nil (rounds depth : Nat) : liftRounds rounds depth [] = [] := by
  induction rounds generalizing depth with
  | zero => rfl
  | succ rounds ih => exact ih _

private theorem liftRounds_heading (rounds depth : Nat) (h : Heading) :
    liftRounds rounds depth [.heading h] = [.heading h] := by
  induction rounds generalizing depth with
  | zero => rfl
  | succ rounds ih => exact ih _

private theorem liftRounds_numbered_nil (rounds depth : Nat) :
    Document.topHeadings (liftRounds rounds depth [.list (.numbered [])]) = [] := by
  cases rounds with
  | zero => rfl
  | succ rounds => exact congrArg Document.topHeadings (liftRounds_nil rounds _)

/-- The paragraph that an item starts with is a heading after the first round, and what follows it
is lifted in the rounds that are left. -/
private theorem topHeadings_liftRounds_cons (rounds depth : Nat) (p : Paragraph)
    (children : List Block) (span : Option Span) (items : List Item) :
    Document.topHeadings (liftRounds (rounds + 1) depth
        [.list (.numbered (.mk (.paragraph p :: children) span :: items))]) =
      { depth, content := p.content } ::
        (Document.topHeadings (liftRounds rounds (depth + 1) children) ++
          Document.topHeadings (liftRounds (rounds + 1) depth [.list (.numbered items)])) := by
  have hround : liftRound depth
        [.list (.numbered (.mk (.paragraph p :: children) span :: items))] =
      [.heading { depth, content := p.content }] ++
        (children ++ liftRound depth [.list (.numbered items)]) := by
    simp [liftRound, ListBlock.numbered, ListBlock.items, liftItem, Item.children]
  rw [liftRounds, hround, liftRounds_append, liftRounds_append, liftRounds_heading]
  simp only [Document.topHeadings, List.filterMap_append, liftRounds]
  rfl

private theorem nestingLevel_below {depth : Nat} (earlier : List Nat) {h : Heading}
    (hbelow : Block.isBelow depth (.heading h) = true) :
    nestingLevel (h.depth :: depth :: earlier) = nestingLevel (depth :: earlier) + 1 := by
  have hdepth : depth < h.depth := isBelow_iff.mp hbelow _ rfl
  simp [nestingLevel, ancestors, hdepth]

def liftedHeadings (rounds depth : Nat) (items : List Item) : List Heading :=
  Document.topHeadings (liftRounds rounds depth [.list (.numbered items)])

/-- What the rounds make of the list of some blocks: the headings among the blocks at the depths of
their levels if no paragraph or list is owned above the last level, and more of them otherwise. -/
def LiftsTo (base height : Nat) (earlier : List Nat) (blocks : Document) (lifted : List Heading) :
    Prop :=
  ((∀ level ∈ ownerLevels earlier blocks, height ≤ level + 1) →
    lifted.map (fun h => (h.depth, h.rawTitle)) =
      (nestedHeadings earlier blocks).map fun found => (base + found.2, found.1.plainTitle)) ∧
  (nestedHeadings earlier blocks).length + (ownerLevels earlier blocks).countP (· + 1 < height) ≤
    lifted.length

private theorem liftsTo_nil {base height depth : Nat} {earlier : List Nat} {blocks : Document}
    (hbelow : ∀ block ∈ blocks, block.isBelow depth = true)
    (hlevels : ∀ found ∈ nestedHeadings (depth :: earlier) blocks, found.2 < height)
    (hlast : nestingLevel (depth :: earlier) + 1 = height) :
    LiftsTo base height (depth :: earlier) blocks [] := by
  obtain ⟨hheadings, howners⟩ := levels_below hbelow earlier
  have hnone : nestedHeadings (depth :: earlier) blocks = [] := by
    refine List.eq_nil_iff_forall_not_mem.mpr fun found hfound => ?_
    have hlow := hheadings found hfound
    have hhigh := hlevels found hfound
    omega
  have hcount : (ownerLevels (depth :: earlier) blocks).countP (· + 1 < height) = 0 := by
    refine List.countP_eq_zero.mpr fun level hlevel => ?_
    have hlow := howners level hlevel
    simp only [decide_eq_true_eq]
    omega
  rw [LiftsTo, hnone, hcount]
  exact ⟨fun _ => rfl, le_rfl⟩

private theorem liftsTo_content {base height rounds depth : Nat} {earlier : List Nat}
    {block : Block} {rest : Document} {items : List Item}
    (hheadings : nestedHeadings (depth :: earlier) (block :: rest) =
      nestedHeadings (depth :: earlier) rest)
    (howners : ownerLevels (depth :: earlier) (block :: rest) =
      nestingLevel (depth :: earlier) :: ownerLevels (depth :: earlier) rest)
    (hrounds : nestingLevel (depth :: earlier) + 1 + rounds = height)
    (hbelow : ∀ b ∈ block :: rest, b.isBelow depth = true)
    (hlevels : ∀ found ∈ nestedHeadings (depth :: earlier) (block :: rest), found.2 < height)
    (hrest : LiftsTo base height (depth :: earlier) rest
      (liftedHeadings rounds (base + (nestingLevel (depth :: earlier) + 1)) items))
    (p : Paragraph) (children : List Block) :
    LiftsTo base height (depth :: earlier) (block :: rest)
      (liftedHeadings rounds (base + (nestingLevel (depth :: earlier) + 1))
        (.mk (.paragraph p :: children) none :: items)) := by
  cases rounds with
  | zero => exact liftsTo_nil hbelow hlevels hrounds
  | succ left =>
    have hshallow : nestingLevel (depth :: earlier) + 1 < height := by omega
    have hcount := hrest.2
    rw [LiftsTo, hheadings, howners]
    refine ⟨fun hlast => ?_, ?_⟩
    · have hown := hlast _ List.mem_cons_self
      omega
    · unfold liftedHeadings at hcount ⊢
      rw [topHeadings_liftRounds_cons]
      simp only [List.countP_cons, hshallow, decide_true, if_true, List.length_cons,
        List.length_append]
      omega

/-- The items of the blocks below a heading, lifted by one round for each level that is left. -/
private theorem liftsTo_flattenBlocks (base height : Nat) (title : String) (lists : Nat)
    (blocks : Document) {rounds depth : Nat} {earlier : List Nat}
    (hbelow : ∀ block ∈ blocks, block.isBelow depth = true)
    (hlevels : ∀ found ∈ nestedHeadings (depth :: earlier) blocks, found.2 < height)
    (hrounds : nestingLevel (depth :: earlier) + 1 + rounds = height) :
    LiftsTo base height (depth :: earlier) blocks
      (liftedHeadings rounds (base + (nestingLevel (depth :: earlier) + 1))
        (flattenBlocks title lists blocks).1) := by
  fun_induction flattenBlocks title lists blocks generalizing rounds depth earlier with
  | case1 =>
    rw [liftedHeadings, liftRounds_numbered_nil]
    exact ⟨fun _ => rfl, le_rfl⟩
  | case2 title lists h rest inner innerTail hinner items tail hitems ihinner ihitems =>
    simp only [hinner] at ihinner
    simp only [hitems] at ihitems
    obtain ⟨hheadings, howners⟩ := levels_section (depth :: earlier) h rest
    obtain ⟨hh, hrest⟩ := List.forall_mem_cons.mp hbelow
    have hlevel := nestingLevel_below earlier hh
    -- The heading takes one round, so its own blocks have one less left and those behind it as many
    -- as before.
    rw [hheadings, List.forall_mem_cons, List.forall_mem_append] at hlevels
    obtain ⟨hown, hlevelsInner, hlevelsAfter⟩ := hlevels
    simp only [hlevel] at hown
    obtain ⟨left, rfl⟩ : ∃ left, rounds = left + 1 := ⟨rounds - 1, by omega⟩
    have hinside := ihinner (List.all_eq_true.mp List.all_takeWhile) hlevelsInner
      (show nestingLevel (h.depth :: depth :: earlier) + 1 + left = height by omega)
    have hafter := ihitems (fun b hb => hrest b ((List.dropWhile_sublist _).subset hb)) hlevelsAfter
      hrounds
    rw [hlevel, ← Nat.add_assoc base] at hinside
    unfold headingItem liftedHeadings at *
    rw [topHeadings_liftRounds_cons, LiftsTo, hheadings, howners, hlevel]
    refine ⟨fun hlast => ?_, ?_⟩
    · obtain ⟨hlastInner, hlastAfter⟩ := List.forall_mem_append.mp hlast
      rw [List.map_cons, List.map_cons, List.map_append, List.map_append, hinside.1 hlastInner,
        hafter.1 hlastAfter]
      rfl
    · have hcountInner := hinside.2
      have hcountAfter := hafter.2
      simp only [List.length_cons, List.length_append, List.countP_append]
      omega
  | case3 title lists p rest items tail hrest ih =>
    rw [hrest] at ih
    exact liftsTo_content rfl rfl hrounds hbelow hlevels
      (ih (fun b hb => hbelow b (List.mem_cons_of_mem _ hb)) hlevels hrounds) p []
  | case4 title lists l rest items tail hrest ih =>
    rw [hrest] at ih
    exact liftsTo_content rfl rfl hrounds hbelow hlevels
      (ih (fun b hb => hbelow b (List.mem_cons_of_mem _ hb)) hlevels hrounds) _ [.list l]
  | case5 title lists m span rest items tail hrest ih =>
    rw [hrest] at ih
    exact ih (fun b hb => hbelow b (List.mem_cons_of_mem _ hb)) hlevels hrounds

theorem Document.flattenSections?_section {root : Heading} {body : Document}
    (hbody : ∀ block ∈ body, block.isBelow root.depth = true) (peers : Bool) :
    ∃ tail, flattenSections? (.heading root :: body) 0 0 peers =
      some ⟨.numbered [headingItem root.plainTitle (flattenBlocks root.plainTitle 0 body).1], tail,
        body.length + 1⟩ := by
  have htake : body.takeWhile (Block.isBelow root.depth) = body :=
    List.takeWhile_eq_self_iff.mpr hbody
  have hdrop : body.dropWhile (Block.isBelow root.depth) = [] :=
    List.dropWhile_eq_nil_iff.mpr hbody
  have hstays : ∀ block ∈ body, block.staysIn peers root.depth = true := by
    intro block hblock
    cases peers with
    | true => exact Block.isWithin_of_isBelow (hbody block hblock)
    | false => exact hbody block hblock
  have hown : body.takeWhile (Block.staysIn peers root.depth) = body :=
    List.takeWhile_eq_self_iff.mpr hstays
  have hheading : (Block.heading root :: body)[0]? = some (.heading root) := rfl
  have hflat := flattenSections?_eq hheading hheading rfl (fun _ : peers = false => rfl)
  refine ⟨(flattenBlocks root.plainTitle 0 body).2, ?_⟩
  rw [hflat, List.drop_one, List.tail_cons, hown]
  simp [flattenBlocks, htake, hdrop]

private theorem availableRounds_nestingHeight {root : Heading} {body : Document}
    (hbody : ∀ block ∈ body, block.isBelow root.depth = true)
    (hdepths : DepthsInRange (Document.topHeadings (.heading root :: body))) :
    max root.depth 1 = root.depth ∧
      availableRounds root.depth (Document.nestingHeight (.heading root :: body)) =
        Document.nestingHeight (.heading root :: body) := by
  have hroot := hdepths root List.mem_cons_self
  have hheight : Document.nestingHeight (.heading root :: body) ≤
      maxHeadingDepth + 1 - root.depth := by
    refine nestingHeight_le fun found hfound => ?_
    have hlevel := add_level_le_depth hbody found hfound
    have hmem : found.1 ∈ Document.topHeadings (.heading root :: body) := by
      rw [← nestedHeadings_fst []]
      exact List.mem_map_of_mem hfound
    have hdepth := (hdepths found.1 hmem).2
    omega
  unfold availableRounds
  omega

/-- A section that was turned into a list is lifted by its levels. -/
private theorem liftsTo_section {root : Heading} {body : Document}
    (hbody : ∀ block ∈ body, block.isBelow root.depth = true)
    (hdepths : DepthsInRange (Document.topHeadings (.heading root :: body))) :
    LiftsTo root.depth (Document.nestingHeight (.heading root :: body)) []
      (.heading root :: body)
      (Document.topHeadings ((ListBlock.numbered [headingItem root.plainTitle
        (flattenBlocks root.plainTitle 0 body).1]).toHeadings root.depth
          (Document.nestingHeight (.heading root :: body)))) := by
  obtain ⟨hmax, hrounds⟩ := availableRounds_nestingHeight hbody hdepths
  have hlevels : ∀ found ∈ nestedHeadings [] (.heading root :: body),
      found.2 < Document.nestingHeight (.heading root :: body) :=
    fun found hfound => lt_nestingHeight hfound
  obtain ⟨hroot, hinner⟩ := List.forall_mem_cons.mp hlevels
  rw [ListBlock.toHeadings, hmax, hrounds]
  generalize Document.nestingHeight (.heading root :: body) = height at hroot hinner
  obtain ⟨left, rfl⟩ : ∃ left, height = left + 1 := ⟨height - 1, by omega⟩
  have hleft : nestingLevel [root.depth] + 1 + left = left + 1 := by
    rw [show nestingLevel [root.depth] = 0 from rfl]
    omega
  obtain ⟨hequal, hcount⟩ :=
    liftsTo_flattenBlocks root.depth (left + 1) root.plainTitle 0 body hbody hinner hleft
  rw [headingItem, topHeadings_liftRounds_cons, liftRounds_numbered_nil, List.append_nil]
  refine ⟨fun hlast => ?_, ?_⟩
  · rw [List.map_cons, show Document.topHeadings (liftRounds left (root.depth + 1) _) =
      liftedHeadings left (root.depth + (nestingLevel [root.depth] + 1))
        (flattenBlocks root.plainTitle 0 body).1 from rfl, hequal hlast]
    rfl
  · have hown : ownerLevels [] (.heading root :: body) = ownerLevels [root.depth] body := rfl
    have hheadings : (nestedHeadings [] (.heading root :: body)).length =
        (nestedHeadings [root.depth] body).length + 1 := rfl
    have hlifted : (Document.topHeadings (liftRounds left (root.depth + 1)
        [.list (.numbered (flattenBlocks root.plainTitle 0 body).1)])).length =
      (liftedHeadings left (root.depth + (nestingLevel [root.depth] + 1))
        (flattenBlocks root.plainTitle 0 body).1).length := rfl
    rw [hown, hheadings, List.length_cons, hlifted]
    omega

/-- A section in which all paragraphs and lists are owned by headings of the last level has its
headings back once it was turned into a list and lifted by its levels: in order, with their titles
and at the depths of their levels, which are their own depths exactly if no depth is skipped. -/
theorem Document.headings_lifted_from_section (root : Heading) (body : Document)
    (hbody : ∀ block ∈ body, block.isBelow root.depth = true)
    (hdepths : DepthsInRange (topHeadings (.heading root :: body)))
    (howners : ∀ level ∈ ownerLevels [] (.heading root :: body),
      level + 1 = nestingHeight (.heading root :: body)) :
    ∃ flattened, flattenSections? (.heading root :: body) 0 0 false = some flattened ∧
      (topHeadings (flattened.list.toHeadings root.depth
          (nestingHeight (.heading root :: body)))).map (fun h => (h.depth, h.rawTitle)) =
        (nestedHeadings [] (.heading root :: body)).map
          (fun found => (root.depth + found.2, found.1.plainTitle)) ∧
      (nestedHeadings [] (.heading root :: body)).map Prod.fst =
        topHeadings (.heading root :: body) ∧
      (∀ found ∈ nestedHeadings [] (.heading root :: body),
        root.depth + found.2 ≤ found.1.depth) ∧
      ((∀ found ∈ nestedHeadings [] (.heading root :: body),
        root.depth + found.2 = found.1.depth) ↔ SkipsNoDepth (.heading root :: body)) := by
  obtain ⟨tail, hflattened⟩ := flattenSections?_section hbody false
  exact ⟨_, hflattened, (liftsTo_section hbody hdepths).1 fun level hlevel => (howners level hlevel).ge,
    nestedHeadings_fst [] _, add_level_le_depth hbody, add_level_eq_depth_iff hbody⟩

/-- Two headings of different depths under the same one have the same level. -/
theorem Document.headings_lifted_from_section_skipping :
    let root : Heading := ⟨2, [.text "1. a"], none⟩
    let body : Document := [.heading ⟨5, [.text "b"], none⟩, .paragraph (.ofText "x"),
      .heading ⟨3, [.text "2. c"], none⟩, .list (.numbered [])]
    ∃ flattened, flattenSections? (.heading root :: body) 0 0 false = some flattened ∧
      (topHeadings (flattened.list.toHeadings 2 2)).map (fun h => (h.depth, h.rawTitle)) =
        [(2, "a"), (3, "b"), (3, "c")] := by
  intro root body
  obtain ⟨flattened, hflattened, hlifted, _⟩ := headings_lifted_from_section root body
    (by decide) (by simp [DepthsInRange, topHeadings, Block.heading?, root, body, maxHeadingDepth])
    (by decide)
  have hheadings : (nestedHeadings [] (.heading root :: body)).map
      (fun found => (root.depth + found.2, found.1.plainTitle)) =
        [(2, "a"), (3, "b"), (3, "c")] := by decide +kernel
  exact ⟨flattened, hflattened, hlifted.trans hheadings⟩

/-- The depths and titles of the document's headings, without their numbers. -/
def Document.outline (document : Document) : List (Nat × String) :=
  document.topHeadings.map fun h => (h.depth, h.plainTitle)

def Document.deepest (document : Document) : Nat := document.headingDepths.foldr max 0

private theorem foldr_max_add (root : Nat) (levels : List Nat) (h : levels ≠ []) :
    (levels.map (root + ·)).foldr max 0 + 1 = root + (levels.map (· + 1)).foldr max 0 := by
  induction levels with
  | nil => exact absurd rfl h
  | cons level levels ih =>
    cases levels with
    | nil => simp [Nat.add_assoc]
    | cons next levels =>
      have hrest := ih (List.cons_ne_nil _ _)
      rw [List.map_cons, List.foldr_cons, List.map_cons (f := (· + 1)), List.foldr_cons]
      generalize ((next :: levels).map (root + ·)).foldr max 0 = deepest at hrest ⊢
      omega

private theorem nestingHeight_of_skipsNoDepth {root : Heading} {body : Document}
    (hbody : ∀ block ∈ body, block.isBelow root.depth = true)
    (hskip : Document.SkipsNoDepth (.heading root :: body)) :
    Document.deepest (.heading root :: body) + 1 =
      root.depth + Document.nestingHeight (.heading root :: body) := by
  have hlevels := (add_level_eq_depth_iff hbody).mpr hskip
  have hdepths : Document.headingDepths (.heading root :: body) =
      ((nestedHeadings [] (.heading root :: body)).map Prod.snd).map (root.depth + ·) := by
    have htop : Document.headingDepths (.heading root :: body) =
        (Document.topHeadings (.heading root :: body)).map Heading.depth :=
      List.map_filterMap.symm
    rw [htop, ← nestedHeadings_fst [], List.map_map, List.map_map]
    exact List.map_congr_left fun found hfound => (hlevels found hfound).symm
  rw [Document.deepest, hdepths, foldr_max_add _ _ (by simp [nestedHeadings]),
    Document.nestingHeight, List.map_map]
  rfl

/-- A title that was taken its number off is lifted without another loss exactly if no white space
hides a number of it. -/
private theorem plainTitle_idem_iff (h : Heading) :
    stripIndexPrefix h.plainTitle = h.plainTitle ↔ ¬ HidesNumber h.rawTitle.toList := by
  rw [← dropIndexPrefix_idem_iff]
  unfold Heading.plainTitle stripIndexPrefix
  rw [String.toList_ofList, String.ofList_inj]

/-- Headings that were lifted by their levels make the outline of a section that skips no depth up to
the numbers of their titles. -/
private theorem outline_of_lifted {root : Heading} {body lifted : Document}
    (hbody : ∀ block ∈ body, block.isBelow root.depth = true)
    (hskip : Document.SkipsNoDepth (.heading root :: body))
    (hlifted : lifted.topHeadings.map (fun h => (h.depth, h.rawTitle)) =
      (nestedHeadings [] (.heading root :: body)).map
        (fun found => (root.depth + found.2, found.1.plainTitle))) :
    lifted.outline = (Document.topHeadings (.heading root :: body)).map
      (fun h => (h.depth, stripIndexPrefix h.plainTitle)) := by
  have hlevels := (add_level_eq_depth_iff hbody).mpr hskip
  calc lifted.outline
    _ = (lifted.topHeadings.map (fun h => (h.depth, h.rawTitle))).map
          (fun entry => (entry.1, stripIndexPrefix entry.2)) := by
        rw [List.map_map]
        rfl
    _ = (nestedHeadings [] (.heading root :: body)).map
          (fun found => (found.1.depth, stripIndexPrefix found.1.plainTitle)) := by
        rw [hlifted, List.map_map]
        exact List.map_congr_left fun found hfound =>
          congrArg (·, stripIndexPrefix found.1.plainTitle) (hlevels found hfound)
    _ = _ := by
        rw [← nestedHeadings_fst [], List.map_map]
        rfl

/-- A section that skips no depth has its outline back once it was turned into a list and lifted
again exactly if all paragraphs and lists in it are owned by its deepest headings and no white space
hides a number of a title. -/
theorem Document.outline_lifted_from_section_iff (root : Heading) (body : Document)
    (hbody : ∀ block ∈ body, block.isBelow root.depth = true)
    (hdepths : DepthsInRange (topHeadings (.heading root :: body)))
    (hskip : SkipsNoDepth (.heading root :: body)) (peers : Bool) :
    ∃ flattened, flattenSections? (.heading root :: body) 0 0 peers = some flattened ∧
      (outline (flattened.list.toHeadings root.depth
          (deepest (.heading root :: body) - root.depth + 1)) = outline (.heading root :: body) ↔
        (∀ level ∈ ownerLevels [] (.heading root :: body),
          root.depth + level = deepest (.heading root :: body)) ∧
        ∀ h ∈ topHeadings (.heading root :: body), ¬ HidesNumber h.rawTitle.toList) := by
  obtain ⟨tail, hflattened⟩ := flattenSections?_section hbody peers
  refine ⟨_, hflattened, ?_⟩
  have hheight := nestingHeight_of_skipsNoDepth hbody hskip
  have hroot : 0 < nestingHeight (.heading root :: body) := by
    have hfirst : (root, 0) ∈ nestedHeadings [] (.heading root :: body) := List.mem_cons_self
    exact lt_nestingHeight hfirst
  have hrounds : deepest (.heading root :: body) - root.depth + 1 =
      nestingHeight (.heading root :: body) := by omega
  obtain ⟨hequal, hcount⟩ := liftsTo_section hbody hdepths
  have hlast : (∀ level ∈ ownerLevels [] (.heading root :: body),
        root.depth + level = deepest (.heading root :: body)) ↔
      ∀ level ∈ ownerLevels [] (.heading root :: body),
        nestingHeight (.heading root :: body) ≤ level + 1 := by
    refine forall₂_congr fun level hlevel => ?_
    have hlow : level < nestingHeight (.heading root :: body) := by
      obtain rfl | ⟨found, hfound, rfl⟩ := mem_ownerLevels hlevel
      · exact hroot
      · exact lt_nestingHeight hfound
    omega
  rw [hrounds, hlast]
  refine ⟨fun hsame => ?_, fun ⟨howners, hplain⟩ => ?_⟩
  · -- A heading too many would make the outline longer.
    have hlength := congrArg List.length hsame
    have howners : ∀ level ∈ ownerLevels [] (.heading root :: body),
        nestingHeight (.heading root :: body) ≤ level + 1 := by
      have hheadings := congrArg List.length (nestedHeadings_fst [] (.heading root :: body))
      simp only [outline, List.length_map] at hlength hheadings
      have hnone : (ownerLevels [] (.heading root :: body)).countP
          (· + 1 < nestingHeight (.heading root :: body)) = 0 := by omega
      intro level hlevel
      simpa using List.countP_eq_zero.mp hnone level hlevel
    rw [outline_of_lifted hbody hskip (hequal howners)] at hsame
    refine ⟨howners, fun h hh => (plainTitle_idem_iff h).mp ?_⟩
    have hentry := List.map_inj_left.mp hsame h hh
    rw [Prod.mk.injEq] at hentry
    exact hentry.2
  · rw [outline_of_lifted hbody hskip (hequal howners)]
    refine List.map_congr_left fun h hh => ?_
    rw [(plainTitle_idem_iff h).mpr (hplain h hh)]

theorem Document.outline_lifted_from_section_iff_deepest :
    let root : Heading := ⟨1, [.text "A"], none⟩
    let body : Document := [.heading ⟨2, [.text "1. B"], none⟩, .paragraph (.ofText "text")]
    ∃ flattened, flattenSections? (.heading root :: body) 0 0 true = some flattened ∧
      outline (flattened.list.toHeadings 1 2) = [(1, "A"), (2, "B")] := by
  intro root body
  obtain ⟨flattened, hflattened, hiff⟩ := outline_lifted_from_section_iff root body (by decide)
    (by simp [DepthsInRange, topHeadings, Block.heading?, root, body, maxHeadingDepth])
    (show List.IsChain _ [1, 2] by simp) true
  have houtline : outline (.heading root :: body) = [(1, "A"), (2, "B")] := by decide +kernel
  exact ⟨flattened, hflattened, (hiff.mpr (by decide +kernel)).trans houtline⟩

/-- A paragraph under a heading that has subsections is lifted as one of them. -/
theorem Document.outline_lifted_from_section_ne :
    ((ofMarkdown "# A\n\ntext\n\n## B\n").flattenSections? 0 0 false).map
        (fun flattened => outline (flattened.list.toHeadings 1 2)) ≠
      some (outline (ofMarkdown "# A\n\ntext\n\n## B\n")) := by
  decide +kernel

end MarkdownOutline
