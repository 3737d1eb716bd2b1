import MarkdownOutline.Proofs.WrittenCode
import MarkdownOutline.Proofs.CodeLines
import MarkdownOutline.Proofs.Contexts

/-!
# Blocks of code

A written code block has its lines between two fences, or behind four spaces each. Read behind tabs
that reach no further than its container, or one column further for a fence, it has the literal that
it was written from.
-/

namespace MarkdownOutline

open Markdown Text

/-- The literal is the text of some whole lines, and the characters of the lines and of the info
string are read as themselves. -/
structure IsCodeText (info literal : String) (lines : List (List Char)) : Prop where
  literal : literal.toList = lines.flatMap (· ++ ['\n'])
  chars : ∀ line ∈ lines, ∀ c ∈ line, isLineChar c = true
  info : ∀ c ∈ info.toList, isLineChar c = true

private theorem textLines_intercalate {lines : List (List Char)}
    (hchars : ∀ line ∈ lines, '\n' ∉ line) (hne : joinLines lines ≠ []) :
    textLines (['\n'].intercalate lines) = lines := by
  have hlines : lines ≠ [] := by
    rintro rfl
    exact hne rfl
  have hempty : (['\n'].intercalate lines).isEmpty = false := by
    rw [List.isEmpty_eq_false_iff]
    exact hne
  rw [textLines, hempty, if_neg (by simp), splitAt_eq_splitOn,
    List.splitOn_intercalate _ hchars hlines]

private theorem joinLines_cons_ne_nil {line : List Char} (h : line ≠ [])
    (lines : List (List Char)) : joinLines (line :: lines) ≠ [] := by
  cases lines with
  | nil => simpa [joinLines] using h
  | cons next lines =>
    rw [joinLines_cons (by simp)]
    simp

theorem ne_lineFeed_of_isLineChar {line : List Char} (h : ∀ c ∈ line, isLineChar c = true) :
    '\n' ∉ line := by
  intro hmem
  exact absurd (h _ hmem) (by decide)

namespace IsCodeText

variable {info literal : String} {lines : List (List Char)}

theorem noLineFeed (h : IsCodeText info literal lines) : ∀ line ∈ lines, '\n' ∉ line :=
  fun line hline => ne_lineFeed_of_isLineChar (h.chars line hline)

theorem indented_head (h : IsCodeText info literal lines)
    (hwritten : isWrittenIndented info literal = true) :
    ∃ c s others, lines = (c :: s) :: others ∧ isSpacing c = false := by
  simp only [isWrittenIndented, Bool.and_eq_true, Bool.not_eq_true'] at hwritten
  obtain ⟨⟨_, hstart⟩, hend⟩ := hwritten
  rw [h.literal] at hstart hend
  rcases lines with _ | ⟨_ | ⟨c, s⟩, others⟩
  · exact absurd hend (by decide)
  · exact absurd hstart (by simp [isSpacing, isLineEnd])
  · exact ⟨c, s, others, rfl, by simpa using hstart⟩

theorem textLines_indented (h : IsCodeText info literal lines)
    (hwritten : isWrittenIndented info literal = true) (fenced : Bool) :
    textLines (markupText (.leaf (.codeBlock fenced info literal))) =
      lines.map ("    ".toList ++ ·) := by
  rw [markupText_indentedCode fenced hwritten h.noLineFeed h.literal]
  obtain ⟨c, s, others, rfl, _⟩ := h.indented_head hwritten
  apply textLines_intercalate
  · intro line hline
    obtain ⟨own, hown, rfl⟩ := List.mem_map.mp hline
    have hfeed := h.noLineFeed own hown
    simpa using hfeed
  · exact joinLines_cons_ne_nil (by simp) _

/-- The lines of a literal that is written with a fence stand between two lines of marks. -/
theorem exists_textLines_fenced (h : IsCodeText info literal lines)
    (hwritten : isWrittenIndented info literal = false) (fenced : Bool) :
    ∃ mark count, 3 ≤ count ∧ (mark = '~' ∨ mark = '\x60' ∧ '\x60' ∉ info.toList) ∧
      (∀ s, s <:+ literal.toList → (s.takeWhile (· == mark)).length < count) ∧
      textLines (markupText (.leaf (.codeBlock fenced info literal))) =
        (List.replicate count mark ++ if info = "" then [] else ' ' :: info.toList) :: lines ++
          [List.replicate count mark] := by
  obtain ⟨mark, count, hcount, hmark, hruns, htext⟩ := exists_markupText_fencedCode fenced hwritten
    (ne_lineFeed_of_isLineChar h.info) h.literal
  refine ⟨mark, count, hcount, hmark, hruns, ?_⟩
  have hfence : '\n' ∉ List.replicate count mark := by
    intro hmem
    obtain rfl := List.eq_of_mem_replicate hmem
    simp at hmark
  rw [htext]
  apply textLines_intercalate
  · intro line hline
    rcases List.mem_append.mp hline with hline | hline
    · rcases List.mem_cons.mp hline with rfl | hline
      · have hinfo := ne_lineFeed_of_isLineChar h.info
        by_cases hempty : info = ""
        · simpa [hempty] using hfence
        · rw [if_neg hempty, List.mem_append, List.mem_cons, not_or, not_or]
          exact ⟨hfence, by decide, hinfo⟩
      · exact h.noLineFeed line hline
    · obtain rfl : line = List.replicate count mark := by simpa using hline
      exact hfence
  · refine joinLines_cons_ne_nil ?_ _
    have hpos : count ≠ 0 := by omega
    simp [hpos]

theorem isClosingFence_eq_false (h : IsCodeText info literal lines) {mark : Char} {count : Nat}
    (hruns : ∀ s, s <:+ literal.toList → (s.takeWhile (· == mark)).length < count)
    {line : List Char} (hline : line ∈ lines) :
    isClosingFence mark count ((line ++ ['\n']).dropWhile isSpaceOrTab) = false := by
  obtain ⟨before, after, rfl⟩ := List.append_of_mem hline
  have hsuffix : (line ++ ['\n']).dropWhile isSpaceOrTab ++ after.flatMap (· ++ ['\n']) <:+
      literal.toList := by
    obtain ⟨front, hfront⟩ := List.dropWhile_suffix isSpaceOrTab (l := line ++ ['\n'])
    refine ⟨before.flatMap (· ++ ['\n']) ++ front, ?_⟩
    rw [h.literal, List.flatMap_append, List.flatMap_cons, List.append_assoc,
      ← List.append_assoc front, hfront]
  have hshort := hruns _ hsuffix
  rw [List.takeWhile_append] at hshort
  have hless : ¬ count ≤ (((line ++ ['\n']).dropWhile isSpaceOrTab).takeWhile
      (· == mark)).length := by
    intro hcount
    split at hshort
    · rw [List.length_append] at hshort
      omega
    · omega
  simp [isClosingFence, hless]

end IsCodeText

namespace Markdown

variable {base : BlockFrame} {outer : List Frame} {tabs rest : Nat}

private theorem addIndented_fenced {chain : BlockChain} {leaf : OpenLeaf}
    (hleaf : chain.leaf = some leaf) {mark : Char} {count offset : Nat}
    (hkind : leaf.kind = .fencedCode mark count offset) (hblank : leaf.blankEnd = false)
    (hframes : chain.frames = base.toFrame :: outer) (hend : base.blankEnd = false)
    (hctx : Context base.kind outer tabs rest) {lines : List (List Char)}
    (hkeeps : offset = rest ∧ rest ≤ 1 ∨ ∀ line ∈ lines, line = [])
    (hclosing : ∀ line ∈ lines,
      isClosingFence mark count ((line ++ ['\n']).dropWhile isSpaceOrTab) = false) :
    chain.addIndented tabs lines =
      { chain with
        leaf := some { leaf with lines := (lines.map (· ++ ['\n'])).reverse ++ leaf.lines }
        lineCount := chain.lineCount + lines.length } := by
  -- A line makes the frames calm, which they are, so the next one meets the same containers.
  induction lines generalizing chain leaf with
  | nil =>
    obtain ⟨frames, open?, targets, lineCount⟩ := chain
    subst hleaf
    rfl
  | cons line lines ih =>
    have hplain : ∀ frame ∈ chain.frames, frame.IsPlain := hframes ▸ hctx.isPlain rfl
    have hcalm : chain.frames.map Frame.calm = chain.frames := hframes ▸ hctx.calm_frames hend
    have hstep : chain.addIndented tabs (line :: lines) =
        (chain.addLine (indentLine tabs line ++ ['\n'])).addIndented tabs lines := rfl
    have hline := hclosing line (by simp)
    have hadd : chain.addLine (indentLine tabs line ++ ['\n']) =
        { chain with
          leaf := some { leaf with lines := (line ++ ['\n']) :: leaf.lines }
          lineCount := chain.lineCount + 1 } := by
      by_cases hempty : line = []
      · subst hempty
        have hown := BlockChain.addLine_fencedCode_empty hleaf hkind hplain hline
        rw [hcalm] at hown
        simpa [indentLine, hblank] using hown
      · obtain ⟨rfl, hrest⟩ := hkeeps.resolve_right fun h => hempty (h line (by simp))
        have hbehind := hframes ▸ hctx.behind_indentLine rfl hempty
        have hown := BlockChain.addLine_fencedCode hleaf hkind hrest hplain hbehind hline
        rw [hcalm] at hown
        simpa [hblank] using hown
    let next : OpenLeaf := { leaf with lines := (line ++ ['\n']) :: leaf.lines }
    have hnext : ({ chain with
        leaf := some next, lineCount := chain.lineCount + 1 } : BlockChain).leaf = some next := rfl
    have hrest := ih hnext hkind hblank hframes
      (hkeeps.imp_right fun h l hl => h l (by simp [hl]))
      (fun l hl => hclosing l (by simp [hl]))
    rw [hstep, hadd, hrest]
    simp [next, Nat.add_assoc, Nat.add_comm 1]

private theorem openingFence?_marks {mark : Char} {count : Nat} (hcount : 3 ≤ count)
    {after : List Char} (hmark : mark = '~' ∨ mark = '\x60' ∧ '\x60' ∉ after)
    (hafter : after.head?.all (· != mark)) :
    openingFence? (List.replicate count mark ++ after) = some (mark, count, after) := by
  have htake : (List.replicate count mark ++ after).takeWhile (· == mark) =
      List.replicate count mark := by
    rw [List.takeWhile_append_of_pos (by simp)]
    cases after with
    | nil => simp
    | cons c after =>
      have hc : c ≠ mark := by simpa using hafter
      simp [hc]
  have hdrop : (List.replicate count mark ++ after).dropWhile (· == mark) = after := by
    rw [List.dropWhile_append_of_pos (by simp)]
    cases after with
    | nil => rfl
    | cons c after =>
      have hc : c ≠ mark := by simpa using hafter
      simp [hc]
  obtain ⟨n, hn⟩ : ∃ n, count = n + 1 := ⟨count - 1, by omega⟩
  have hhead : List.replicate count mark ++ after =
      mark :: (List.replicate n mark ++ after) := by
    rw [hn, List.replicate_succ, List.cons_append]
  have hopens : (mark == '~' || (mark == '\x60' && !after.contains '\x60')) = true := by
    rcases hmark with rfl | ⟨rfl, hnone⟩
    · rfl
    · simpa using hnone
  rw [hhead, openingFence?, ← hhead, htake, hdrop, List.length_replicate, if_neg (by omega),
    if_pos hopens]

def fenceText (info : String) : List Char :=
  (if info = "" then [] else ' ' :: info.toList) ++ ['\n']

private theorem fenceText_head {info : String} {mark : Char} (hmark : mark = '~' ∨ mark = '\x60') :
    (fenceText info).head?.all (· != mark) = true := by
  unfold fenceText
  split
  · rcases hmark with rfl | rfl <;> decide
  · rcases hmark with rfl | rfl <;> rfl

private theorem isClosingFence_marks {mark : Char} (hmark : mark = '~' ∨ mark = '\x60')
    (count : Nat) : isClosingFence mark count (List.replicate count mark ++ ['\n']) = true := by
  have hline : ('\n' == mark) = false := by rcases hmark with rfl | rfl <;> decide
  have htake : (List.replicate count mark ++ ['\n']).takeWhile (· == mark) =
      List.replicate count mark := by
    rw [List.takeWhile_append_of_pos (by simp)]
    simp [hline]
  have hdrop : (List.replicate count mark ++ ['\n']).dropWhile (· == mark) = ['\n'] := by
    rw [List.dropWhile_append_of_pos (by simp)]
    simp [hline]
  rw [isClosingFence, htake, hdrop]
  simp
  rfl

private theorem head_marks {mark : Char} (hmark : mark = '~' ∨ mark = '\x60') {count : Nat}
    (hcount : 3 ≤ count) (after : List Char) :
    (List.replicate count mark ++ after).head?.all (!isSpaceOrTab ·) = true := by
  have hspace : isSpaceOrTab mark = false := by rcases hmark with rfl | rfl <;> rfl
  obtain ⟨n, rfl⟩ : ∃ n, count = n + 1 := ⟨count - 1, by omega⟩
  simp [List.replicate_succ, hspace]

private theorem Entry.Starts.addText_fence {entry : Entry} {before : OpenTail} {mark : Char}
    {count first : Nat} {info : String}
    (hstarts : entry.Starts before base outer
      (List.replicate count mark ++ if info = "" then [] else ' ' :: info.toList) first)
    (hcount : 3 ≤ count) (hmark : mark = '~' ∨ mark = '\x60' ∧ '\x60' ∉ info.toList)
    (hfirst : first ≤ 3) (hparagraph : before.isParagraph = false) (fuel depth : Nat)
    (maybeLazy : Bool) :
    (entry.openBlocks (fuel + 1) depth maybeLazy).addText =
      { frames := (base.settled (before.closed entry.closing)).toFrame :: outer.map Frame.calm
        leaf := some {
          kind := .fencedCode mark count (min first 1), first := entry.line
          lines := [fenceText info] }
        targets := [], lineCount := entry.line } := by
  have hmark' : mark = '~' ∨ mark = '\x60' := hmark.imp_right And.left
  have hbehind : Cursor.Behind (List.replicate count mark ++ fenceText info) entry.cursor
      first := by
    have hbehind := hstarts.behind
    rwa [List.append_assoc] at hbehind
  have hhead := head_marks hmark' hcount (fenceText info)
  have hindent : entry.cursor.indent = first :=
    hbehind.indent (show _ = List.replicate 0 ' ' ++ _ from rfl) hhead
  have hticks : '\x60' ∉ info.toList → '\x60' ∉ fenceText info := by
    unfold fenceText
    intro hinfo
    split <;> simp [hinfo]
  have hopening : openingFence? entry.cursor.text = some (mark, count, fenceText info) := by
    rw [hbehind.text, Cursor.dropWhile_of_head hhead]
    exact openingFence?_marks hcount (hmark.imp_right (And.imp_right hticks))
      (fenceText_head hmark')
  rw [hstarts.at_.openBlocks_fence hparagraph (hindent ▸ hfirst) hopening fuel depth maybeLazy,
    hstarts.at_.addText_code (.inl ⟨_, _, _, rfl⟩), hbehind.indentChars hfirst hhead]
  rfl

private theorem addIndented_closed {chain : BlockChain} {leaf : OpenLeaf}
    (hleaf : chain.leaf = some leaf) {mark : Char} {count offset : Nat}
    (hkind : leaf.kind = .fencedCode mark count offset) (hblank : leaf.blankEnd = false)
    {info : List Char} (hinfo : leaf.lines = [info])
    (hframes : chain.frames = base.toFrame :: outer) (hend : base.blankEnd = false)
    (hctx : Context base.kind outer tabs rest) (hrest : rest ≤ 3) {body : List (List Char)}
    (hkeeps : offset = rest ∧ rest ≤ 1 ∨ ∀ line ∈ body, line = [])
    (hclosing : ∀ line ∈ body,
      isClosingFence mark count ((line ++ ['\n']).dropWhile isSpaceOrTab) = false)
    (hmark : mark = '~' ∨ mark = '\x60') (hcount : 3 ≤ count) :
    chain.addIndented tabs (body ++ [List.replicate count mark]) =
      { chain with
        frames := (base.push (some ⟨.leaf (.code true (OpenLeaf.fenceInfo info)
          (body.flatMap (· ++ ['\n']))) ⟨leaf.first, chain.lineCount + body.length + 1⟩,
          false⟩)).toFrame :: outer
        leaf := none
        lineCount := chain.lineCount + body.length + 1 } := by
  have hne : List.replicate count mark ≠ [] := by
    have hpos : count ≠ 0 := by omega
    simpa using hpos
  have hbody := addIndented_fenced hleaf hkind hblank hframes hend hctx hkeeps hclosing
  let held : OpenLeaf := { leaf with lines := (body.map (· ++ ['\n'])).reverse ++ leaf.lines }
  have hbehind := hframes ▸ hctx.behind_indentLine rfl hne
  have hlines : held.lines = (info :: body.map (· ++ ['\n'])).reverse := by simp [held, hinfo]
  have hheld : ({ chain with
      leaf := some held, lineCount := chain.lineCount + body.length } : BlockChain).leaf =
      some held := rfl
  have hclose := BlockChain.addLine_closingFence hheld hkind hlines hblank hframes
    (hframes ▸ hctx.isPlain rfl) hbehind hrest (head_marks hmark hcount _)
    (isClosingFence_marks hmark count)
  rw [BlockChain.addIndented_append, hbody, List.flatMap_def]
  exact hclose

/-- The lines of a code block with fences are read as its literal, if the tabs in front of its lines
reach as far as those in front of the fence, and no more than one column too far. -/
theorem Entry.Starts.fencedCode {entry : Entry} {before : OpenTail} {line : List Char}
    {first : Nat} (hstarts : entry.Starts before base outer line first)
    {info literal : String} {body : List (List Char)} (hcode : IsCodeText info literal body)
    (hwritten : isWrittenIndented info literal = false) {fenced : Bool} {lines : List (List Char)}
    (hlines : textLines (markupText (.leaf (.codeBlock fenced info literal))) = line :: lines)
    (hkeeps : first = rest ∧ rest ≤ 1 ∨ ∀ l ∈ body, l = []) (hfirst : first ≤ 3) (hrest : rest ≤ 3)
    (hparagraph : before.isParagraph = false)
    (hctx : Context base.kind (outer.map Frame.calm) tabs rest) (fuel depth : Nat)
    (maybeLazy : Bool) :
    (((entry.openBlocks (fuel + 1) depth maybeLazy).addText).addIndented tabs lines).Ends base.kind
      (outer.map Frame.calm)
      (⟨.leaf (.code true (OpenLeaf.fenceInfo (fenceText info)) literal.toList) ⟨0, 0⟩, false⟩ ::
        before.doneIn base) .nothing := by
  obtain ⟨mark, count, hcount, hmark, hruns, htext⟩ :=
    hcode.exists_textLines_fenced hwritten fenced
  rw [hlines, List.cons_append] at htext
  obtain ⟨rfl, rfl⟩ := List.cons.inj htext
  have hopened := hstarts.addText_fence hcount hmark hfirst hparagraph fuel depth maybeLazy
  let settled := base.settled (before.closed entry.closing)
  have hsettled : Context settled.kind (outer.map Frame.calm) tabs rest := hctx
  have hoffset : min first 1 = rest ∧ rest ≤ 1 ∨ ∀ l ∈ body, l = [] :=
    hkeeps.imp_left fun h => ⟨by omega, h.2⟩
  let opened : OpenLeaf := {
    kind := .fencedCode mark count (min first 1), first := entry.line, lines := [fenceText info] }
  let start : BlockChain := {
    frames := settled.toFrame :: outer.map Frame.calm, leaf := some opened, targets := []
    lineCount := entry.line }
  have hclosed := addIndented_closed (show start.leaf = some opened from rfl) rfl rfl rfl
    (show start.frames = settled.toFrame :: outer.map Frame.calm from rfl) rfl hsettled hrest
    hoffset (fun l hl => hcode.isClosingFence_eq_false hruns hl) (hmark.imp_right And.left) hcount
  rw [← hcode.literal] at hclosed
  let made : ClosedBlock := ⟨.leaf (.code true (OpenLeaf.fenceInfo (fenceText info)) literal.toList)
    ⟨entry.line, entry.line + body.length + 1⟩, false⟩
  rw [hopened, hclosed]
  refine ⟨settled.push (some made), ⟨rfl, rfl, rfl, trivial⟩, rfl, rfl, ?_, ?_⟩
  · rw [BlockFrame.unplaced_push, ← hstarts.at_.sound.unplaced_push_closed entry.closing base]
    rfl
  · simp [OpenTail.Lively, BlockFrame.push]

private theorem addIndented_indented {chain : BlockChain} {leaf : OpenLeaf}
    (hleaf : chain.leaf = some leaf) (hkind : leaf.kind = .indentedCode)
    (hframes : chain.frames = base.toFrame :: outer) (hend : base.blankEnd = false)
    (hctx : Context base.kind outer tabs 0) (lines : List (List Char)) :
    chain.addIndented tabs (lines.map ("    ".toList ++ ·)) =
      { chain with
        leaf := some { leaf with
          lines := (lines.map (· ++ ['\n'])).reverse ++ leaf.lines
          blankEnd := (lines.getLast?.map fun line => restIsBlank (line ++ ['\n'])).getD
            leaf.blankEnd }
        lineCount := chain.lineCount + lines.length } := by
  induction lines generalizing chain leaf with
  | nil =>
    obtain ⟨frames, open?, targets, lineCount⟩ := chain
    subst hleaf
    rfl
  | cons line lines ih =>
    have hplain : ∀ frame ∈ chain.frames, frame.IsPlain := hframes ▸ hctx.isPlain rfl
    have hcalm : chain.frames.map Frame.calm = chain.frames := hframes ▸ hctx.calm_frames hend
    have hstep : chain.addIndented tabs ((line :: lines).map ("    ".toList ++ ·)) =
        (chain.addLine (indentLine tabs ("    ".toList ++ line) ++ ['\n'])).addIndented tabs
          (lines.map ("    ".toList ++ ·)) := rfl
    have hne : "    ".toList ++ line ≠ [] := by simp
    have hbehind := hframes ▸ hctx.behind_indentLine rfl hne
    rw [List.append_assoc] at hbehind
    have hadd := BlockChain.addLine_indentedCode hleaf hkind hplain hbehind
    rw [hcalm] at hadd
    let next : OpenLeaf := { leaf with
      lines := (line ++ ['\n']) :: leaf.lines, blankEnd := restIsBlank (line ++ ['\n']) }
    have hnext : ({ chain with
        leaf := some next, lineCount := chain.lineCount + 1 } : BlockChain).leaf = some next := rfl
    have hrest := ih hnext hkind hframes
    rw [hstep, hadd, hrest]
    cases hlast : lines.getLast? <;>
      simp [next, Nat.add_assoc, Nat.add_comm 1, List.getLast?_cons, hlast]

private theorem restIsBlank_of_text {line : List Char} (hchars : ∀ c ∈ line, isLineChar c = true)
    (h : line.all isSpacing = false) : restIsBlank (line ++ ['\n']) = false := by
  induction line with
  | nil => simp at h
  | cons c line ih =>
    by_cases hc : isSpaceOrTab c = true
    · have hline : line.all isSpacing = false := by simpa [isSpacing, hc] using h
      simpa [restIsBlank, hc] using ih (fun d hd => hchars d (by simp [hd])) hline
    · have hend : isLineEnd c = false := by
        have hc := hchars c (by simp)
        simp only [isLineChar, Bool.and_eq_true, Bool.not_eq_true'] at hc
        exact hc.1
      simp [restIsBlank, hc, hend]

private theorem Entry.Starts.addText_indented {entry : Entry} {before : OpenTail} {c : Char}
    {s : List Char} (hstarts : entry.Starts before base outer ("    ".toList ++ c :: s) 0)
    (hc : isSpacing c = false) (hparagraph : before.isParagraph = false) (fuel depth : Nat) :
    (entry.openBlocks (fuel + 1) depth false).addText =
      { frames := (base.settled (before.closed entry.closing)).toFrame :: outer.map Frame.calm
        leaf := some { kind := .indentedCode, first := entry.line, lines := [c :: s ++ ['\n']] }
        targets := [], lineCount := entry.line } := by
  simp only [isSpacing, Bool.or_eq_false_iff] at hc
  have hbehind : Cursor.Behind ("    ".toList ++ (c :: s ++ ['\n'])) entry.cursor 0 :=
    hstarts.behind
  have hnot (count : Nat) :
      restIsBlank (List.replicate count ' ' ++ (c :: s ++ ['\n'])) = false := by
    rw [restIsBlank, List.dropWhile_append_of_pos (by simp [isSpaceOrTab])]
    simp [hc]
  have hindent : entry.cursor.indent = 4 := by
    rw [hbehind.indent (show _ = List.replicate 4 ' ' ++ _ from rfl) (by simp [hc])]
  have hblank : entry.cursor.isBlank = false := by
    rw [hbehind.isBlank]
    exact hnot 4
  have hinner := hbehind.advanceColumns_spaces
  have hinnerBlank : (entry.cursor.advanceColumns 4).isBlank = false := by
    rw [hinner.isBlank]
    exact hnot 0
  rw [hstarts.at_.openBlocks_indented hparagraph (by omega) hblank fuel depth,
    hstarts.at_.addText_code (.inr ⟨rfl, hinnerBlank⟩), hinner.content]

private theorem yields_of_lines {info literal : String} {body : List (List Char)}
    (hcode : IsCodeText info literal body) (hwritten : isWrittenIndented info literal = true)
    {leaf : OpenLeaf} (hkind : leaf.kind = .indentedCode)
    (hlines : leaf.lines = (body.map (· ++ ['\n'])).reverse) :
    leaf.Yields (.code false [] literal.toList) := by
  intro closing
  obtain ⟨init, last, rfl, hlast⟩ := indentedCode_last hwritten hcode.literal
  have hlines : leaf.lines = (last ++ ['\n']) :: (init.map (· ++ ['\n'])).reverse := by
    simpa using hlines
  have hchars (d : Char) (hd : d ∈ last) : isLineEnd d = false := by
    have hd := hcode.chars last (by simp) d hd
    simp only [isLineChar, Bool.and_eq_true, Bool.not_eq_true'] at hd
    exact hd.1
  rw [OpenLeaf.close_indentedCode hkind hlines hchars hlast closing, hcode.literal]
  simp [List.flatMap_def]

/-- The lines of a code block that is written by indentation are read as its literal, if no tab in
front of them reaches too far. -/
theorem Entry.Starts.indentedCode {entry : Entry} {before : OpenTail} {line : List Char}
    (hstarts : entry.Starts before base outer line 0)
    {info literal : String} {body : List (List Char)} (hcode : IsCodeText info literal body)
    (hwritten : isWrittenIndented info literal = true) {fenced : Bool} {lines : List (List Char)}
    (hlines : textLines (markupText (.leaf (.codeBlock fenced info literal))) = line :: lines)
    (hkeeps : rest = 0 ∨ body.length = 1) (hparagraph : before.isParagraph = false)
    (hctx : Context base.kind (outer.map Frame.calm) tabs rest) (fuel depth : Nat) :
    ∃ leaf : OpenLeaf, leaf.kind = .indentedCode ∧
      (OpenTail.leaf leaf).result = some ⟨.leaf (.code false [] literal.toList) ⟨0, 0⟩, false⟩ ∧
      (((entry.openBlocks (fuel + 1) depth false).addText).addIndented tabs lines).Ends base.kind
        (outer.map Frame.calm) (before.doneIn base) (.leaf leaf) := by
  obtain ⟨c, s, others, rfl, hc⟩ := hcode.indented_head hwritten
  rw [hcode.textLines_indented hwritten fenced, List.map_cons] at hlines
  obtain ⟨rfl, rfl⟩ := List.cons.inj hlines
  let settled := base.settled (before.closed entry.closing)
  let opened : OpenLeaf := {
    kind := .indentedCode, first := entry.line, lines := [c :: s ++ ['\n']] }
  let start : BlockChain := {
    frames := settled.toFrame :: outer.map Frame.calm, leaf := some opened, targets := []
    lineCount := entry.line }
  let read : OpenLeaf := { opened with
    lines := (((c :: s) :: others).map (· ++ ['\n'])).reverse }
  have hopened : (entry.openBlocks (fuel + 1) depth false).addText = start :=
    hstarts.addText_indented hc hparagraph fuel depth
  -- The last line has text, so the blank lines before it are inside the code.
  have hothers : start.addIndented tabs (others.map ("    ".toList ++ ·)) =
      { start with leaf := some read, lineCount := start.lineCount + others.length } := by
    obtain ⟨init, last, hbody, hlast⟩ := indentedCode_last hwritten hcode.literal
    by_cases hothers : others = []
    · subst hothers
      rfl
    · obtain rfl : rest = 0 := hkeeps.resolve_right (by simpa using hothers)
      have hend : others.getLast? = some last := by
        have hwhole := congrArg List.getLast? hbody
        obtain ⟨l, hl⟩ : ∃ l, others.getLast? = some l := ⟨_, List.getLast?_eq_some_getLast hothers⟩
        simpa [List.getLast?_cons, hl] using hwhole
      have hmem : last ∈ (c :: s) :: others := hbody ▸ by simp
      rw [addIndented_indented (show start.leaf = some opened from rfl) rfl
        (show start.frames = settled.toFrame :: outer.map Frame.calm from rfl) rfl hctx others,
        hend]
      simp [restIsBlank_of_text (hcode.chars last hmem) hlast, read, opened]
  have hyields : read.Yields (.code false [] literal.toList) :=
    yields_of_lines hcode hwritten rfl rfl
  rw [hopened, hothers]
  exact ⟨read, rfl, OpenTail.result_leaf hyields, settled, ⟨rfl, rfl, rfl, .inr rfl, _, hyields⟩,
    rfl, rfl, hstarts.at_.sound.unplaced_push_closed entry.closing base, trivial⟩

end Markdown

end MarkdownOutline
