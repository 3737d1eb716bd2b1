import MarkdownOutline.Markdown.MarkupWriter

/-!
# Writing code blocks

A code block that stands alone is written as its lines, behind four spaces each or between two
fences that are longer than every run of their marks in it.
-/

namespace MarkdownOutline.Markdown

open Text

def isWrittenIndented (info literal : String) : Bool :=
  info.isEmpty && literal.utf8ByteSize > 2 && !literal.toList.head?.any isSpacing &&
    !(literal.toList.reverse.take 2).all isSpacing

/-- A text behind a margin on each of its lines, the first one if it starts a line. -/
private def withMargin (margin : List Char) : Bool → List Char → List Char
  | _, [] => []
  | start, c :: rest => (if start then margin else []) ++ c :: withMargin margin (c == '\n') rest

private def endsLine : Bool → List Char → Bool
  | start, [] => start
  | _, c :: rest => endsLine (c == '\n') rest

private theorem withMargin_nil (start : Bool) (s : List Char) : withMargin [] start s = s := by
  induction s generalizing start with
  | nil => rfl
  | cons c s ih => cases start <;> simp [withMargin, ih]

namespace MarkupWriter

/-- The writer has written the text and holds some line ends back. -/
private structure Wrote (writer : MarkupWriter) (margin text : List Char) (breaks : Nat)
    (lineStart : Bool) : Prop where
  output : writer.output = text.reverse
  margin : writer.margin = margin
  breaks : writer.breaks = breaks
  lineStart : writer.lineStart = lineStart
  tight : writer.tight = false
  inTable : writer.inTable = false

private theorem Wrote.endLine {writer : MarkupWriter} {margin text : List Char} {breaks : Nat}
    {start : Bool} (h : writer.Wrote margin text breaks start) :
    writer.endLine.Wrote margin text (max breaks 1) start :=
  ⟨h.output, h.margin, congrArg (max · 1) h.breaks, h.lineStart, h.tight, h.inTable⟩

private theorem Wrote.writeLiteral {writer : MarkupWriter} {margin text : List Char} {breaks : Nat}
    (h : writer.Wrote margin text breaks false) (c : Char) :
    (writer.writeLiteral c).Wrote margin (text ++ [c]) breaks (c == '\n') := by
  cases hc : c == '\n' <;> refine ⟨?_, ?_, ?_, ?_, ?_, ?_⟩ <;>
    simp [MarkupWriter.writeLiteral, writeMargin, h.output, h.margin, h.breaks, h.lineStart,
      h.tight, h.inTable, hc]

private theorem Wrote.writeMargin {writer : MarkupWriter} {margin text : List Char} {breaks : Nat}
    {start : Bool} (h : writer.Wrote margin text breaks start) :
    ({ writer.writeMargin with lineStart := false }).Wrote margin
      (text ++ if start then margin else []) breaks false := by
  cases start <;> refine ⟨?_, ?_, ?_, rfl, ?_, ?_⟩ <;>
    simp [MarkupWriter.writeMargin, h.output, h.margin, h.breaks, h.lineStart, h.tight, h.inTable]

private theorem Wrote.writeChars {writer : MarkupWriter} {margin text : List Char} {breaks : Nat}
    {start : Bool} (h : writer.Wrote margin text breaks start) (s : List Char) :
    (writer.writeChars .literal false s).Wrote margin (text ++ withMargin margin start s) breaks
      (endsLine start s) := by
  induction s generalizing writer text start with
  | nil => simpa [MarkupWriter.writeChars, withMargin, endsLine] using h
  | cons c s ih =>
    have hnext := ih (h.writeMargin.writeLiteral c)
    have hstep : writer.writeChars .literal false (c :: s) =
        MarkupWriter.writeChars .literal false s
          (({ writer.writeMargin with lineStart := false }).writeLiteral c) := by
      simp [MarkupWriter.writeChars]
    rw [hstep]
    simpa [withMargin, endsLine] using hnext

private theorem inTable_flush (writer : MarkupWriter) : writer.flush.inTable = writer.inTable := by
  by_cases h : ((if writer.tight then min writer.breaks 1 else writer.breaks) == 0) = true <;>
    simp [flush, h]

private theorem Wrote.put_flush {writer : MarkupWriter} {margin text : List Char} {start : Bool}
    (h : writer.flush.Wrote margin text 0 start) (kind : MarkupKind) {s : String} (hs : s ≠ "") :
    (writer.put kind s).Wrote margin (text ++ withMargin margin start s.toList) 0
      (endsLine start s.toList) := by
  have hinTable : writer.inTable = false := (inTable_flush writer).symm.trans h.inTable
  rw [MarkupWriter.put, if_neg (by simpa using hs), write, hinTable, Bool.and_false]
  exact h.writeChars s.toList

private theorem Wrote.put {writer : MarkupWriter} {margin text : List Char} {start : Bool}
    (h : writer.Wrote margin text 0 start) (kind : MarkupKind) (s : String) :
    (writer.put kind s).Wrote margin (text ++ withMargin margin start s.toList) 0
      (endsLine start s.toList) := by
  by_cases hs : s = ""
  · simpa [MarkupWriter.put, hs, withMargin, endsLine] using h
  · have hflush : writer.flush = writer := by
      have hbreaks := h.breaks
      cases writer
      simp_all [flush]
    have hflushed : writer.flush.Wrote margin text 0 start := by
      rw [hflush]
      exact h
    exact hflushed.put_flush kind hs

private theorem Wrote.flush_start {writer : MarkupWriter} {margin : List Char} {breaks : Nat}
    {start : Bool} (h : writer.Wrote margin [] (breaks + 1) start) :
    writer.flush.Wrote margin [] 0 true := by
  have hbreaks (n : Nat) : writeBreaks margin n [] [] = [] := by
    induction n with
    | zero => rfl
    | succ n ih => exact ih
  have houtput : writer.output = [] := h.output
  refine ⟨?_, ?_, ?_, ?_, ?_, ?_⟩ <;>
    simp [flush, h.tight, h.breaks, h.margin, houtput, h.inTable, hbreaks]

private theorem Wrote.flush_line {writer : MarkupWriter} {margin text : List Char} {start : Bool}
    (h : writer.Wrote margin text 1 start) :
    writer.flush.Wrote margin
      (if text.getLast?.all (· == '\n') then text else text ++ ['\n']) 0 true := by
  have houtput : writeBreaks margin 1 text.reverse text.reverse =
      (if text.getLast?.all (· == '\n') then text else text ++ ['\n']).reverse := by
    rw [← List.head?_reverse]
    cases hreverse : text.reverse with
    | nil => simp [writeBreaks, List.reverse_eq_nil_iff.mp hreverse]
    | cons c seen =>
      by_cases hc : c = '\n'
      · simp [writeBreaks, hc, hreverse]
      · simp [writeBreaks, hc, hreverse]
  refine ⟨?_, ?_, ?_, ?_, ?_, ?_⟩ <;>
    simp [flush, h.tight, h.breaks, h.margin, h.output, h.inTable, houtput]

end MarkupWriter

private theorem withMargin_lines (margin : List Char) {lines : List (List Char)}
    (hlines : ∀ line ∈ lines, '\n' ∉ line) :
    withMargin margin true (lines.flatMap (· ++ ['\n'])) =
      lines.flatMap (fun line => margin ++ line ++ ['\n']) := by
  have hline (line rest : List Char) (start : Bool) (h : '\n' ∉ line) :
      withMargin margin start (line ++ '\n' :: rest) =
        (if start then margin else []) ++ line ++ '\n' :: withMargin margin true rest := by
    induction line generalizing start with
    | nil => simp [withMargin]
    | cons c line ih =>
      have hc : (c == '\n') = false := by
        rw [beq_eq_false_iff_ne]
        rintro rfl
        exact h List.mem_cons_self
      rw [List.cons_append, withMargin, hc, ih false fun hmem => h (List.mem_cons_of_mem _ hmem)]
      simp
  induction lines with
  | nil => rfl
  | cons line lines ih =>
    have hrest := ih fun l hl => hlines l (List.mem_cons_of_mem _ hl)
    rw [List.flatMap_cons, List.append_assoc, List.singleton_append,
      hline line _ true (hlines line List.mem_cons_self), hrest]
    simp

private theorem flatMap_lineEnd (lines : List (List Char)) (last : List Char) :
    (lines ++ [last]).flatMap (· ++ ['\n']) = ['\n'].intercalate (lines ++ [last]) ++ ['\n'] := by
  induction lines with
  | nil => simp
  | cons line lines ih =>
    rw [List.cons_append, List.flatMap_cons, ih, List.intercalate_cons_of_ne_nil (by simp)]
    simp

private theorem dropTrailing_lines (lines : List (List Char)) (front : List Char) {c : Char}
    (hc : c ≠ '\n') :
    dropTrailing (· == '\n') ((lines ++ [front ++ [c]]).flatMap (· ++ ['\n'])) =
      ['\n'].intercalate (lines ++ [front ++ [c]]) := by
  have htext : ∃ text, ['\n'].intercalate (lines ++ [front ++ [c]]) = text ++ [c] := by
    by_cases hlines : lines = []
    · exact ⟨front, by simp [hlines]⟩
    · rw [intercalate_append _ hlines (by simp), List.intercalate_singleton, ← List.append_assoc]
      exact ⟨_, rfl⟩
  obtain ⟨text, htext⟩ := htext
  rw [flatMap_lineEnd, dropTrailing_eq, htext]
  simp [hc]

private theorem markupText_of_wrote {info literal : String} {fenced : Bool}
    {text margin : List Char} {breaks : Nat} {start : Bool}
    (h : (({} : MarkupWriter).writeCodeBlock (.codeBlock fenced info literal) {} info
      literal).Wrote margin text breaks start) :
    markupText (.leaf (.codeBlock fenced info literal)) = dropTrailing (· == '\n') text := by
  have hwritten : writeMarkup {} {} (.leaf (.codeBlock fenced info literal)) =
      ({} : MarkupWriter).writeCodeBlock (.codeBlock fenced info literal) {} info literal := by
    simp [Markup.leaf, writeMarkup, MarkupWriter.enter, MarkupWriter.leave, writesParts, writeParts,
      isList]
  rw [markupText, hwritten, h.output, List.reverse_reverse]

private theorem MarkupWriter.wrote_endBlock :
    (MarkupWriter.endBlock {}).Wrote [] [] (1 + 1) true := ⟨rfl, rfl, rfl, rfl, rfl, rfl⟩

private theorem MarkupWriter.wrote_indentedCode (kind : MarkupKind) {info literal : String}
    (h : isWrittenIndented info literal = true) :
    ∃ breaks start, (({} : MarkupWriter).writeCodeBlock kind {} info literal).Wrote []
      ("    ".toList ++ withMargin "    ".toList false literal.toList) breaks start := by
  have hspaces : "    " ≠ "" := by decide
  have hput := wrote_endBlock.flush_start.put_flush kind hspaces
  rw [withMargin_nil, List.nil_append] at hput
  let indented := ({} : MarkupWriter).endBlock.put kind "    "
  have hmargin : ({ indented with margin := indented.margin ++ "    ".toList }).Wrote
      "    ".toList "    ".toList 0 false :=
    ⟨hput.output, by rw [hput.margin]; rfl, hput.breaks, hput.lineStart, hput.tight, hput.inTable⟩
  have hliteral := hmargin.put kind literal
  have hwrite : ({} : MarkupWriter).writeCodeBlock kind {} info literal =
      ({ ({ indented with margin := indented.margin ++ "    ".toList }).put kind literal with
        margin := indented.margin } : MarkupWriter).endBlock := by
    have hparts := h
    simp only [isWrittenIndented] at hparts
    simp [writeCodeBlock, hparts, indented]
  rw [hwrite]
  exact ⟨_, _, hliteral.output, hput.margin, rfl, hliteral.lineStart, hliteral.tight,
    hliteral.inTable⟩

theorem indentedCode_last {info literal : String} (h : isWrittenIndented info literal = true)
    {lines : List (List Char)} (hliteral : literal.toList = lines.flatMap (· ++ ['\n'])) :
    ∃ init last, lines = init ++ [last] ∧ last.all isSpacing = false := by
  simp only [isWrittenIndented, Bool.and_eq_true, Bool.not_eq_true'] at h
  obtain ⟨_, hend⟩ := h
  rw [hliteral] at hend
  rcases List.eq_nil_or_concat lines with rfl | ⟨init, last, rfl⟩
  · exact absurd hend (by decide)
  · refine ⟨init, last, List.concat_eq_append, ?_⟩
    rcases List.eq_nil_or_concat last with rfl | ⟨s, c, rfl⟩
    · rcases List.eq_nil_or_concat init with rfl | ⟨first, line, rfl⟩
      · exact absurd hend (by decide)
      · simp [isSpacing, isLineEnd] at hend
    · have hc : isSpacing c = false := by simpa [isSpacing, isLineEnd] using hend
      simp [hc]

/-- A code block that is written by indentation has four spaces in front of each line. -/
theorem markupText_indentedCode {info literal : String} (fenced : Bool)
    (h : isWrittenIndented info literal = true) {lines : List (List Char)}
    (hlines : ∀ line ∈ lines, '\n' ∉ line)
    (hliteral : literal.toList = lines.flatMap (· ++ ['\n'])) :
    markupText (.leaf (.codeBlock fenced info literal)) =
      ['\n'].intercalate (lines.map ("    ".toList ++ ·)) := by
  obtain ⟨breaks, start, hwrote⟩ :=
    MarkupWriter.wrote_indentedCode (.codeBlock fenced info literal) h
  obtain ⟨init, last, hsplit, hlast⟩ := indentedCode_last h hliteral
  obtain ⟨front, c, rfl⟩ : ∃ front c, last = front ++ [c] := by
    rcases List.eq_nil_or_concat last with rfl | ⟨front, c, rfl⟩
    · simp at hlast
    · exact ⟨front, c, List.concat_eq_append⟩
  have hc : c ≠ '\n' := by
    rintro rfl
    exact hlines (front ++ ['\n']) (by simp [hsplit]) (by simp)
  have hmap : lines.map ("    ".toList ++ ·) =
      init.map ("    ".toList ++ ·) ++ ["    ".toList ++ front ++ [c]] := by simp [hsplit]
  -- The first four spaces are put by themselves, the others are the margin.
  have htext : "    ".toList ++ withMargin "    ".toList false literal.toList =
      (lines.map ("    ".toList ++ ·)).flatMap (· ++ ['\n']) := by
    have hmargin := withMargin_lines "    ".toList hlines
    rw [← hliteral] at hmargin
    have hne : literal.toList ≠ [] := by simp [hliteral, hsplit]
    obtain ⟨d, s, hs⟩ := List.exists_cons_of_ne_nil hne
    rw [List.flatMap_map, ← hmargin, hs]
    simp [withMargin]
  rw [markupText_of_wrote hwrote, htext, hmap, dropTrailing_lines _ _ hc]

private theorem length_takeWhile_le_longestRun (mark : Char) (best current : Nat) (s : List Char) :
    best ≤ longestRun mark best current s ∧
      current + (s.takeWhile (· == mark)).length ≤ longestRun mark best current s ∧
      ∀ suffix, suffix <:+ s →
        (suffix.takeWhile (· == mark)).length ≤ longestRun mark best current s := by
  -- The run that is being counted is part of the bound, so that it can grow into the text.
  induction s generalizing best current with
  | nil =>
    refine ⟨Nat.le_max_left .., Nat.le_max_right .., ?_⟩
    intro suffix hsuffix
    simp [List.suffix_nil.mp hsuffix]
  | cons c s ih =>
    by_cases hc : (c == mark) = true
    · obtain ⟨hbest, hcurrent, hsuffixes⟩ := ih best (current + 1)
      have hown : current + ((c :: s).takeWhile (· == mark)).length ≤
          longestRun mark best current (c :: s) := by
        simp only [longestRun, List.takeWhile_cons, hc, if_true, List.length_cons]
        omega
      refine ⟨by simpa [longestRun, hc] using hbest, hown, ?_⟩
      intro suffix hsuffix
      rcases List.suffix_cons_iff.mp hsuffix with rfl | hsuffix
      · exact Nat.le_trans (Nat.le_add_left _ _) hown
      · simpa [longestRun, hc] using hsuffixes suffix hsuffix
    · obtain ⟨hbest, hcurrent, hsuffixes⟩ := ih (max best current) 0
      have hmax : longestRun mark best current (c :: s) = longestRun mark (max best current) 0 s := by
        simp [longestRun, hc]
      rw [hmax]
      refine ⟨Nat.le_trans (Nat.le_max_left _ _) hbest, ?_, ?_⟩
      · simpa [List.takeWhile_cons, hc] using Nat.le_trans (Nat.le_max_right _ _) hbest
      · intro suffix hsuffix
        rcases List.suffix_cons_iff.mp hsuffix with rfl | hsuffix
        · simp [hc]
        · exact hsuffixes suffix hsuffix

private theorem MarkupWriter.Wrote.literal {writer : MarkupWriter} {text : List Char}
    {start : Bool} (h : writer.Wrote [] text 0 start)
    (htext : ¬ text.getLast?.all (· == '\n')) (kind : MarkupKind) {literal : String}
    (hliteral : literal.toList.getLast?.all (· == '\n')) :
    ((writer.endLine.put kind literal).endLine).flush.Wrote [] (text ++ '\n' :: literal.toList) 0
      true := by
  have hline := h.endLine
  by_cases hempty : literal = ""
  · have hput : writer.endLine.put kind literal = writer.endLine := by
      simp [MarkupWriter.put, hempty]
    rw [hput]
    have hflush := hline.endLine.flush_line
    simpa [htext, hempty] using hflush
  · have hput := (hline.flush_line.put_flush kind hempty).endLine.flush_line
    rw [withMargin_nil, if_neg htext] at hput
    have hlast : (text ++ ['\n'] ++ literal.toList).getLast?.all (· == '\n') := by
      rw [List.getLast?_append]
      cases hlast : literal.toList.getLast? with
      | none => simp
      | some c => simpa [hlast] using hliteral
    rw [if_pos hlast] at hput
    simpa using hput

private theorem fenceMark_ne_lineEnd {info : String} {mark : Char}
    (hmark : mark = if info.toList.contains '\x60' then '~' else '\x60') :
    (mark == '\n') = false := by
  rw [hmark]
  split <;> decide

private theorem fenceLine_getLast? {mark : Char} (hmark : (mark == '\n') = false) {count : Nat}
    (hcount : count ≠ 0) {info : String} (hinfo : '\n' ∉ info.toList) :
    ¬ (List.replicate count mark ++
      if info = "" then [] else ' ' :: info.toList).getLast?.all (· == '\n') := by
  by_cases hempty : info = ""
  · simp [hempty, List.getLast?_replicate, hcount, hmark]
  · have hchars : info.toList ≠ [] := by simpa using hempty
    obtain ⟨c, hc⟩ : ∃ c, info.toList.getLast? = some c :=
      ⟨_, List.getLast?_eq_some_getLast hchars⟩
    have hline : c ≠ '\n' := by
      rintro rfl
      exact hinfo (List.mem_of_getLast? hc)
    simp [hempty, List.getLast?_append, List.getLast?_cons, hc, hline]

private theorem MarkupWriter.wrote_fencedCode (kind : MarkupKind) {info literal : String}
    (h : isWrittenIndented info literal = false) (hinfo : '\n' ∉ info.toList)
    (hliteral : literal.toList.getLast?.all (· == '\n')) {mark : Char} {count : Nat}
    (hmark : mark = if info.toList.contains '\x60' then '~' else '\x60')
    (hcount : count = max 3 (longestRun mark 0 0 literal.toList + 1)) :
    ∃ breaks start, (({} : MarkupWriter).writeCodeBlock kind {} info literal).Wrote []
      (List.replicate count mark ++ (if info = "" then [] else ' ' :: info.toList) ++
        '\n' :: literal.toList ++ List.replicate count mark) breaks start := by
  have hfence : (String.ofList (List.replicate count mark)) ≠ "" := by
    intro hnil
    have hlist := congrArg String.toList hnil
    rw [String.toList_ofList] at hlist
    have hzero : count = 0 := by simpa using hlist
    omega
  let opened := ({} : MarkupWriter).endBlock.put kind (String.ofList (List.replicate count mark))
  have hopened : opened.Wrote [] (List.replicate count mark) 0
      (endsLine true (List.replicate count mark)) := by
    have hput := wrote_endBlock.flush_start.put_flush kind hfence
    rw [withMargin_nil, String.toList_ofList] at hput
    exact hput
  let named := if info.isEmpty then opened else (opened.put kind " ").put kind info
  have hnamed : ∃ start, named.Wrote []
      (List.replicate count mark ++ if info = "" then [] else ' ' :: info.toList) 0 start := by
    by_cases hempty : info = ""
    · exact ⟨_, by simpa [named, hempty] using hopened⟩
    · have hput := (hopened.put kind " ").put kind info
      rw [withMargin_nil, withMargin_nil, List.append_assoc] at hput
      exact ⟨_, by simpa [named, hempty] using hput⟩
  obtain ⟨start, hnamed⟩ := hnamed
  have hlast := fenceLine_getLast? (fenceMark_ne_lineEnd hmark) (by omega : count ≠ 0) hinfo
  have hclosed := (hnamed.literal hlast kind hliteral).put_flush kind hfence
  rw [withMargin_nil, String.toList_ofList] at hclosed
  have hwrite : ({} : MarkupWriter).writeCodeBlock kind {} info literal =
      (((named.endLine.put kind literal).endLine).put kind
        (String.ofList (List.replicate count mark))).endBlock := by
    have hparts := h
    simp only [isWrittenIndented] at hparts
    simp [writeCodeBlock, hparts, named, opened, hmark, hcount]
  rw [hwrite]
  exact ⟨_, _, hclosed.output, hclosed.margin, rfl, hclosed.lineStart, hclosed.tight,
    hclosed.inTable⟩

private theorem intercalate_between (first last : List Char) (lines : List (List Char)) :
    ['\n'].intercalate (first :: lines ++ [last]) =
      first ++ '\n' :: lines.flatMap (· ++ ['\n']) ++ last := by
  induction lines generalizing first with
  | nil => simp
  | cons line lines ih =>
    rw [List.cons_append, List.cons_append, List.intercalate_cons_of_ne_nil (by simp),
      ← List.cons_append, ih]
    simp

/-- A code block that is written with a fence has its lines between two lines of marks, which none
of its own lines look like. -/
theorem exists_markupText_fencedCode {info literal : String} (fenced : Bool)
    (h : isWrittenIndented info literal = false) (hinfo : '\n' ∉ info.toList)
    {lines : List (List Char)} (hliteral : literal.toList = lines.flatMap (· ++ ['\n'])) :
    ∃ mark count, 3 ≤ count ∧ (mark = '~' ∨ mark = '\x60' ∧ '\x60' ∉ info.toList) ∧
      (∀ s, s <:+ literal.toList → (s.takeWhile (· == mark)).length < count) ∧
      markupText (.leaf (.codeBlock fenced info literal)) =
        ['\n'].intercalate
          ((List.replicate count mark ++ if info = "" then [] else ' ' :: info.toList) :: lines ++
            [List.replicate count mark]) := by
  obtain ⟨mark, hmark⟩ : ∃ mark, mark = if info.toList.contains '\x60' then '~' else '\x60' :=
    ⟨_, rfl⟩
  obtain ⟨count, hcount⟩ : ∃ count, count = max 3 (longestRun mark 0 0 literal.toList + 1) :=
    ⟨_, rfl⟩
  have hend : literal.toList.getLast?.all (· == '\n') := by
    rcases List.eq_nil_or_concat lines with rfl | ⟨first, line, rfl⟩
    · simp [hliteral]
    · simp [hliteral]
  obtain ⟨breaks, start, hwrote⟩ :=
    MarkupWriter.wrote_fencedCode (.codeBlock fenced info literal) h hinfo hend hmark hcount
  refine ⟨mark, count, by omega, ?_, ?_, ?_⟩
  · by_cases htick : info.toList.contains '\x60' = true
    · exact .inl (by rw [hmark, if_pos htick])
    · refine .inr ⟨by rw [hmark, if_neg htick], ?_⟩
      simpa using htick
  · intro s hs
    have hrun := (length_takeWhile_le_longestRun mark 0 0 literal.toList).2.2 s hs
    omega
  · rw [markupText_of_wrote hwrote]
    have hlast : ∃ text, List.replicate count mark = text ++ [mark] := by
      obtain ⟨n, rfl⟩ : ∃ n, count = n + 1 := ⟨count - 1, by omega⟩
      exact ⟨_, List.replicate_succ'⟩
    obtain ⟨text, hlast⟩ := hlast
    rw [intercalate_between, ← hliteral, hlast, ← List.append_assoc]
    exact dropTrailing_concat (p := (· == '\n')) (fenceMark_ne_lineEnd hmark) _

end MarkdownOutline.Markdown
