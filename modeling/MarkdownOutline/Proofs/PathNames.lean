import MarkdownOutline.Proofs.FileTree

/-!
# Names joined to paths

A name joined to the path of a folder is a name in that folder, and the folder around a file is the
one that its path without the name leads to.
-/

namespace MarkdownOutline

open Text

namespace Path

theorem joinParts_eq_intercalate (parts : List (List Char)) :
    joinParts parts = ['/'].intercalate parts := by
  induction parts with
  | nil => rfl
  | cons part rest ih =>
    cases rest with
    | nil => rw [joinParts, List.intercalate_singleton]
    | cons next rest =>
      rw [List.intercalate_cons_of_ne_nil (by simp), joinParts, ih, List.append_assoc]
      · rfl
      · simp

theorem joinParts_append {first second : List (List Char)} (hfirst : first ≠ [])
    (hsecond : second ≠ []) :
    joinParts (first ++ second) = joinParts first ++ '/' :: joinParts second := by
  simp only [joinParts_eq_intercalate, intercalate_append _ hfirst hsecond, List.append_assoc]
  rfl

theorem joinParts_parts (path : Path) : joinParts path.parts = path.text.toList := by
  rw [parts, splitAt_eq_splitOn, joinParts_eq_intercalate, List.intercalate_splitOn]

def partSteps (parts : List (List Char)) : List String :=
  (parts.filter (!·.isEmpty)).map String.ofList

def stepsOf (text : List Char) : List String := partSteps (splitAt '/' text)

theorem steps_eq (path : Path) : path.steps = stepsOf path.text.toList := rfl

theorem partSteps_append (first second : List (List Char)) :
    partSteps (first ++ second) = partSteps first ++ partSteps second := by
  simp [partSteps]

theorem stepsOf_joinParts {parts : List (List Char)} (hparts : parts ≠ [])
    (h : ∀ part ∈ parts, '/' ∉ part) : stepsOf (joinParts parts) = partSteps parts := by
  rw [stepsOf, splitAt_eq_splitOn, joinParts_eq_intercalate, List.splitOn_intercalate _ h hparts]

theorem stepsOf_append_slash (first second : List Char) :
    stepsOf (first ++ '/' :: second) = stepsOf first ++ stepsOf second := by
  rw [stepsOf, stepsOf, stepsOf, splitAt_eq_splitOn, splitAt_eq_splitOn, splitAt_eq_splitOn,
    List.splitOn_append_cons_self, partSteps_append]

theorem stepsOf_plainName {name : String} (h : IsPlainName name) :
    stepsOf name.toList = [name] := by
  have hne : name.toList.isEmpty = false := by simpa using h.nonempty
  rw [stepsOf, splitAt_eq_splitOn, List.splitOn_eq_singleton h.noSlash]
  simp [partSteps, hne]

theorem join_eq {folder : Path} {name : String} (h : IsPlainName name) :
    folder.join name =
      if folder.text.isEmpty || folder.endsInSlash then ⟨folder.text ++ name⟩
      else ⟨folder.text ++ "/" ++ name⟩ := by
  rw [join, if_neg]
  intro habsolute
  cases hname : name.toList with
  | nil => simp [isAbsolute, hname] at habsolute
  | cons c rest =>
    obtain rfl : c = '/' := by simpa [isAbsolute, hname] using habsolute
    exact h.noSlash (by simp [hname])

theorem join_text_ne_empty (folder : Path) {name : String} (h : name ≠ "") :
    (folder.join name).text ≠ "" := by
  unfold join
  split
  · exact h
  split <;> simp [String.append_eq_empty_iff, h]

theorem steps_join (folder : Path) {name : String} (h : IsPlainName name) :
    (folder.join name).steps = folder.steps ++ [name] := by
  rw [join_eq h]
  by_cases hempty : folder.text.isEmpty
  · have htext : folder.text = "" := by simpa using hempty
    rw [if_pos (by simp [hempty]), steps_eq, steps_eq, htext, String.empty_append,
      stepsOf_plainName h]
    rfl
  by_cases hslash : folder.endsInSlash
  · obtain ⟨front, hfront⟩ : ∃ front, folder.text.toList = front ++ ['/'] := by
      rw [endsInSlash, beq_iff_eq] at hslash
      exact List.getLast?_eq_some_iff.mp hslash
    have hend : stepsOf folder.text.toList = stepsOf front := by
      rw [hfront, stepsOf_append_slash]
      simp [stepsOf, splitAt, partSteps]
    rw [if_pos (by simp [hslash]), steps_eq, steps_eq, hend, String.toList_append, hfront,
      List.append_assoc, List.singleton_append, stepsOf_append_slash, stepsOf_plainName h]
  · have htext : (folder.text ++ "/" ++ name).toList = folder.text.toList ++ '/' :: name.toList := by
      simp [String.toList_append]
    rw [if_neg (by simp [hempty, hslash]), steps_eq, steps_eq, htext, stepsOf_append_slash,
      stepsOf_plainName h]

theorem isAbsolute_join {folder : Path} (hfolder : folder.text ≠ "") {name : String}
    (h : IsPlainName name) : (folder.join name).isAbsolute = folder.isAbsolute := by
  rw [join_eq h]
  cases hchars : folder.text.toList with
  | nil => exact absurd (String.toList_eq_nil_iff.mp hchars) hfolder
  | cons c rest => split <;> simp [isAbsolute, hchars]

theorem isAbsolute_plainName {name : String} (h : IsPlainName name) :
    isAbsolute ⟨name⟩ = false := by
  cases hname : name.toList with
  | nil => simp [isAbsolute, hname]
  | cons c rest =>
    have hc : c ≠ '/' := fun hc => h.noSlash (by simp [hname, hc])
    simp [isAbsolute, hname, hc]

theorem endsInSlash_join (folder : Path) {name : String} (h : IsPlainName name) :
    (folder.join name).endsInSlash = false := by
  cases hlast : name.toList.getLast? with
  | none => exact absurd (by simpa using hlast) h.nonempty
  | some last =>
    have hne : last ≠ '/' := by
      rintro rfl
      exact h.noSlash (List.mem_of_getLast? hlast)
    rw [join_eq h]
    split <;> simp [endsInSlash, List.getLast?_cons, hlast, hne]

theorem text_prefix_join (folder : Path) {name : String} (h : IsPlainName name) :
    folder.text.toList <+: (folder.join name).text.toList := by
  rw [join_eq h]
  split
  · exact ⟨name.toList, by simp⟩
  · exact ⟨'/' :: name.toList, by simp⟩

theorem isAbsolute_of_parts {path : Path} {first : List Char} {rest : List (List Char)}
    (hparts : path.parts = first :: rest) (hpath : path.text ≠ "") :
    path.isAbsolute = first.isEmpty := by
  rw [parts] at hparts
  cases hchars : path.text.toList with
  | nil => exact absurd (String.toList_eq_nil_iff.mp hchars) hpath
  | cons c chars =>
    rw [hchars, splitAt] at hparts
    by_cases hc : c = '/'
    · obtain ⟨rfl, -⟩ : [] = first ∧ splitAt '/' chars = rest := by simpa [hc] using hparts
      simp [isAbsolute, hchars, hc]
    · cases hrest : splitAt '/' chars with
      | nil =>
        obtain ⟨rfl, -⟩ : [c] = first ∧ [] = rest := by simpa [hc, hrest] using hparts
        simp [isAbsolute, hchars, hc]
      | cons part parts =>
        obtain ⟨rfl, -⟩ : c :: part = first ∧ parts = rest := by simpa [hc, hrest] using hparts
        simp [isAbsolute, hchars, hc]

/-- The text of the path around a part that stands behind others. -/
def textAbove (first : List Char) (above : List (List Char)) : List Char :=
  if first.isEmpty && above.isEmpty then ['/'] else joinParts (first :: above)

theorem parent?_of_last {path : Path} {first last : List Char} {middle : List (List Char)}
    (hparts : path.parts = first :: (middle ++ [last])) (hlast : isIdlePart last = false) :
    ∃ above idle, middle = above ++ idle ∧ (∀ part ∈ idle, isIdlePart part = true) ∧
      path.parent? = some ⟨String.ofList (textAbove first above)⟩ := by
  obtain ⟨idle, hmiddle, hidle⟩ := exists_dropTrailing_append isIdlePart middle
  refine ⟨_, idle, hmiddle.symm, hidle, ?_⟩
  rw [parent?, hparts]
  simp only [dropTrailing_concat hlast]
  cases hconcat : middle ++ [last] with
  | nil => simp at hconcat
  | cons next rest =>
    simp only [← hconcat, List.dropLast_concat, textAbove]
    split <;> rfl

theorem stepsOf_textAbove {first : List Char} {above : List (List Char)}
    (h : ∀ part ∈ first :: above, '/' ∉ part) :
    stepsOf (textAbove first above) = partSteps (first :: above) := by
  unfold textAbove
  split
  · rename_i hempty
    simp only [Bool.and_eq_true, List.isEmpty_iff] at hempty
    obtain ⟨rfl, rfl⟩ := hempty
    rfl
  · exact stepsOf_joinParts (by simp) h

theorem isAbsolute_textAbove {first : List Char} {above : List (List Char)}
    (h : '/' ∉ first) : isAbsolute ⟨String.ofList (textAbove first above)⟩ = first.isEmpty := by
  unfold textAbove
  cases first with
  | nil => cases above <;> simp [isAbsolute, joinParts]
  | cons c rest =>
    have hc : c ≠ '/' := fun hc => h (by simp [hc])
    cases above <;> simp [isAbsolute, joinParts, hc]

theorem textAbove_prefix (first : List Char) (above : List (List Char))
    {below : List (List Char)} (h : below ≠ []) :
    textAbove first above <+: joinParts (first :: (above ++ below)) := by
  unfold textAbove
  split
  · rename_i hempty
    simp only [Bool.and_eq_true, List.isEmpty_iff] at hempty
    obtain ⟨rfl, rfl⟩ := hempty
    exact ⟨joinParts below, (joinParts_append (List.cons_ne_nil [] []) h).symm⟩
  · rw [← List.cons_append, joinParts_append (by simp) h]
    exact List.prefix_append _ _

theorem textAbove_ne_nil (first : List Char) (above : List (List Char)) :
    textAbove first above ≠ [] := by
  unfold textAbove
  cases first <;> cases above <;> simp [joinParts]

end Path

namespace FileSystem

/-- Names joined to the path are names in the folder at the location. The empty path leads nowhere,
and names joined to it are names in the current folder. -/
def Opens (fs : FileSystem) (path : Path) (location : Location) : Prop :=
  path.text = "" ∧ location = fs.current ∨ fs.find path = .ok (location, .folder)

theorem Followable.ofPrefix {path longer : Path} (h : Followable longer)
    (hfront : path.text.toList <+: longer.text.toList) (hpath : path.text ≠ "") :
    Followable path := by
  obtain ⟨rest, hrest⟩ := hfront
  have htext : longer.text = path.text ++ String.ofList rest := by
    rw [← String.toList_inj, String.toList_append, String.toList_ofList, hrest]
  have hshort := h.short
  rw [htext, String.utf8ByteSize_append] at hshort
  exact ⟨fun hmem => h.noNul (hrest ▸ List.mem_append_left _ hmem), hpath, by omega⟩

theorem Opens.follow {fs : FileSystem} {folder : Path} {location : Location}
    (h : fs.Opens folder location) {name : String} (hname : IsPlainName name) :
    fs.follow (fs.base (folder.join name)) (folder.join name).steps =
      .ok ⟨location, some name⟩ := by
  rw [Path.steps_join folder hname, follow_concat]
  rcases h with ⟨htext, rfl⟩ | hfind
  · have hsteps : folder.steps = [] := by
      rw [Path.steps_eq, htext]
      rfl
    have hjoin : folder.join name = ⟨name⟩ := by simp [Path.join_eq hname, htext]
    rw [hsteps, hjoin, base, Path.isAbsolute_plainName hname]
    exact fs.follow_plainName _ hname
  · obtain ⟨hfolder, henter⟩ := find_eq_folder_iff.mp hfind
    rw [base, Path.isAbsolute_join hfolder.nonempty hname, ← base, henter]
    exact fs.follow_plainName _ hname

theorem opens_of_place_join {fs : FileSystem} {folder : Path} {name : String} {place : Place}
    (hname : IsPlainName name) (h : fs.place (folder.join name) = .ok place) :
    ∃ location, fs.Opens folder location ∧ place = ⟨location, some name⟩ := by
  have hjoin := followable_of_place h
  rw [hjoin.place] at h
  by_cases htext : folder.text = ""
  · have hopens : fs.Opens folder fs.current := .inl ⟨htext, rfl⟩
    rw [hopens.follow hname] at h
    exact ⟨_, hopens, (Except.ok.inj h).symm⟩
  rw [base, Path.isAbsolute_join htext hname, ← base, Path.steps_join folder hname, follow_concat,
    Except.bind_eq_ok_iff] at h
  obtain ⟨location, henter, hfollow⟩ := h
  rw [fs.follow_plainName _ hname] at hfollow
  exact ⟨location, .inr (find_eq_folder_iff.mpr
    ⟨hjoin.ofPrefix (Path.text_prefix_join folder hname) htext, henter⟩), (Except.ok.inj hfollow).symm⟩

theorem Opens.unique {fs : FileSystem} {folder : Path} {location other : Location}
    (h : fs.Opens folder location) (hother : fs.Opens folder other) : location = other := by
  rcases h with ⟨htext, rfl⟩ | hfind <;> rcases hother with ⟨htext', rfl⟩ | hfind'
  · rfl
  · exact absurd htext (followable_of_find hfind').nonempty
  · exact absurd htext' (followable_of_find hfind).nonempty
  · rw [hfind] at hfind'
    exact (Prod.mk.inj (Except.ok.inj hfind')).1

/-- What is written to a name joined to a path stands in the folder of the path. -/
theorem targets_join_iff {fs : FileSystem} {folder : Path} {name : String} {location : Location}
    (hname : IsPlainName name) (hopens : fs.Opens folder location) {place : Location} :
    fs.Targets (folder.join name) place ↔ Followable (folder.join name) ∧
      name.utf8ByteSize ≤ maxNameBytes ∧ place = name :: location := by
  constructor
  · rintro ⟨_, name', around, rfl, hshort, hplace⟩
    obtain ⟨location', hopens', hplace'⟩ := opens_of_place_join hname hplace
    obtain ⟨rfl, rfl⟩ : around = location' ∧ name' = name := by simpa using hplace'
    exact ⟨followable_of_place hplace, hshort, by rw [hopens.unique hopens']⟩
  · rintro ⟨hjoin, hshort, rfl⟩
    exact ⟨Path.endsInSlash_join folder hname, name, location, rfl, hshort,
      by rw [hjoin.place, hopens.follow hname]⟩

theorem Opens.join {fs : FileSystem} {folder : Path} {location : Location}
    (h : fs.Opens folder location) {name : String} (hname : IsPlainName name) {place : Location}
    {entry : Entry} (hfind : fs.find (folder.join name) = .ok (place, entry)) :
    place = name :: location := by
  rcases find_eq_ok_iff.mp hfind with ⟨hplace, -⟩ | ⟨name', around, rfl, hplace, -⟩
  · obtain ⟨_, _, hplace'⟩ := opens_of_place_join hname hplace
    simp at hplace'
  · obtain ⟨location', hopens, hplace'⟩ := opens_of_place_join hname hplace
    obtain ⟨rfl, rfl⟩ : around = location' ∧ name' = name := by simpa using hplace'
    rw [h.unique hopens]

theorem kind?_join_eq_none {fs : FileSystem} {folder : Path} {location : Location} {name : String}
    (hopens : fs.Opens folder location) (hname : IsPlainName name)
    (hnew : fs.entry? (name :: location) = none) : fs.kind? (folder.join name) = none := by
  unfold kind?
  split
  · rename_i place entry hfind
    have hplace := hopens.join hname hfind
    rcases find_eq_ok_iff.mp hfind with ⟨hfolder, -⟩ | ⟨child, within, heq, -, hnamed, -⟩
    · obtain ⟨_, _, hjoin⟩ := opens_of_place_join hname hfolder
      simp at hjoin
    · have hentry := (named_eq_ok_iff.mp hnamed).2
      rw [← heq, hplace, hnew] at hentry
      simp at hentry
  · rfl

theorem KeepsFolders.opens {fs fs' : FileSystem} (h : KeepsFolders fs fs') {folder : Path}
    {location : Location} (hopens : fs.Opens folder location) : fs'.Opens folder location := by
  rcases hopens with ⟨htext, rfl⟩ | hfind
  · exact .inl ⟨htext, h.current.symm⟩
  · exact .inr (h.find hfind)

theorem enterAll_idle {fs : FileSystem} (folder : Location) {parts : List (List Char)}
    (h : ∀ part ∈ parts, isIdlePart part = true) :
    fs.enterAll folder (Path.partSteps parts) = .ok folder := by
  induction parts with
  | nil => rfl
  | cons part parts ih =>
    have hrest := ih fun p hp => h p (List.mem_cons_of_mem _ hp)
    by_cases hempty : part.isEmpty
    · simpa [Path.partSteps, hempty] using hrest
    · obtain rfl : part = ['.'] := by
        have hidle := h part List.mem_cons_self
        simpa [isIdlePart, hempty] using hidle
      exact hrest

theorem eq_of_follow_name {fs : FileSystem} {folder around : Location} {step name : String}
    (h : fs.follow folder [step] = .ok ⟨around, some name⟩) : step = name ∧ folder = around := by
  unfold follow at h
  split at h
  · simp at h
  split at h
  · simp at h
  · simpa [and_comm] using h

theorem Targets.parts_eq {fs : FileSystem} {source : Path} {place : Location}
    (h : fs.Targets source place) :
    ∃ name around front, place = name :: around ∧ source.parts = front ++ [name.toList] ∧
      isIdlePart name.toList = false ∧ name ≠ ".." ∧
      fs.enterAll (fs.base source) (Path.partSteps front) = .ok around := by
  obtain ⟨hslash, name, around, rfl, -, hplace⟩ := h
  have hsource := followable_of_place hplace
  rw [hsource.place] at hplace
  have hsteps : source.steps = Path.partSteps source.parts := rfl
  rcases List.eq_nil_or_concat source.parts with hparts | ⟨front, last, hparts⟩
  · simp [hsteps, hparts, Path.partSteps, follow] at hplace
  rw [List.concat_eq_append] at hparts
  have hlast : last.isEmpty = false := by
    cases last with
    | cons c chars => rfl
    | nil =>
      have htext := Path.joinParts_parts source
      rw [hparts] at htext
      cases front with
      | nil => exact absurd (String.toList_eq_nil_iff.mp htext.symm) hsource.nonempty
      | cons first middle =>
        rw [Path.joinParts_append (by simp) (by simp)] at htext
        simp [Path.endsInSlash, ← htext, Path.joinParts] at hslash
  have hlastSteps : Path.partSteps [last] = [String.ofList last] := by
    simp [Path.partSteps, hlast]
  rw [hsteps, hparts, Path.partSteps_append, hlastSteps, follow_concat,
    Except.bind_eq_ok_iff] at hplace
  obtain ⟨location, henter, hfollow⟩ := hplace
  obtain ⟨rfl, rfl⟩ := eq_of_follow_name hfollow
  refine ⟨String.ofList last, location, front, rfl, by simpa using hparts, ?_, ?_, henter⟩
  · rw [String.toList_ofList, isIdlePart, hlast, Bool.false_or, beq_eq_false_iff_ne]
    rintro rfl
    simp [follow] at hfollow
  · intro hdots
    simp [hdots, follow] at hfollow

/-- The path around a file opens the folder that the file is in. -/
theorem Targets.opens_parent {fs : FileSystem} {source parent : Path} {place : Location}
    (h : fs.Targets source place) (hparent : source.parent? = some parent) :
    ∃ name around, place = name :: around ∧ fs.Opens parent around := by
  obtain ⟨name, around, front, rfl, hparts, hidle, -, henter⟩ := h.parts_eq
  refine ⟨name, around, rfl, ?_⟩
  obtain ⟨-, _, _, -, -, hplace⟩ := h
  have hsource := followable_of_place hplace
  cases front with
  | nil =>
    have hname : name.toList.isEmpty = false := by
      cases hchars : name.toList <;> simp_all [isIdlePart]
    obtain rfl : parent = ⟨""⟩ := by
      simpa [Path.parent?, hparts, dropTrailing, hname, eq_comm] using hparent
    have habsolute := Path.isAbsolute_of_parts (show source.parts = [name.toList] from hparts)
      hsource.nonempty
    have haround : fs.current = around := by
      simpa [base, habsolute, hname, Path.partSteps, enterAll, pure, Except.pure] using henter
    exact .inl ⟨rfl, haround.symm⟩
  | cons first middle =>
    have habsolute := Path.isAbsolute_of_parts hparts hsource.nonempty
    obtain ⟨above, idle, rfl, hidles, hparent'⟩ := Path.parent?_of_last hparts hidle
    obtain rfl : ⟨String.ofList (Path.textAbove first above)⟩ = parent := by
      simpa [hparent'] using hparent
    have hslashes : ∀ part ∈ first :: above, '/' ∉ part := by
      intro part hpart hmem
      have hsourcePart : part ∈ source.parts := by
        rw [hparts]
        rcases List.mem_cons.mp hpart with rfl | hpart <;> simp [*]
      exact (mem_of_mem_splitAt hsourcePart hmem).2 rfl
    have hfront : Path.textAbove first above <+: source.text.toList := by
      rw [← Path.joinParts_parts, hparts, List.cons_append, List.append_assoc]
      exact Path.textAbove_prefix first above (by simp)
    refine .inr (find_eq_folder_iff.mpr ⟨hsource.ofPrefix ?_ ?_, ?_⟩)
    · simpa using hfront
    · simpa using Path.textAbove_ne_nil first above
    · rw [base, Path.isAbsolute_textAbove (hslashes first List.mem_cons_self), ← habsolute, ← base,
        Path.steps_eq, String.toList_ofList, Path.stepsOf_textAbove hslashes]
      rw [← List.cons_append, Path.partSteps_append, enterAll_append, Except.bind_eq_ok_iff] at henter
      obtain ⟨folder, henter, hidleSteps⟩ := henter
      rw [enterAll_idle folder hidles] at hidleSteps
      exact Except.ok.inj hidleSteps ▸ henter

theorem Targets.name?_eq {fs : FileSystem} {source : Path} {place : Location}
    (h : fs.Targets source place) :
    ∃ name around, place = name :: around ∧ source.name? = some name.toList ∧
      IsPlainName name := by
  obtain ⟨name, around, front, rfl, hparts, hidle, hdots, -⟩ := h.parts_eq
  have hdots' : name.toList ≠ ['.', '.'] := fun h => hdots (String.toList_inj.mp h)
  have hpart : name.toList ∈ source.parts := by simp [hparts]
  refine ⟨name, around, rfl, ?_, ?_, ?_, hdots, fun hmem => (mem_of_mem_splitAt hpart hmem).2 rfl⟩
  · rw [Path.name?, hparts]
    cases front with
    | nil => simp [dropTrailing, hidle, hdots']
    | cons first middle => simp [dropTrailing_concat hidle, hidle, hdots']
  · rintro rfl
    simp [isIdlePart] at hidle
  · rintro rfl
    simp [isIdlePart] at hidle

theorem Targets.isPlainName_stem {fs : FileSystem} {source : Path} {place : Location}
    (h : fs.Targets source place) (hdot : source.stem ≠ ".") (hdots : source.stem ≠ "..") :
    IsPlainName source.stem := by
  obtain ⟨name, around, -, hname, hplain⟩ := h.name?_eq
  have hbefore : ∀ c ∈ Path.beforeLastDot name.toList, c ∈ name.toList := by
    intro c hc
    rw [Path.beforeLastDot, List.mem_reverse] at hc
    exact List.mem_reverse.mp ((List.dropWhile_sublist _).mem (List.mem_of_mem_drop hc))
  have hstem : source.stem = name ∨ source.stem.toList = Path.beforeLastDot name.toList ∧
      Path.beforeLastDot name.toList ≠ [] := by
    rw [Path.stem, hname]
    by_cases hempty : (Path.beforeLastDot name.toList).isEmpty
    · simp [hempty]
    · exact .inr ⟨by simp [hempty], by simpa using hempty⟩
  rcases hstem with hstem | ⟨hstem, hne⟩
  · exact hstem ▸ hplain
  · refine ⟨?_, hdot, hdots, fun hmem => hplain.noSlash (hbefore '/' (hstem ▸ hmem))⟩
    exact fun hempty => hne (by rw [← hstem, hempty]; rfl)

end FileSystem

end MarkdownOutline
