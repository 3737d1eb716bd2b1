/-!
# White space

White space as Unicode has it, the removal of white space from the ends of a text, and the parts
and lines of a text.
-/

namespace MarkdownOutline.Text

/-- White space of any script. -/
def isBlank (c : Char) : Bool :=
  ('\t' ≤ c && c ≤ '\r') || c == ' ' || c == '\u0085' || c == '\u00a0' || c == '\u1680' ||
    ('\u2000' ≤ c && c ≤ '\u200a') || c == '\u2028' || c == '\u2029' || c == '\u202f' ||
    c == '\u205f' || c == '\u3000'

/-- The list without its longest ending of elements that satisfy `p`. -/
def dropTrailing {α : Type} (p : α → Bool) : List α → List α
  | [] => []
  | a :: rest =>
    match dropTrailing p rest with
    | [] => if p a then [] else [a]
    | kept => a :: kept

theorem dropTrailing_eq {α : Type} (p : α → Bool) (l : List α) :
    dropTrailing p l = (l.reverse.dropWhile p).reverse := by
  induction l with
  | nil => rfl
  | cons a rest ih =>
    rw [dropTrailing, ih, List.reverse_cons, List.dropWhile_append]
    cases hkept : rest.reverse.dropWhile p with
    | nil => cases hp : p a <;> simp [hp]
    | cons b kept => simp

theorem exists_dropTrailing_append {α : Type} (p : α → Bool) (l : List α) :
    ∃ dropped, dropTrailing p l ++ dropped = l ∧ ∀ a ∈ dropped, p a = true := by
  refine ⟨(l.reverse.takeWhile p).reverse, ?_, fun a ha => ?_⟩
  · rw [dropTrailing_eq, ← List.reverse_append, List.takeWhile_append_dropWhile,
      List.reverse_reverse]
  · exact List.all_eq_true.mp List.all_takeWhile a (List.mem_reverse.mp ha)

theorem dropTrailing_concat {α : Type} {p : α → Bool} {last : α} (h : p last = false)
    (l : List α) : dropTrailing p (l ++ [last]) = l ++ [last] := by
  simp [dropTrailing_eq, h]

def trimEnd (s : List Char) : List Char := dropTrailing isBlank s

/-- The text without characters that satisfy `p` at either end. -/
def trimBy (p : Char → Bool) (s : List Char) : List Char := dropTrailing p (s.dropWhile p)

/-- The parts of a text between the places where `mark` stands. There is one more part than there
are marks. -/
def splitAt (mark : Char) : List Char → List (List Char)
  | [] => [[]]
  | c :: rest =>
    if c == mark then [] :: splitAt mark rest
    else match splitAt mark rest with
      | [] => [[c]]
      | part :: parts => (c :: part) :: parts

theorem splitAt_eq_splitOn (mark : Char) (s : List Char) : splitAt mark s = s.splitOn mark := by
  induction s with
  | nil => rfl
  | cons c rest ih =>
    rw [splitAt, ih, List.splitOn_cons_eq_if_modifyHead]
    cases hparts : rest.splitOn mark with
    | nil => exact absurd hparts (List.splitOn_ne_nil mark rest)
    | cons part parts => rfl

theorem intercalate_append {α : Type} (mark : List α) {first second : List (List α)}
    (hfirst : first ≠ []) (hsecond : second ≠ []) :
    mark.intercalate (first ++ second) =
      mark.intercalate first ++ mark ++ mark.intercalate second := by
  induction first with
  | nil => exact absurd rfl hfirst
  | cons part parts ih =>
    cases parts with
    | nil =>
      rw [List.singleton_append, List.intercalate_cons_of_ne_nil hsecond,
        List.intercalate_singleton]
    | cons next parts =>
      have hrest := ih (by simp)
      rw [List.cons_append] at hrest
      rw [List.cons_append, List.cons_append, List.intercalate_cons_cons, hrest,
        List.intercalate_cons_cons]
      simp only [List.append_assoc]

theorem mem_of_mem_splitAt {mark c : Char} {s part : List Char} (hpart : part ∈ splitAt mark s)
    (hc : c ∈ part) : c ∈ s ∧ c ≠ mark := by
  induction s generalizing part with
  | nil =>
    obtain rfl : part = [] := by simpa [splitAt] using hpart
    simp at hc
  | cons d s ih =>
    unfold splitAt at hpart
    by_cases hd : d = mark
    · rw [if_pos (by simp [hd])] at hpart
      rcases List.mem_cons.mp hpart with rfl | hpart
      · simp at hc
      · exact ⟨List.mem_cons_of_mem _ (ih hpart hc).1, (ih hpart hc).2⟩
    · rw [if_neg (by simp [hd])] at hpart
      cases hparts : splitAt mark s with
      | nil => exact absurd (splitAt_eq_splitOn mark s ▸ hparts) (List.splitOn_ne_nil mark s)
      | cons first parts =>
        simp only [hparts, List.mem_cons] at hpart
        rcases hpart with rfl | hpart
        · rcases List.mem_cons.mp hc with rfl | hc
          · exact ⟨List.mem_cons_self, hd⟩
          · have hfirst := ih (by simp [hparts]) hc
            exact ⟨List.mem_cons_of_mem _ hfirst.1, hfirst.2⟩
        · have hrest := ih (by simp [hparts, hpart]) hc
          exact ⟨List.mem_cons_of_mem _ hrest.1, hrest.2⟩

/-- The lines of a text, each with a line feed at its end. A line ends with a line feed, a carriage
return, or the two in this order; the rest of a text without an end is a line too. -/
def splitLines : List Char → List (List Char)
  | [] => []
  | '\r' :: '\n' :: rest => ['\n'] :: splitLines rest
  | c :: rest =>
    if c == '\n' || c == '\r' then ['\n'] :: splitLines rest
    else match splitLines rest with
      | [] => [[c, '\n']]
      | line :: lines => (c :: line) :: lines

/-- The lines of a text by line feeds alone, without their ends. A carriage return before a line
feed belongs to the end, and a final line feed opens no further line. -/
def lineContents : List Char → List (List Char)
  | [] => []
  | '\n' :: rest => [] :: lineContents rest
  | '\r' :: '\n' :: rest => [] :: lineContents rest
  | c :: rest =>
    match lineContents rest with
    | [] => [[c]]
    | line :: lines => (c :: line) :: lines

end MarkdownOutline.Text
