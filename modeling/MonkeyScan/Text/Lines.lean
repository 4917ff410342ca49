/-!
Lines. A text is cut at its line feeds, so that there is one line more than there are line feeds;
lines that each end with a line feed are found again. Texts that are read from outside first get
uniform line ends: a carriage return, with the line feed behind it if there is one, becomes one line
feed.
-/

namespace MonkeyScan.Text

/-- The lines of a text, without their line feeds; never none. -/
def lines : List Char → List (List Char)
  | [] => [[]]
  | c :: cs =>
    if c = '\n' then [] :: lines cs
    else match lines cs with
      | [] => [[c]]
      | l :: ls => (c :: l) :: ls

/-- A text with a line feed for every line end. -/
def uniformLines : List Char → List Char
  | [] => []
  | '\r' :: '\n' :: cs => '\n' :: uniformLines cs
  | c :: cs => (if c = '\r' then '\n' else c) :: uniformLines cs

/-- A text without the run of characters of a class at its end. -/
def dropTrailing (p : Char → Bool) (cs : List Char) : List Char :=
  (cs.reverse.dropWhile p).reverse

theorem lines_ne_nil (cs : List Char) : lines cs ≠ [] := by
  cases cs with
  | nil => simp [lines]
  | cons c cs =>
    unfold lines
    split
    · simp
    · split <;> simp

@[simp] theorem lines_lineFeed (cs : List Char) : lines ('\n' :: cs) = [] :: lines cs := by
  simp [lines]

theorem lines_cons_of_ne {c : Char} (h : c ≠ '\n') (cs : List Char) :
    ∃ l ls, lines cs = l :: ls ∧ lines (c :: cs) = (c :: l) :: ls := by
  obtain ⟨l, ls, split⟩ := List.exists_cons_of_ne_nil (lines_ne_nil cs)
  exact ⟨l, ls, split, by rw [lines, if_neg h, split]⟩

theorem lines_append_lineFeed (cs ds : List Char) :
    lines (cs ++ '\n' :: ds) = lines cs ++ lines ds := by
  induction cs with
  | nil => exact lines_lineFeed ds
  | cons c cs ih =>
    by_cases feed : c = '\n'
    · subst feed
      rw [List.cons_append, lines_lineFeed, lines_lineFeed, ih, List.cons_append]
    · obtain ⟨l, ls, split, split'⟩ := lines_cons_of_ne feed cs
      obtain ⟨m, ms, whole, whole'⟩ := lines_cons_of_ne feed (cs ++ '\n' :: ds)
      rw [ih, split, List.cons_append] at whole
      obtain ⟨rfl, rfl⟩ := List.cons.inj whole
      rw [List.cons_append, whole', split', List.cons_append]

theorem lines_of_not_mem {cs : List Char} (h : '\n' ∉ cs) : lines cs = [cs] := by
  induction cs with
  | nil => rfl
  | cons c cs ih =>
    rw [List.mem_cons, not_or] at h
    rw [lines, if_neg (Ne.symm h.1), ih h.2]

theorem lineFeed_not_mem_of_mem_lines {cs l : List Char} (mem : l ∈ lines cs) : '\n' ∉ l := by
  induction cs generalizing l with
  | nil =>
    rw [lines, List.mem_singleton] at mem
    rw [mem]
    exact List.not_mem_nil
  | cons c cs ih =>
    by_cases feed : c = '\n'
    · subst feed
      rw [lines_lineFeed] at mem
      rcases List.mem_cons.1 mem with rfl | behind
      · exact List.not_mem_nil
      · exact ih behind
    · obtain ⟨m, ms, split, split'⟩ := lines_cons_of_ne feed cs
      rw [split'] at mem
      rcases List.mem_cons.1 mem with rfl | behind
      · have first := ih (split ▸ List.mem_cons_self : m ∈ lines cs)
        simp [Ne.symm feed, first]
      · exact ih (split ▸ List.mem_cons_of_mem _ behind)

/-- Lines that each have a line feed behind them are found again, and an empty one behind them. -/
theorem lines_flatMap_lineFeed {ls : List (List Char)} (whole : ∀ l ∈ ls, '\n' ∉ l) :
    lines (ls.flatMap (· ++ ['\n'])) = ls ++ [[]] := by
  induction ls with
  | nil => rfl
  | cons l ls ih =>
    have first : '\n' ∉ l := whole l List.mem_cons_self
    have others := ih fun l mem => whole l (List.mem_cons_of_mem _ mem)
    rw [List.flatMap_cons, List.append_assoc, List.singleton_append, lines_append_lineFeed,
      lines_of_not_mem first, others, List.singleton_append, List.cons_append]

/-- Lines between line feeds, and one more behind them, each have a line feed behind them. -/
theorem intercalate_append_lineFeed {ls : List (List Char)} (nonempty : ls ≠ []) :
    ['\n'].intercalate ls ++ ['\n'] = ls.flatMap (· ++ ['\n']) := by
  induction ls with
  | nil => exact absurd rfl nonempty
  | cons l ls ih =>
    cases ls with
    | nil => rw [List.intercalate_singleton, List.flatMap_singleton]
    | cons m ls =>
      have others := ih (List.cons_ne_nil m ls)
      rw [List.intercalate_cons_cons, List.append_assoc, others, List.flatMap_cons (x := l)]

end MonkeyScan.Text
