import Mathlib
import MonkeyScan.Position
import MonkeyScan.Text.Lines

/-!
The place of an offset in a text, said without a walk over the text: the line is one more than the
number of line feeds before the offset, the column is the distance to the last of them. The
definition makes sense beyond the end of the text too, where the column goes on growing; within the
text the column counts the characters behind the last line feed (`column_ofOffset`), and these begin
a line of the text (`getElem?_lines_append`). The main statements: how the place changes from one
offset to the next (`line_ofOffset_succ`, `column_ofOffset_succ`), that it does not leave its line
along characters other than line feeds (`ofOffset_add`), that a later offset has a later place
(`before_ofOffset`), and that the place of an offset within the text is a line and a column of the
text cut into lines (`inLines_ofOffset`).
-/

namespace MonkeyScan

namespace Text

/-- The index of the last line feed of a text, and -1 if there is none. -/
def lastLineFeed (cs : List Char) : Int := cs.length - 1 - cs.reverse.idxOf '\n'

theorem lastLineFeed_of_not_mem {cs : List Char} (h : '\n' ∉ cs) : lastLineFeed cs = -1 := by
  have absent : cs.reverse.idxOf '\n' = cs.reverse.length :=
    List.idxOf_eq_length (by rwa [List.mem_reverse])
  rw [lastLineFeed, absent, List.length_reverse]
  omega

theorem lastLineFeed_concat (cs : List Char) (c : Char) :
    lastLineFeed (cs ++ [c]) = if c = '\n' then (cs.length : Int) else lastLineFeed cs := by
  rw [lastLineFeed, List.reverse_append, List.reverse_singleton, List.singleton_append,
    List.idxOf_cons, List.length_append, List.length_singleton]
  by_cases feed : c = '\n'
  · rw [feed]; simp
  · rw [beq_eq_false_iff_ne.2 feed, if_neg feed, lastLineFeed]
    simp only [cond_false]
    omega

theorem lastLineFeed_cons (c : Char) (cs : List Char) :
    lastLineFeed (c :: cs) =
      if '\n' ∈ cs then lastLineFeed cs + 1 else if c = '\n' then 0 else -1 := by
  rw [lastLineFeed, List.reverse_cons, List.idxOf_append, List.length_cons]
  by_cases found : '\n' ∈ cs
  · rw [if_pos (List.mem_reverse.2 found), if_pos found, lastLineFeed]
    omega
  · rw [if_neg (by rwa [List.mem_reverse]), if_neg found, List.length_reverse, List.idxOf_cons]
    by_cases feed : c = '\n'
    · rw [feed]; simp
    · rw [beq_eq_false_iff_ne.2 feed, if_neg feed]; simp

theorem lastLineFeed_append {ds : List Char} (h : '\n' ∉ ds) (cs : List Char) :
    lastLineFeed (cs ++ ds) = lastLineFeed cs := by
  have skipped : ds.reverse.idxOf '\n' = ds.length := by
    rw [List.idxOf_eq_length (by rwa [List.mem_reverse]), List.length_reverse]
  rw [lastLineFeed, List.reverse_append, List.idxOf_append, if_neg (by rwa [List.mem_reverse]),
    List.length_reverse, List.length_append, lastLineFeed]
  omega

/-- The part of a text behind its last line feed; the whole text if there is none. -/
def lastLine (cs : List Char) : List Char := cs.rtakeWhile (· ≠ '\n')

/-- The part of a text in front of its first line feed; the whole text if there is none. -/
def firstLine (cs : List Char) : List Char := cs.takeWhile (· ≠ '\n')

@[simp] theorem lastLine_nil : lastLine [] = [] := rfl

theorem lastLine_concat (cs : List Char) (c : Char) :
    lastLine (cs ++ [c]) = if c = '\n' then [] else lastLine cs ++ [c] := by
  unfold lastLine
  rw [List.rtakeWhile_concat]
  by_cases feed : c = '\n' <;> simp [feed]

theorem lastLine_append {ds : List Char} (h : '\n' ∉ ds) (cs : List Char) :
    lastLine (cs ++ ds) = lastLine cs ++ ds := by
  induction ds using List.reverseRecOn with
  | nil => rw [List.append_nil, List.append_nil]
  | append_singleton ds c ih =>
    rw [List.mem_append, not_or] at h
    have other : c ≠ '\n' := fun feed => h.2 (by simp [feed])
    rw [← List.append_assoc, lastLine_concat, if_neg other, ih h.1, List.append_assoc]

theorem lastLine_of_not_mem {cs : List Char} (h : '\n' ∉ cs) : lastLine cs = cs :=
  lastLine_append h []

/-- What stands in front of a text changes its last line only if the text has no line feed. -/
theorem lastLine_append_of_mem {ds : List Char} (h : '\n' ∈ ds) (cs : List Char) :
    lastLine (cs ++ ds) = lastLine ds := by
  induction ds using List.reverseRecOn with
  | nil => exact absurd h List.not_mem_nil
  | append_singleton ds c ih =>
    rw [← List.append_assoc, lastLine_concat, lastLine_concat]
    by_cases feed : c = '\n'
    · rw [if_pos feed, if_pos feed]
    · have inside : '\n' ∈ ds := by simpa [Ne.symm feed] using h
      rw [if_neg feed, if_neg feed, ih inside]

/-- The last line begins behind the last line feed. -/
theorem length_lastLine (cs : List Char) :
    ((lastLine cs).length : Int) = cs.length - 1 - lastLineFeed cs := by
  induction cs using List.reverseRecOn with
  | nil => rfl
  | append_singleton cs c ih =>
    rw [lastLine_concat, lastLineFeed_concat, List.length_append, List.length_singleton]
    by_cases feed : c = '\n'
    · rw [if_pos feed, if_pos feed, List.length_nil]
      omega
    · rw [if_neg feed, if_neg feed, List.length_append, List.length_singleton]
      omega

theorem lastLine_cons (c : Char) (cs : List Char) :
    lastLine (c :: cs) =
      if '\n' ∈ cs then lastLine cs else if c = '\n' then cs else c :: cs := by
  rw [← List.singleton_append]
  by_cases inside : '\n' ∈ cs
  · rw [if_pos inside, lastLine_append_of_mem inside]
  · rw [if_neg inside, lastLine_append inside, ← List.nil_append [c], lastLine_concat]
    by_cases feed : c = '\n' <;> simp [feed]

theorem lastLine_lineFeed_cons (cs : List Char) : lastLine ('\n' :: cs) = lastLine cs := by
  rw [lastLine_cons]
  by_cases inside : '\n' ∈ cs
  · rw [if_pos inside]
  · rw [if_neg inside, if_pos rfl, lastLine_of_not_mem inside]

theorem head?_lines (cs : List Char) : (lines cs).head? = some (firstLine cs) := by
  induction cs with
  | nil => rfl
  | cons c cs ih =>
    by_cases feed : c = '\n'
    · subst feed
      rfl
    · obtain ⟨l, ls, split, split'⟩ := lines_cons_of_ne feed cs
      rw [split] at ih
      have first : l = firstLine cs := by simpa using ih
      rw [split', first]
      simp [firstLine, feed]

/-- Where a text is cut in two, one line of it is cut: the last line of the first part and the first
line of the second one together. Its number is that of the line feeds in front. -/
theorem getElem?_lines_append (cs ds : List Char) :
    (lines (cs ++ ds))[cs.count '\n']? = some (lastLine cs ++ firstLine ds) := by
  induction cs with
  | nil => rw [List.nil_append, List.count_nil, ← List.head?_eq_getElem?, head?_lines]; rfl
  | cons c cs ih =>
    rw [List.cons_append, lastLine_cons]
    by_cases feed : c = '\n'
    · subst feed
      rw [lines_lineFeed, List.count_cons_self, List.getElem?_cons_succ, ih]
      by_cases inside : '\n' ∈ cs
      · rw [if_pos inside]
      · rw [if_neg inside, if_pos rfl, lastLine_of_not_mem inside]
    · obtain ⟨l, ls, split, split'⟩ := lines_cons_of_ne feed (cs ++ ds)
      rw [split] at ih
      rw [split', List.count_cons_of_ne feed]
      by_cases inside : '\n' ∈ cs
      · obtain ⟨n, counted⟩ := Nat.exists_eq_add_one.2 (List.count_pos_iff.2 inside)
        rw [counted] at ih ⊢
        rw [if_pos inside]
        exact ih
      · rw [List.count_eq_zero.2 inside, lastLine_of_not_mem inside] at ih
        have first : l = cs ++ firstLine ds := by simpa using ih
        rw [if_neg inside, if_neg feed, List.count_eq_zero.2 inside, first]
        rfl

end Text

namespace Position

/-- The place of an offset in a text. -/
def ofOffset (text : List Char) (p : Nat) : Position where
  line := 1 + (text.take p).count '\n'
  column := p - Text.lastLineFeed (text.take p)
  offset := p

@[simp] theorem offset_ofOffset (text : List Char) (p : Nat) : (ofOffset text p).offset = p := rfl

@[simp] theorem ofOffset_zero (text : List Char) : ofOffset text 0 = ⟨1, 1, 0⟩ := rfl

/-- The column counts the characters in front of the offset on its line. -/
theorem column_ofOffset {text : List Char} {p : Nat} (h : p ≤ text.length) :
    (ofOffset text p).column = (Text.lastLine (text.take p)).length + 1 := by
  have inside : (text.take p).length = p := List.length_take_of_le h
  rw [Text.length_lastLine, inside, ofOffset]
  dsimp only
  omega

/-- From one offset to the next only a line feed ends the line. -/
theorem line_ofOffset_succ (text : List Char) (p : Nat) :
    (ofOffset text (p + 1)).line =
      if text[p]? = some '\n' then (ofOffset text p).line + 1 else (ofOffset text p).line := by
  unfold ofOffset
  rw [List.take_add_one, List.count_append]
  cases found : text[p]? with
  | none => simp
  | some c =>
    by_cases feed : c = '\n'
    · subst feed; simp; omega
    · simp [feed]

/-- Behind a line feed the column starts anew, and elsewhere it grows, also beyond the end. -/
theorem column_ofOffset_succ (text : List Char) (p : Nat) :
    (ofOffset text (p + 1)).column =
      if text[p]? = some '\n' then 1 else (ofOffset text p).column + 1 := by
  unfold ofOffset
  rw [List.take_add_one]
  cases found : text[p]? with
  | none => simp; omega
  | some c =>
    have inside : (text.take p).length = p := by
      have := (List.getElem?_eq_some_iff.1 found).1
      rw [List.length_take]; omega
    rw [Option.toList_some, Text.lastLineFeed_concat, inside]
    by_cases feed : c = '\n'
    · subst feed; simp
    · simp [feed]; omega

/-- Along characters other than line feeds the place moves within its line. -/
theorem ofOffset_add {text : List Char} {p n : Nat} (h : '\n' ∉ (text.drop p).take n) :
    ofOffset text (p + n) =
      ⟨(ofOffset text p).line, (ofOffset text p).column + n, (ofOffset text p).offset + n⟩ := by
  unfold ofOffset
  rw [List.take_add, Text.lastLineFeed_append h, List.count_append, List.count_eq_zero.2 h]
  ext
  case line => simp
  case column => dsimp only; omega
  case offset => dsimp only; omega

/-- One place comes before another when it is on an earlier line, or further left on one line. -/
def Before (p q : Position) : Prop := p.line < q.line ∨ p.line = q.line ∧ p.column < q.column

theorem before_ofOffset (text : List Char) {p q : Nat} (h : p < q) :
    (ofOffset text p).Before (ofOffset text q) := by
  obtain ⟨n, rfl⟩ := Nat.exists_eq_add_of_lt h
  by_cases feed : '\n' ∈ (text.drop p).take (n + 1)
  · left
    have counted := List.count_pos_iff.2 feed
    unfold ofOffset
    rw [Nat.add_assoc, List.take_add, List.count_append]
    dsimp only
    omega
  · right
    rw [Nat.add_assoc, ofOffset_add feed]
    exact ⟨rfl, by dsimp only; omega⟩

theorem ofOffset_lineFeed_cons (cs : List Char) (p : Nat) :
    ofOffset ('\n' :: cs) (p + 1) =
      ⟨(ofOffset cs p).line + 1, (ofOffset cs p).column, (ofOffset cs p).offset + 1⟩ := by
  unfold ofOffset
  rw [List.take_succ_cons, List.count_cons_self, Text.lastLineFeed_cons, if_pos rfl]
  have column : (↑(p + 1) : Int) -
      (if '\n' ∈ cs.take p then Text.lastLineFeed (cs.take p) + 1 else 0) =
        p - Text.lastLineFeed (cs.take p) := by
    by_cases feed : '\n' ∈ cs.take p
    · rw [if_pos feed]; omega
    · rw [if_neg feed, Text.lastLineFeed_of_not_mem feed]; omega
  rw [column]
  ext
  case line => dsimp only; omega
  case column => rfl
  case offset => rfl

/-- A character in front shifts the first line, and no other. -/
theorem ofOffset_cons {c : Char} (h : c ≠ '\n') (cs : List Char) (p : Nat) :
    ofOffset (c :: cs) (p + 1) =
      ⟨(ofOffset cs p).line,
        if (ofOffset cs p).line = 1 then (ofOffset cs p).column + 1 else (ofOffset cs p).column,
        (ofOffset cs p).offset + 1⟩ := by
  unfold ofOffset
  rw [List.take_succ_cons, List.count_cons_of_ne h, Text.lastLineFeed_cons]
  by_cases feed : '\n' ∈ cs.take p
  · have counted := List.count_pos_iff.2 feed
    rw [if_pos feed]
    dsimp only
    rw [if_neg (by omega)]
    ext
    case line => rfl
    case column => dsimp only; omega
    case offset => rfl
  · rw [if_neg feed, if_neg h, List.count_eq_zero.2 feed, Text.lastLineFeed_of_not_mem feed]
    ext <;> simp

/-! ## Places and lines -/

/-- A place is a line and a column of a text that is cut into lines, up to the column behind the
last character of the line; the offset counts the lines before it with their line feeds. -/
structure InLines (ls : List (List Char)) (p : Position) : Prop where
  one_le_line : 1 ≤ p.line
  line_le : p.line ≤ ls.length
  one_le_column : 1 ≤ p.column
  column_le : p.column ≤ (ls[(p.line - 1).toNat]?.getD []).length + 1
  offset_eq :
    p.offset = (((ls.take (p.line - 1).toNat).map fun l => l.length + 1).sum : Nat) + p.column - 1

theorem InLines.origin {l : List Char} {ls : List (List Char)} : InLines (l :: ls) ⟨1, 1, 0⟩ :=
  ⟨by simp, by simp, by simp, by simp, by simp⟩

/-- One line more in front. -/
theorem InLines.below {ls : List (List Char)} {p : Position} (h : InLines ls p) :
    InLines ([] :: ls) ⟨p.line + 1, p.column, p.offset + 1⟩ := by
  obtain ⟨h1, h2, h3, h4, h5⟩ := h
  have index : (p.line + 1 - 1).toNat = (p.line - 1).toNat + 1 := by omega
  refine ⟨by simp; omega, by simp; omega, h3, ?_, ?_⟩
  · rwa [index]
  · rw [index]
    simp only [List.take_succ_cons, List.map_cons, List.sum_cons, List.length_nil]
    omega

/-- One character more in front of the first line. -/
theorem InLines.beside {c : Char} {l : List Char} {ls : List (List Char)} {p : Position}
    (h : InLines (l :: ls) p) :
    InLines ((c :: l) :: ls)
      ⟨p.line, if p.line = 1 then p.column + 1 else p.column, p.offset + 1⟩ := by
  obtain ⟨h1, h2, h3, h4, h5⟩ := h
  by_cases first : p.line = 1
  · rw [first] at h4 h5 ⊢
    simp at h4 h5
    exact ⟨by simp, by simp, by simp; omega, by simp; omega, by simp; omega⟩
  · have index : (p.line - 1).toNat = (p.line - 2).toNat + 1 := by omega
    rw [if_neg first]
    rw [index] at h4 h5
    refine ⟨h1, h2, h3, ?_, ?_⟩
    · rw [index]
      exact h4
    · rw [index]
      simp at h5 ⊢
      omega

theorem inLines_ofOffset {text : List Char} {p : Nat} (h : p ≤ text.length) :
    InLines (Text.lines text) (ofOffset text p) := by
  induction text generalizing p with
  | nil =>
    rw [Nat.le_zero.1 h]
    exact .origin
  | cons c cs ih =>
    cases p with
    | zero =>
      obtain ⟨l, ls, split⟩ := List.exists_cons_of_ne_nil (Text.lines_ne_nil (c :: cs))
      rw [split]
      exact .origin
    | succ p =>
      have ih := ih (Nat.le_of_succ_le_succ h)
      by_cases feed : c = '\n'
      · subst feed
        rw [Text.lines_lineFeed, ofOffset_lineFeed_cons]
        exact ih.below
      · obtain ⟨l, ls, split, split'⟩ := Text.lines_cons_of_ne feed cs
        rw [split', ofOffset_cons feed]
        rw [split] at ih
        exact ih.beside

end Position

end MonkeyScan
