import MonkeyScan.Proofs.Lexeme
import MonkeyScan.Proofs.Places

/-!
A text with uniform line ends. A text is cut anywhere but between a carriage return and the line
feed behind it, and both parts get their line ends apart (`uniformLines_append`); each pair that
becomes one line feed takes one character away (`length_uniformLines`). Where all carriage returns
stand in pairs, the number of lines stays and so does what stands on the last one
(`count_uniformLines`, `lastLine_uniformLines`). Lexemes hold no line end, and where one is not cut
off, it is not cut off with uniform line ends either (`Maximal.uniformLines`).
-/

namespace MonkeyScan

namespace Text

/-- A text is cut in two, and not between a carriage return and its line feed. -/
def KeepsPairs (front rest : List Char) : Prop :=
  front.getLast? = some '\r' → rest.head? ≠ some '\n'

/-- Every carriage return has a line feed directly behind it. -/
def Paired (cs : List Char) : Prop :=
  ∀ i < cs.length, cs[i]? = some '\r' → cs[i + 1]? = some '\n'

instance (cs : List Char) : Decidable (Paired cs) :=
  inferInstanceAs (Decidable (∀ i < cs.length, cs[i]? = some '\r' → cs[i + 1]? = some '\n'))

/-- The number of carriage returns with a line feed directly behind them. -/
def pairCount (cs : List Char) : Nat := (cs.zip cs.tail).count ('\r', '\n')

theorem pairCount_pair (cs : List Char) : pairCount ('\r' :: '\n' :: cs) = pairCount cs + 1 := by
  cases cs with
  | nil => rfl
  | cons c cs => simp [pairCount]

theorem pairCount_cons {c : Char} {cs : List Char} (apart : c = '\r' → cs.head? ≠ some '\n') :
    pairCount (c :: cs) = pairCount cs := by
  cases cs with
  | nil => rfl
  | cons d cs =>
    have other : ¬ (c = '\r' ∧ d = '\n') :=
      fun ⟨first, second⟩ => apart first (by rw [second]; rfl)
    simpa [pairCount, List.count_cons] using other

theorem KeepsPairs.tail {c : Char} {front rest : List Char} (h : KeepsPairs (c :: front) rest) :
    KeepsPairs front rest := by
  intro last
  exact h (by rw [List.getLast?_cons, last]; rfl)

/-- What begins the rest begins it also where the rest goes on. -/
theorem KeepsPairs.of_append {front rest more : List Char} (h : KeepsPairs front (rest ++ more)) :
    KeepsPairs front rest := by
  intro last next
  obtain ⟨behind, rfl⟩ := List.head?_eq_some_iff.1 next
  exact h last rfl

theorem Paired.tail {c : Char} {cs : List Char} (h : Paired (c :: cs)) : Paired cs :=
  fun i inside => h (i + 1) (Nat.succ_lt_succ inside)

theorem Paired.ne_of_cons {c : Char} {cs : List Char} (h : Paired (c :: cs))
    (apart : c = '\r' → cs.head? ≠ some '\n') : c ≠ '\r' := by
  rintro rfl
  have next := h 0 (Nat.succ_pos _) rfl
  exact apart rfl (by rw [List.head?_eq_getElem?]; exact next)

/-- The pairs of a text are pairs of its front too, up to where no pair is cut. -/
theorem Paired.of_append {front rest : List Char} (h : Paired (front ++ rest))
    (keeps : KeepsPairs front rest) : Paired front := by
  intro i inside ret
  have next := h i (by rw [List.length_append]; omega)
    (by rw [List.getElem?_append_left inside, ret])
  by_cases inside' : i + 1 < front.length
  · rwa [List.getElem?_append_left inside'] at next
  · have last : front.length - 1 = i := by omega
    rw [List.getElem?_append_right (by omega), show i + 1 - front.length = 0 by omega,
      ← List.head?_eq_getElem?] at next
    exact absurd next (keeps (by rw [List.getLast?_eq_getElem?, last, ret]))

/-! ## One line end after the other -/

theorem uniformLines_pair (cs : List Char) :
    uniformLines ('\r' :: '\n' :: cs) = '\n' :: uniformLines cs := by
  rw [uniformLines]

/-- Any other character stays one character. -/
theorem uniformLines_cons {c : Char} {cs : List Char} (apart : c = '\r' → cs.head? ≠ some '\n') :
    uniformLines (c :: cs) = (if c = '\r' then '\n' else c) :: uniformLines cs := by
  rw [uniformLines]
  rintro cs rfl rfl
  exact apart rfl rfl

/-- Along a text, with a pair of line ends taken at once. -/
theorem pairs_induction {motive : List Char → Prop} (nil : motive [])
    (pair : ∀ cs, motive cs → motive ('\r' :: '\n' :: cs))
    (cons : ∀ c cs, (c = '\r' → cs.head? ≠ some '\n') → motive cs → motive (c :: cs))
    (cs : List Char) : motive cs := by
  fun_induction uniformLines cs with
  | case1 => exact nil
  | case2 cs ih => exact pair cs ih
  | case3 c cs other ih =>
    refine cons c cs (fun ret next => ?_) ih
    obtain ⟨more, rfl⟩ := List.head?_eq_some_iff.1 next
    exact other more ret rfl

theorem uniformLines_of_not_mem {cs : List Char} (h : '\r' ∉ cs) : uniformLines cs = cs := by
  induction cs with
  | nil => rfl
  | cons c cs ih =>
    rw [List.mem_cons, not_or] at h
    have other : c ≠ '\r' := Ne.symm h.1
    rw [uniformLines_cons fun ret => absurd ret other, if_neg other, ih h.2]

theorem uniformLines_append {front rest : List Char} (keeps : KeepsPairs front rest) :
    uniformLines (front ++ rest) = uniformLines front ++ uniformLines rest := by
  induction front using pairs_induction with
  | nil => rfl
  | pair cs ih =>
    rw [uniformLines_pair, List.cons_append, List.cons_append, uniformLines_pair,
      ih keeps.tail.tail]
    rfl
  | cons c cs apart ih =>
    have apart' : c = '\r' → (cs ++ rest).head? ≠ some '\n' := by
      intro ret
      cases cs with
      | nil => exact keeps (by rw [ret]; rfl)
      | cons d cs => exact apart ret
    rw [uniformLines_cons apart, List.cons_append, uniformLines_cons apart', ih keeps.tail]
    rfl

theorem drop_uniformLines {front rest : List Char} (keeps : KeepsPairs front rest) :
    (uniformLines (front ++ rest)).drop (uniformLines front).length = uniformLines rest := by
  rw [uniformLines_append keeps, List.drop_left]

theorem take_uniformLines {front rest : List Char} (keeps : KeepsPairs front rest) :
    (uniformLines (front ++ rest)).take (uniformLines front).length = uniformLines front := by
  rw [uniformLines_append keeps, List.take_left]

theorem head?_uniformLines (cs : List Char) :
    (uniformLines cs).head? = cs.head?.map fun c => if c = '\r' then '\n' else c := by
  fun_cases uniformLines cs <;> rfl

theorem length_uniformLines (cs : List Char) :
    (uniformLines cs).length + pairCount cs = cs.length := by
  induction cs using pairs_induction with
  | nil => rfl
  | pair cs ih =>
    rw [uniformLines_pair, pairCount_pair, List.length_cons, List.length_cons, List.length_cons]
    omega
  | cons c cs apart ih =>
    rw [uniformLines_cons apart, pairCount_cons apart, List.length_cons, List.length_cons]
    omega

/-! ## Lines -/

theorem count_uniformLines {cs : List Char} (paired : Paired cs) :
    (uniformLines cs).count '\n' = cs.count '\n' := by
  induction cs using pairs_induction with
  | nil => rfl
  | pair cs ih =>
    rw [uniformLines_pair, List.count_cons_self, ih paired.tail.tail,
      List.count_cons_of_ne (by decide), List.count_cons_self]
  | cons c cs apart ih =>
    rw [uniformLines_cons apart, if_neg (paired.ne_of_cons apart), List.count_cons,
      List.count_cons, ih paired.tail]

theorem lastLine_uniformLines {cs : List Char} (paired : Paired cs) :
    lastLine (uniformLines cs) = lastLine cs := by
  induction cs using pairs_induction with
  | nil => rfl
  | pair cs ih =>
    have feed : '\n' ∈ '\n' :: cs := List.mem_cons_self
    rw [uniformLines_pair, lastLine_lineFeed_cons, ih paired.tail.tail, lastLine_cons '\r',
      if_pos feed, lastLine_lineFeed_cons]
  | cons c cs apart ih =>
    have same : '\n' ∈ uniformLines cs ↔ '\n' ∈ cs := by
      rw [← List.count_pos_iff, count_uniformLines paired.tail, List.count_pos_iff]
    rw [uniformLines_cons apart, if_neg (paired.ne_of_cons apart), lastLine_cons, lastLine_cons]
    by_cases feed : '\n' ∈ cs
    · rw [if_pos feed, if_pos (same.2 feed), ih paired.tail]
    · have whole := ih paired.tail
      rw [lastLine_of_not_mem feed, lastLine_of_not_mem (mt same.1 feed)] at whole
      rw [if_neg feed, if_neg (mt same.1 feed), whole]

end Text

/-! ## Blanks and lexemes -/

namespace Grammar

open Text Alphabet

theorem isBlank_of_mem_uniformLines {cs : List Char} (blanks : ∀ c ∈ cs, isBlank c = true) :
    ∀ c ∈ uniformLines cs, isBlank c = true := by
  induction cs using pairs_induction with
  | nil => exact blanks
  | pair cs ih =>
    rw [uniformLines_pair, List.forall_mem_cons]
    exact ⟨rfl, ih fun c mem => blanks c (by simp [mem])⟩
  | cons c cs apart ih =>
    rw [List.forall_mem_cons] at blanks
    rw [uniformLines_cons apart, List.forall_mem_cons]
    refine ⟨?_, ih blanks.2⟩
    by_cases ret : c = '\r'
    · rw [if_pos ret]; rfl
    · rw [if_neg ret]; exact blanks.1

/-- A run of a class that no line feed belongs to stops where it stopped before. -/
theorem stops_uniformLines {f : Char → Bool} (feed : f '\n' = false) {cs : List Char}
    (stop : ∀ c ∈ cs.head?, f c = false) : ∀ c ∈ (uniformLines cs).head?, f c = false := by
  intro c found
  rw [head?_uniformLines, Option.mem_def, Option.map_eq_some_iff] at found
  obtain ⟨d, first, rfl⟩ := found
  by_cases ret : d = '\r'
  · rw [if_pos ret, feed]
  · rw [if_neg ret, stop d first]

theorem Maximal.uniformLines {l more : List Char} (h : Maximal l more) :
    Maximal l (uniformLines more) where
  word letters := stops_uniformLines rfl (h.word letters)
  number digits := stops_uniformLines rfl (h.number digits)
  sign alone := by
    have stop : ∀ c ∈ more.head?, decide (c = '=') = false := by
      intro c first
      rw [decide_eq_false_iff_not]
      rintro rfl
      exact h.sign alone first
    intro next
    exact absurd (stops_uniformLines rfl stop '=' next) (by decide)

section

variable {k : TokenKind} {l : List Char}

theorem IsLexeme.carriageReturn_not_mem (h : IsLexeme k l) : '\r' ∉ l := by
  intro mem
  exact absurd (h.not_isBlank _ mem) (by decide)

/-- No pair is cut in front of a lexeme. -/
theorem IsLexeme.keepsPairs (h : IsLexeme k l) (front more : List Char) :
    KeepsPairs front (l ++ more) := by
  obtain ⟨c, l, rfl⟩ := List.exists_cons_of_ne_nil h.ne_nil
  rintro - next
  have first : c = '\n' := Option.some.inj next
  exact h.lineFeed_not_mem (by rw [first]; exact List.mem_cons_self)

/-- No pair is cut behind a lexeme. -/
theorem IsLexeme.keepsPairs_append (h : IsLexeme k l) (front more : List Char) :
    KeepsPairs (front ++ l) more := by
  intro last
  rw [List.getLast?_append_of_ne_nil _ h.ne_nil] at last
  exact absurd (List.mem_of_getLast? last) h.carriageReturn_not_mem

theorem IsLexeme.uniformLines_append (h : IsLexeme k l) (more : List Char) :
    uniformLines (l ++ more) = l ++ uniformLines more := by
  have keeps : KeepsPairs l more := h.keepsPairs_append [] more
  rw [Text.uniformLines_append keeps, uniformLines_of_not_mem h.carriageReturn_not_mem]

theorem IsLexeme.uniformLines_concat (h : IsLexeme k l) (front : List Char) :
    uniformLines (front ++ l) = uniformLines front ++ l := by
  have keeps := h.keepsPairs front []
  rw [List.append_nil] at keeps
  rw [Text.uniformLines_append keeps, uniformLines_of_not_mem h.carriageReturn_not_mem]

end

end Grammar

end MonkeyScan
