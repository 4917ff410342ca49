import MonkeyScan.Proofs.Lexeme
import MonkeyScan.Proofs.Places
import MonkeyScan.Reader

/-!
What a cursor knows. `Cursor.onOffset` is the cursor on an offset of a text, said through the text
and the offset alone; every operation takes such a cursor to such a cursor, so no other state is
ever reached. The main statements: one lemma for each operation on `onOffset`, the next token among
them (`next_of_blanks`, `next_of_lexeme`), and what holds after every row of requests to a reader
(`tracks_afterAll`).
-/

namespace MonkeyScan

namespace Cursor

open Alphabet Grammar

/-- The cursor on an offset of a text. -/
def onOffset (text : List Char) (p : Nat) : Cursor where
  text := text.toArray
  offset := p
  ahead := p + 1
  current? := text[p]?
  line := (Position.ofOffset text p).line
  column := (Position.ofOffset text p).column

@[simp] theorem offset_onOffset (text : List Char) (p : Nat) : (onOffset text p).offset = p := rfl

@[simp] theorem current?_onOffset (text : List Char) (p : Nat) :
    (onOffset text p).current? = text[p]? := rfl

@[simp] theorem place_onOffset (text : List Char) (p : Nat) :
    (onOffset text p).place = Position.ofOffset text p := rfl

@[simp] theorem peek?_onOffset (text : List Char) (p : Nat) :
    (onOffset text p).peek? = text[p + 1]? := by
  rw [peek?, onOffset, List.getElem?_toArray]

theorem start_eq (text : List Char) : start text = onOffset text 0 := by
  rw [start, advance, onOffset, Position.ofOffset_zero]
  simp

@[simp] theorem advance_onOffset (text : List Char) (p : Nat) :
    (onOffset text p).advance = onOffset text (p + 1) := by
  ext1
  case text => rfl
  case offset => rfl
  case ahead => rfl
  case current? => exact List.getElem?_toArray
  case line => exact (Position.line_ofOffset_succ text p).symm
  case column => exact (Position.column_ofOffset_succ text p).symm

theorem iterate_advance (text : List Char) (p k : Nat) :
    advance^[k] (onOffset text p) = onOffset text (p + k) := by
  induction k with
  | zero => rfl
  | succ k ih => rw [Function.iterate_succ_apply', ih, advance_onOffset, Nat.add_assoc]

/-- A run of steps ends behind the characters of the class. The induction is on the text from the
offset on. -/
theorem advanceWhile_onOffset (f : Char → Bool) (text : List Char) (p : Nat) :
    (onOffset text p).advanceWhile f =
      onOffset text (p + ((text.drop p).takeWhile f).length) := by
  obtain ⟨rest, split⟩ : ∃ rest, text.drop p = rest := ⟨_, rfl⟩
  rw [split]
  induction rest generalizing p with
  | nil =>
    have current : text[p]? = none := by rw [← List.head?_drop, split]; rfl
    rw [advanceWhile, current?_onOffset, current]
    rfl
  | cons c rest ih =>
    have current : text[p]? = some c := by rw [← List.head?_drop, split]; rfl
    have tail : text.drop (p + 1) = rest := by rw [← List.tail_drop, split]; rfl
    rw [advanceWhile, current?_onOffset, current, Option.any_some, advance_onOffset]
    by_cases h : f c = true
    · rw [if_pos h, ih (p + 1) tail, List.takeWhile_cons_of_pos h, List.length_cons,
        Nat.add_assoc, Nat.add_comm 1]
    · rw [if_neg h, List.takeWhile_cons_of_neg h]
      rfl

theorem upTo_onOffset (text : List Char) (p n : Nat) :
    (onOffset text p).upTo (onOffset text (p + n)) = String.ofList ((text.drop p).take n) := by
  rw [upTo, onOffset, onOffset, List.extract_toArray, List.extract_eq_take_drop,
    Nat.add_sub_cancel_left]

theorem take_length_takeWhile (f : Char → Bool) (cs : List Char) :
    cs.take (cs.takeWhile f).length = cs.takeWhile f :=
  (List.prefix_iff_eq_take.1 (List.takeWhile_prefix f)).symm

theorem skipBlanks_onOffset (text : List Char) (p : Nat) :
    (onOffset text p).skipBlanks =
      onOffset text (p + ((text.drop p).takeWhile isBlank).length) :=
  advanceWhile_onOffset _ text p

theorem word_onOffset (text : List Char) (p : Nat) :
    (onOffset text p).word = (String.ofList ((text.drop p).takeWhile isLetter),
      onOffset text (p + ((text.drop p).takeWhile isLetter).length)) := by
  rw [word, advanceWhile_onOffset, upTo_onOffset, take_length_takeWhile]

theorem number_onOffset (text : List Char) (p : Nat) :
    (onOffset text p).number = (String.ofList ((text.drop p).takeWhile isDigit),
      onOffset text (p + ((text.drop p).takeWhile isDigit).length)) := by
  rw [number, advanceWhile_onOffset, upTo_onOffset, take_length_takeWhile]

/-! ## Tokens -/

theorem current?_of_drop {text : List Char} {p : Nat} {ch : Char} {rest : List Char}
    (split : text.drop p = ch :: rest) : (onOffset text p).current? = some ch := by
  rw [current?_onOffset, ← List.head?_drop, split]
  rfl

theorem peek?_of_drop {text : List Char} {p : Nat} {ch : Char} {rest : List Char}
    (split : text.drop p = ch :: rest) : (onOffset text p).peek? = rest.head? := by
  rw [peek?_onOffset, ← List.head?_drop, ← List.tail_drop, split]
  rfl

theorem tokenHere_of_nil {text : List Char} {p : Nat} (split : text.drop p = []) :
    (onOffset text p).tokenHere = (.endAt (.ofOffset text p), onOffset text p) := by
  have current : (onOffset text p).current? = none := by
    rw [current?_onOffset, ← List.head?_drop, split]
    rfl
  rw [tokenHere, current, place_onOffset]

/-- The token that starts with a character is the lexeme at the head of the text there. -/
theorem tokenHere_of_cons {text : List Char} {p : Nat} {ch : Char} {rest : List Char}
    (split : text.drop p = ch :: rest) :
    (onOffset text p).tokenHere =
      (onOffset text p).tokenTo (onOffset text (p + (lexeme ch rest).2.length))
        (lexeme ch rest).1 (String.ofList (lexeme ch rest).2) := by
  rw [tokenHere, current?_of_drop split]
  by_cases letter : isLetter ch = true
  · rw [lexeme_of_isLetter letter, word_onOffset, split, List.takeWhile_cons_of_pos letter]
    dsimp only
    rw [if_pos letter]
  · by_cases digit : isDigit ch = true
    · rw [lexeme_of_isDigit digit, number_onOffset, split, List.takeWhile_cons_of_pos digit]
      dsimp only
      rw [if_neg letter, if_pos digit]
    · dsimp only
      rw [if_neg letter, if_neg digit, peek?_of_drop split]
      rw [Bool.not_eq_true] at letter digit
      cases pair : TokenKind.ofPair? ch rest.head? with
      | none =>
        rw [lexeme_of_single letter digit pair, advance_onOffset]
        rfl
      | some k =>
        have next : text[p + 1]? = some '=' := by
          rw [← peek?_onOffset, peek?_of_drop split]
          exact (TokenKind.ofPair?_eq_some_iff.1 pair).1
        rw [lexeme_of_pair letter digit pair, advance_onOffset, advance_onOffset,
          current?_onOffset, next]
        rfl

/-- Behind what is left of a text nothing is left. -/
theorem drop_add_length (text : List Char) (p : Nat) :
    text.drop (p + (text.drop p).length) = [] := by
  rw [← List.drop_drop, List.drop_length]

/-- Behind the last lexeme only blanks are left, and the end of input is answered. -/
theorem next_of_blanks {text : List Char} {p : Nat}
    (blanks : ∀ c ∈ text.drop p, isBlank c = true) :
    (onOffset text p).next =
      (.endAt (.ofOffset text (p + (text.drop p).length)),
        onOffset text (p + (text.drop p).length)) := by
  have run : (text.drop p).takeWhile isBlank = text.drop p := by
    have ended : ∀ c ∈ ([] : List Char).head?, isBlank c = false := by simp
    have := takeWhile_append_of_stop blanks ended
    rwa [List.append_nil] at this
  rw [next, skipBlanks_onOffset, run, tokenHere_of_nil (drop_add_length text p)]

/-- The end of input is answered where it has been answered before. -/
theorem next_of_past {text : List Char} {p : Nat} (past : text.drop p = []) :
    (onOffset text p).next = (.endAt (.ofOffset text p), onOffset text p) := by
  rw [next_of_blanks (by simp [past]), past]
  rfl

/-- Behind a run of blanks a lexeme that is not cut off is the next token. -/
theorem next_of_lexeme {text gap l more : List Char} {p : Nat} {k : TokenKind}
    (split : text.drop p = gap ++ (l ++ more)) (blanks : ∀ c ∈ gap, isBlank c = true)
    (found : IsLexeme k l) (maximal : Maximal l more) :
    (onOffset text p).next =
      (onOffset text (p + gap.length)).tokenTo (onOffset text (p + gap.length + l.length)) k
        (String.ofList l) := by
  obtain ⟨ch, l, rfl⟩ := List.exists_cons_of_ne_nil found.ne_nil
  have stop : isBlank ch = false := found.not_isBlank ch List.mem_cons_self
  have run : (text.drop p).takeWhile isBlank = gap := by
    rw [split]
    exact takeWhile_append_of_stop blanks (by simpa using stop)
  have here : text.drop (p + gap.length) = ch :: (l ++ more) := by
    rw [← List.drop_drop, split, List.drop_left, List.cons_append]
  rw [next, skipBlanks_onOffset, run, tokenHere_of_cons here, lexeme_eq found maximal]

/-- A text is blank, or a run of blanks leads to a lexeme that is not cut off. -/
theorem blanks_or_lexeme (cs : List Char) :
    (∀ c ∈ cs, isBlank c = true) ∨
      ∃ gap k l more, cs = gap ++ (l ++ more) ∧ (∀ c ∈ gap, isBlank c = true) ∧
        IsLexeme k l ∧ Maximal l more := by
  have run : ∀ c ∈ cs.takeWhile isBlank, isBlank c = true := List.all_eq_true.1 List.all_takeWhile
  have split : cs.takeWhile isBlank ++ cs.dropWhile isBlank = cs :=
    List.takeWhile_append_dropWhile
  cases behind : cs.dropWhile isBlank with
  | nil =>
    rw [behind, List.append_nil] at split
    rw [split] at run
    exact .inl run
  | cons ch rest =>
    have stop : isBlank ch = false := head?_dropWhile_eq_false ch (by rw [behind]; rfl)
    obtain ⟨found, more, cut, maximal⟩ := lexeme_spec stop rest
    rw [behind, cut] at split
    exact .inr ⟨_, _, _, more, split.symm, run, found, maximal⟩

/-! ## Where the operations lead -/

theorem advanceWhile_reach (f : Char → Bool) (text : List Char) (p : Nat) :
    ∃ k ≤ text.length - p, (onOffset text p).advanceWhile f = onOffset text (p + k) := by
  refine ⟨_, ?_, advanceWhile_onOffset f text p⟩
  rw [← List.length_drop]
  exact (List.takeWhile_sublist f).length_le

theorem next_reach (text : List Char) (p : Nat) :
    ∃ k ≤ text.length - p, (onOffset text p).next.2 = onOffset text (p + k) := by
  rcases blanks_or_lexeme (text.drop p) with
    blanks | ⟨gap, k, l, more, split, blanks, found, maximal⟩
  · rw [next_of_blanks blanks, List.length_drop]
    exact ⟨_, Nat.le_refl _, rfl⟩
  · obtain ⟨-, within⟩ := length_of_lexeme split found
    rw [next_of_lexeme split blanks found maximal, Nat.add_assoc]
    exact ⟨_, by omega, rfl⟩

theorem drain_reach (text : List Char) (p : Nat) :
    ∃ k ≤ text.length - p, (onOffset text p).drain.2 = onOffset text (p + k) := by
  generalize here : onOffset text p = c
  fun_induction drain c generalizing p with
  | case1 c _ =>
    rw [← here]
    exact next_reach text p
  | case2 c _ _ ih =>
    obtain ⟨j, within, behind⟩ := next_reach text p
    rw [here] at behind
    obtain ⟨k, within', reached⟩ := ih (p + j) behind.symm
    exact ⟨j + k, by omega, by rw [← Nat.add_assoc]; exact reached⟩

end Cursor

/-! ## Requests to a reader -/

namespace Reader

open Cursor

/-- The request that may lead past the end of the text is the single step. -/
theorem answer_reach {text : List Char} {p : Nat} {r : Reader} (here : r.cursor = onOffset text p)
    (q : Request) :
    ∃ k, (r.answer q).2.cursor = onOffset text (p + k) ∧
      (q ≠ .advance → k ≤ text.length - p) := by
  have stay : ∃ k, r.cursor = onOffset text (p + k) ∧ (q ≠ .advance → k ≤ text.length - p) :=
    ⟨0, here, fun _ => Nat.zero_le _⟩
  have move {c : Cursor} (reach : ∃ k ≤ text.length - p, c = onOffset text (p + k)) :
      ∃ k, c = onOffset text (p + k) ∧ (q ≠ .advance → k ≤ text.length - p) := by
    obtain ⟨k, within, reached⟩ := reach
    exact ⟨k, reached, fun _ => within⟩
  cases q with
  | next =>
    rw [answer, here]
    exact move (next_reach text p)
  | iterate =>
    rw [answer]
    by_cases ended : r.iterationOver = true
    · rw [if_pos ended]
      exact stay
    · rw [if_neg ended, here]
      exact move (next_reach text p)
  | drain =>
    rw [answer, here]
    exact move (drain_reach text p)
  | advance =>
    rw [answer, here]
    exact ⟨1, advance_onOffset text p, fun other => absurd rfl other⟩
  | peek => exact stay
  | place => exact stay
  | skipBlanks =>
    rw [answer, here]
    exact move (advanceWhile_reach _ text p)
  | word =>
    rw [answer, here]
    exact move (advanceWhile_reach _ text p)
  | number =>
    rw [answer, here]
    exact move (advanceWhile_reach _ text p)

/-- Whatever is asked of a reader, its cursor is on an offset of its text. -/
theorem cursor_afterAll {text : List Char} {r : Reader} {p : Nat}
    (here : r.cursor = onOffset text p) (qs : List Request) :
    ∃ p', (r.afterAll qs).cursor = onOffset text p' := by
  induction qs generalizing r p with
  | nil => exact ⟨p, here⟩
  | cons q qs ih =>
    obtain ⟨k, reached, -⟩ := answer_reach here q
    exact ih reached

theorem cursor_start (text : String) : (start text).cursor = onOffset text.toList 0 :=
  start_eq text.toList

end Reader

/-- What a cursor knows is what its offset says of the text: the index of the next character is one
more, the character under the cursor is the one at the offset, if there is one, the line is one more
than the number of line feeds before the offset, and the column the distance to the last of them. -/
structure Cursor.Tracks (text : List Char) (c : Cursor) : Prop where
  text_eq : c.text = text.toArray
  ahead_eq : c.ahead = c.offset + 1
  current?_eq : c.current? = text[c.offset]?
  line_eq : c.line = 1 + (text.take c.offset).count '\n'
  column_eq : c.column = c.offset - Text.lastLineFeed (text.take c.offset)

theorem Cursor.tracks_onOffset (text : List Char) (p : Nat) : Tracks text (onOffset text p) :=
  ⟨rfl, rfl, rfl, rfl, rfl⟩

/-- After every row of requests the cursor of a reader tracks the text; what is peeked at is what
the next step makes current; no request leads back, and none but the single step leads past the end
of the text. -/
theorem Reader.tracks_afterAll (text : String) (qs : List Request) :
    let r := (Reader.start text).afterAll qs
    Cursor.Tracks text.toList r.cursor ∧
      (r.answer .peek).1 = .text (characterText (r.answer .advance).2.cursor.current?) ∧
      ∀ q, r.cursor.offset ≤ (r.answer q).2.cursor.offset ∧
        (q ≠ .advance → r.cursor.offset ≤ text.length →
          (r.answer q).2.cursor.offset ≤ text.length) := by
  intro r
  obtain ⟨p, here⟩ := cursor_afterAll (cursor_start text) qs
  refine ⟨?_, rfl, fun q => ?_⟩
  · rw [show r.cursor = _ from here]
    exact Cursor.tracks_onOffset _ p
  · obtain ⟨k, reached, within⟩ := answer_reach here q
    rw [show r.cursor = _ from here, reached, Cursor.offset_onOffset, Cursor.offset_onOffset,
      ← String.length_toList]
    refine ⟨Nat.le_add_right p k, fun other inside => ?_⟩
    have := within other
    omega

end MonkeyScan
