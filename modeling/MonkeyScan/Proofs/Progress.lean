import MonkeyScan.Proofs.Munch

/-!
Progress of a reader, whatever has been asked of it before. A request for a token takes single steps
only, no more than there are characters left (`iterate_advance`). Either it takes a token away and
gets ahead in the text (`Takes`), or it meets the end of input and stays there for good (`Rests`);
which of both depends on whether there is anything left but blanks. So there are no more tokens to
come than characters, and the end of input (`length_tokens_le`), and requests for single tokens
reach it as surely as a request for all of them (`answers_replicate_next`). Main statement:
`next_afterAll`.
-/

namespace MonkeyScan

open Alphabet Grammar

namespace Cursor

theorem remaining_onOffset (text : List Char) (p : Nat) :
    (onOffset text p).remaining = text.length - p := by
  have size : (onOffset text p).text.size = text.length := rfl
  have ahead : (onOffset text p).ahead = p + 1 := rfl
  rw [remaining, size, ahead, current?_onOffset]
  by_cases inside : p < text.length
  · rw [List.getElem?_eq_getElem inside, Option.toList_some, List.length_singleton]
    omega
  · rw [List.getElem?_eq_none (by omega), Option.toList_none, List.length_nil]
    omega

/-- Every token but the end of input takes a character away. -/
theorem length_tokens_le (c : Cursor) : c.tokens.length ≤ c.remaining + 1 := by
  unfold tokens
  fun_induction drain c with
  | case1 c _ => exact Nat.le_add_left 1 _
  | case2 c other more ih =>
    have fewer := remaining_next_lt other
    have behind : more.1.length ≤ c.next.2.remaining + 1 := ih
    rw [List.length_cons]
    omega

end Cursor

namespace Reader

open Cursor

/-- A token is taken: it is not the end of input, it has characters, it starts where the reader was
or behind, and it ends where the reader is then, farther on and within the text. -/
structure Takes (size : Nat) (r : Reader) (t : Token) (r' : Reader) : Prop where
  kind_ne : t.kind ≠ .eof
  literal_ne : t.literal ≠ ""
  le_start : r.cursor.offset ≤ t.span.start.offset
  stop_eq : t.span.stop = r'.cursor.place
  offset_lt : r.cursor.offset < r'.cursor.offset
  offset_le : r'.cursor.offset ≤ size

/-- The end of input is met: its token is empty and stands where the reader is then, at the end of
the text or beyond, and however often a token is asked for again, it is this one, and the reader
stays as it is. -/
structure Rests (size : Nat) (t : Token) (r' : Reader) : Prop where
  token_eq : t = .endAt r'.cursor.place
  le_offset : size ≤ r'.cursor.offset
  again : ∀ n, r'.answers (List.replicate n .next) = List.replicate n (.token t, r')

/-- A reader that a request leaves as it is answers it in the same way each time. -/
theorem answers_replicate {r : Reader} {q : Request} {a : Reply} (stays : r.answer q = (a, r))
    (n : Nat) : r.answers (List.replicate n q) = List.replicate n (a, r) := by
  induction n with
  | zero => rfl
  | succ n ih => rw [List.replicate_succ, answers, stays, ih, List.replicate_succ]

theorem answer_next (c : Cursor) (ended : Bool) :
    (mk c ended).answer .next = (.token c.next.1, ⟨c.next.2, ended⟩) := rfl

theorem rests_of_blanks {text : List Char} {p : Nat} (ended : Bool)
    (blanks : ∀ c ∈ text.drop p, isBlank c = true) :
    Rests text.length (onOffset text p).next.1 ⟨(onOffset text p).next.2, ended⟩ := by
  have stays := answer_next (onOffset text (p + (text.drop p).length)) ended
  rw [next_of_past (drop_add_length text p)] at stays
  rw [next_of_blanks blanks]
  refine ⟨rfl, ?_, answers_replicate stays⟩
  rw [offset_onOffset, List.length_drop]
  omega

theorem takes_of_lexeme {text gap l more : List Char} {p : Nat} {k : TokenKind} (ended : Bool)
    (split : text.drop p = gap ++ (l ++ more)) (lexeme : IsLexeme k l) :
    Takes text.length ⟨onOffset text p, ended⟩ (.ofLexeme text (p + gap.length) k l)
      ⟨onOffset text (p + gap.length + l.length), ended⟩ := by
  obtain ⟨taken, within⟩ := length_of_lexeme split lexeme
  refine ⟨lexeme.kind_ne_eof, fun empty => ?_, ?_, rfl, ?_, within⟩
  · exact lexeme.ne_nil (String.ofList_injective empty)
  · exact Int.ofNat_le.2 (Nat.le_add_right _ _)
  · rw [offset_onOffset, offset_onOffset]
    omega

/-- Single tokens are handed out as all of them are at once. -/
theorem answers_replicate_next (r : Reader) :
    (r.answers (List.replicate r.cursor.tokens.length .next)).map Prod.fst =
        r.cursor.tokens.map .token ∧
      r.afterAll (List.replicate r.cursor.tokens.length .next) = (r.answer .drain).2 := by
  obtain ⟨c, ended⟩ := r
  change _ ∧ _ = mk c.drain.2 ended
  dsimp only
  unfold tokens
  fun_induction drain c with
  | case1 c _ => exact ⟨rfl, rfl⟩
  | case2 c _ more ih =>
    obtain ⟨replies, left⟩ := ih
    rw [List.length_cons, List.replicate_succ, answers, afterAll_cons, answer_next, List.map_cons,
      List.map_cons]
    exact ⟨congrArg _ replies, left⟩

theorem Takes.not_rests {size : Nat} {r r' : Reader} {t : Token} (h : r.Takes size t r') :
    ¬ Rests size t r' := by
  intro rests
  apply h.kind_ne
  rw [rests.token_eq]
  rfl

/-- A request for a token does one of two things, and which of them depends on whether anything but
blanks is left. -/
theorem takes_or_rests (text : List Char) (p : Nat) (ended : Bool) :
    ∃ t, ∃ k ≤ (text.drop p).length,
      let r' : Reader := ⟨onOffset text (p + k), ended⟩
      (mk (onOffset text p) ended).answer .next = (.token t, r') ∧
        ((∃ c ∈ text.drop p, isBlank c = false) ∧
            Takes text.length ⟨onOffset text p, ended⟩ t r' ∨
          (∀ c ∈ text.drop p, isBlank c = true) ∧ Rests text.length t r') := by
  have answered := answer_next (onOffset text p) ended
  rcases blanks_or_lexeme (text.drop p) with
    blanks | ⟨gap, k, l, more, split, blanks, found, maximal⟩
  · have rests := rests_of_blanks ended blanks
    rw [next_of_blanks blanks] at answered rests
    exact ⟨_, _, Nat.le_refl _, answered, .inr ⟨blanks, rests⟩⟩
  · have takes := takes_of_lexeme ended split found
    rw [next_of_lexeme split blanks found maximal] at answered
    obtain ⟨c, mem⟩ := List.exists_mem_of_ne_nil l found.ne_nil
    refine ⟨.ofLexeme text (p + gap.length) k l, gap.length + l.length, ?_, ?_⟩
    · rw [split, List.length_append, List.length_append]
      omega
    · rw [← Nat.add_assoc]
      refine ⟨answered, .inl ⟨⟨c, ?_, found.not_isBlank c mem⟩, takes⟩⟩
      rw [split]
      exact List.mem_append_right _ (List.mem_append_left _ mem)

/-- After every row of requests, a request for a token is answered after single steps of the cursor,
no more than there are characters left. Either it takes a token away, or, if only blanks are left
and in no other case, it meets the end of input for good. The tokens up to the end of input are no
more than the characters left, and that one, and as many requests for a token as there are hand them
out; so the scan of a text has no more tokens than the text has characters, and one. -/
theorem next_afterAll (text : String) (qs : List Request) :
    let r := (start text).afterAll qs
    let rest := text.toList.drop r.cursor.offset
    (∃ t r', r.answer .next = (.token t, r') ∧
      (∃ k ≤ rest.length, r' = ⟨Cursor.advance^[k] r.cursor, r.iterationOver⟩) ∧
      (r.Takes text.length t r' ∨ Rests text.length t r') ∧
      (Rests text.length t r' ↔ ∀ c ∈ rest, isBlank c = true)) ∧
    (∃ ts e, (r.answer .drain).1 = .tokens (ts ++ [e]) ∧ e.kind = .eof ∧
      (∀ t ∈ ts, t.kind ≠ .eof) ∧ ts.length ≤ text.length - r.cursor.offset ∧
      let qs' := List.replicate (ts.length + 1) .next
      (r.answers qs').map Prod.fst = (ts ++ [e]).map .token ∧
        r.afterAll qs' = (r.answer .drain).2) ∧
    (scan text).length ≤ text.length + 1 := by
  obtain ⟨p, here⟩ := cursor_afterAll (cursor_start text) qs
  generalize (start text).afterAll qs = r at here ⊢
  obtain ⟨c, ended⟩ := r
  obtain rfl : c = onOffset text.toList p := here
  have fewer (p : Nat) : (onOffset text.toList p).tokens.length ≤ text.length - p + 1 := by
    rw [← String.length_toList, ← remaining_onOffset]
    exact length_tokens_le _
  refine ⟨?next, ?drain, ?scan⟩
  case next =>
    obtain ⟨t, k, within, answered, done⟩ := takes_or_rests text.toList p ended
    rw [String.length_toList] at done
    refine ⟨t, _, answered, ⟨k, within, by rw [iterate_advance]⟩, done.imp And.right And.right, ?_⟩
    rcases done with ⟨⟨c, mem, stop⟩, takes⟩ | ⟨blanks, rests⟩
    · refine ⟨fun rests => absurd rests takes.not_rests, fun blanks => ?_⟩
      rw [blanks c mem] at stop
      exact Bool.noConfusion stop
    · exact ⟨fun _ => blanks, fun _ => rests⟩
  case drain =>
    obtain ⟨ts, e, tokens, last, others⟩ := (onOffset text.toList p).tokens_eq_concat_eof
    have bound := fewer p
    have single := answers_replicate_next ⟨onOffset text.toList p, ended⟩
    rw [tokens, List.length_append, List.length_singleton] at bound single
    exact ⟨ts, e, congrArg Reply.tokens tokens, last, others, Nat.le_of_succ_le_succ bound, single⟩
  case scan =>
    rw [tokens_scan]
    exact fewer 0

end Reader

end MonkeyScan
