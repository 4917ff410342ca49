import MonkeyScan.Proofs.Munch

/-!
Sharing a cursor. However requests for tokens are mixed, the tokens handed out are those of a scan,
in order and without a gap, and then copies of its end of input. `HandsOut` says it of two cursors,
one before and one after; it holds of every request that takes tokens or only looks
(`handsOut_answer`), and it can be put together (`HandsOut.trans`). The open iteration is over when
it has itself handed out the end of input, and not before (`iterationOver_afterAll`). Main
statement: `handedOut_afterAll`.
-/

namespace MonkeyScan

open Alphabet Grammar

namespace Cursor

/-- From one cursor to another tokens are handed out: they and the tokens left are the tokens to
come, or they are all tokens to come and copies of the last one, which is then left. -/
def HandsOut (c : Cursor) (ts : List Token) (behind : Cursor) : Prop :=
  ts ++ behind.tokens = c.tokens ∨
    ∃ e n, c.tokens.getLast? = some e ∧ ts = c.tokens ++ List.replicate n e ∧ behind.tokens = [e]

theorem HandsOut.nothing {c behind : Cursor} (same : behind.tokens = c.tokens) :
    c.HandsOut [] behind :=
  .inl same

theorem HandsOut.trans {c between behind : Cursor} {ts us : List Token} (h : c.HandsOut ts between)
    (h' : between.HandsOut us behind) : c.HandsOut (ts ++ us) behind := by
  rcases h with taken | ⟨e, n, last, taken, left⟩
  · rcases h' with taken' | ⟨e, n, last, taken', left⟩
    · exact .inl (by rw [List.append_assoc, taken', taken])
    · refine .inr ⟨e, n, ?_, ?_, left⟩
      · rw [← taken, List.getLast?_append, last]
        rfl
      · rw [taken', ← List.append_assoc, taken]
  · right
    rcases h' with taken' | ⟨e', m, last', taken', left'⟩
    · rw [left, List.append_eq_singleton_iff] at taken'
      rcases taken' with ⟨rfl, left'⟩ | ⟨-, none⟩
      · exact ⟨e, n, last, by rw [List.append_nil, taken], left'⟩
      · exact absurd none behind.tokens_ne_nil
    · obtain rfl : e = e' := by simpa [left] using last'
      refine ⟨e, n + (m + 1), last, ?_, left'⟩
      rw [taken, taken', left, List.append_assoc, List.singleton_append, ← List.replicate_succ,
        List.replicate_append_replicate]

/-- The end of input is handed out again and again. -/
theorem tokens_next_of_eof {text : List Char} {p : Nat}
    (ended : (onOffset text p).next.1.kind = .eof) :
    (onOffset text p).next.2.tokens = [(onOffset text p).next.1] := by
  rcases blanks_or_lexeme (text.drop p) with
    blanks | ⟨gap, k, l, more, split, blanks, found, maximal⟩
  · rw [next_of_blanks blanks, tokens_eq, next_of_past (drop_add_length text p)]
    exact if_pos rfl
  · rw [next_of_lexeme split blanks found maximal] at ended
    exact absurd ended found.kind_ne_eof

theorem handsOut_next (text : List Char) (p : Nat) :
    (onOffset text p).HandsOut [(onOffset text p).next.1] (onOffset text p).next.2 := by
  have tokens := tokens_eq (onOffset text p)
  by_cases ended : (onOffset text p).next.1.kind = .eof
  · rw [if_pos ended] at tokens
    exact .inr ⟨_, 0, by rw [tokens]; rfl, by rw [tokens]; rfl, tokens_next_of_eof ended⟩
  · rw [if_neg ended] at tokens
    exact .inl tokens.symm

theorem handsOut_drain (text : List Char) (p : Nat) :
    (onOffset text p).HandsOut (onOffset text p).drain.1 (onOffset text p).drain.2 := by
  generalize here : onOffset text p = c
  fun_induction drain c generalizing p with
  | case1 c _ =>
    rw [← here]
    exact handsOut_next text p
  | case2 c _ more ih =>
    obtain ⟨k, -, behind⟩ := next_reach text p
    rw [here] at behind
    have first := handsOut_next text p
    rw [here] at first
    exact first.trans (ih (p + k) behind.symm)

/-- Steps over blanks take no token away. -/
theorem tokens_skipBlanks (text : List Char) (p : Nat) :
    (onOffset text p).skipBlanks.tokens = (onOffset text p).tokens := by
  have split := (List.takeWhile_append_dropWhile (p := isBlank) (l := text.drop p)).symm
  rw [skipBlanks_onOffset, tokens_of_gap split (List.all_eq_true.1 List.all_takeWhile)]

end Cursor

/-- The tokens that a reply hands out. -/
def Reply.handedOut : Reply → List Token
  | .token t => [t]
  | .tokens ts => ts
  | .nothing | .text _ | .place _ => []

namespace Reader

open Cursor

/-- The tokens that the replies to a row of requests hand out. -/
def handedOut (r : Reader) (qs : List Request) : List Token :=
  (r.answers qs).flatMap fun a => a.1.handedOut

/-- Some reply to the open iteration is the end of input. -/
def IterationEnded (r : Reader) (qs : List Request) : Prop :=
  ∃ t, (Request.iterate, Reply.token t) ∈ qs.zip ((r.answers qs).map Prod.fst) ∧ t.kind = .eof

/-- The requests that take tokens, or only look, or step over blanks. -/
def wholeRequests : List Request := [.next, .iterate, .drain, .peek, .place, .skipBlanks]

theorem handsOut_answer {text : List Char} {p : Nat} {r : Reader}
    (here : r.cursor = onOffset text p) {q : Request} (whole : q ∈ wholeRequests) :
    r.cursor.HandsOut (r.answer q).1.handedOut (r.answer q).2.cursor := by
  have stay : r.cursor.HandsOut [] r.cursor := .nothing rfl
  cases q with
  | next =>
    rw [answer, here]
    exact handsOut_next text p
  | iterate =>
    rw [answer]
    by_cases ended : r.iterationOver = true
    · rw [if_pos ended]
      exact stay
    · rw [if_neg ended, here]
      exact handsOut_next text p
  | drain =>
    rw [answer, here]
    exact handsOut_drain text p
  | peek => exact stay
  | place => exact stay
  | skipBlanks =>
    rw [answer, here]
    exact .nothing (tokens_skipBlanks text p)
  | advance | word | number => exact absurd whole (by decide)

/-- A row of such requests hands out what its steps do. -/
theorem handsOut_afterAll {text : List Char} {p : Nat} {r : Reader}
    (here : r.cursor = onOffset text p) {qs : List Request} (whole : ∀ q ∈ qs, q ∈ wholeRequests) :
    r.cursor.HandsOut (r.handedOut qs) (r.afterAll qs).cursor := by
  induction qs generalizing r p with
  | nil => exact .nothing rfl
  | cons q qs ih =>
    obtain ⟨k, reached, -⟩ := answer_reach here q
    exact (handsOut_answer here (whole q List.mem_cons_self)).trans
      (ih reached fun q mem => whole q (List.mem_cons_of_mem _ mem))

/-! ## The open iteration -/

theorem iterationOver_answer (r : Reader) (q : Request) :
    (r.answer q).2.iterationOver = true ↔
      r.iterationOver = true ∨ q = .iterate ∧ ∃ t, (r.answer q).1 = .token t ∧ t.kind = .eof := by
  cases q with
  | iterate =>
    rw [answer]
    by_cases ended : r.iterationOver = true
    · simp [ended]
    · simp [ended]
  | _ => simp [answer]

theorem iterationEnded_cons (r : Reader) (q : Request) (qs : List Request) :
    r.IterationEnded (q :: qs) ↔
      (q = .iterate ∧ ∃ t, (r.answer q).1 = .token t ∧ t.kind = .eof) ∨
        (r.answer q).2.IterationEnded qs := by
  unfold IterationEnded
  rw [answers, List.map_cons, List.zip_cons_cons]
  simp only [List.mem_cons, Prod.mk.injEq, or_and_right, exists_or, and_assoc, exists_and_left]
  rw [eq_comm (a := q), exists_congr fun t => and_congr_left' eq_comm]

/-- The open iteration is over when it has itself handed out the end of input. -/
theorem iterationOver_afterAll (r : Reader) (qs : List Request) :
    (r.afterAll qs).iterationOver = true ↔ r.iterationOver = true ∨ r.IterationEnded qs := by
  induction qs generalizing r with
  | nil => simp [IterationEnded]
  | cons q qs ih =>
    rw [afterAll_cons, ih, iterationOver_answer, iterationEnded_cons, or_assoc]

/-- It answers nothing exactly when it is over. -/
theorem answer_iterate_eq_nothing_iff (r : Reader) :
    (r.answer .iterate).1 = .nothing ↔ r.iterationOver = true := by
  rw [answer]
  by_cases ended : r.iterationOver = true <;> simp [ended]

/-- However requests are mixed, as long as none stops the cursor within a lexeme: what is handed out
is a part of the scan from its front, or the scan and copies of its last token. The open iteration
answers nothing exactly when it has itself handed out the end of input before, and then leaves the
reader as it is. What is taken at once up to the end has one end of input, at its end. -/
theorem handedOut_afterAll (text : String) (qs : List Request)
    (whole : ∀ q ∈ qs, q ∈ wholeRequests) :
    let out := (start text).handedOut qs
    let r := (start text).afterAll qs
    (out <+: scan text ∨
        ∃ e n, (scan text).getLast? = some e ∧ out = scan text ++ List.replicate n e) ∧
      ((r.answer .iterate).1 = .nothing ↔ (start text).IterationEnded qs) ∧
      ((r.answer .iterate).1 = .nothing → (r.answer .iterate).2 = r) ∧
      ∃ ts e, (r.answer .drain).1 = .tokens (ts ++ [e]) ∧ e.kind = .eof ∧
        ∀ t ∈ ts, t.kind ≠ .eof := by
  intro out r
  have finished : r.iterationOver = true ↔ (start text).IterationEnded qs := by
    rw [iterationOver_afterAll]
    simp [start]
  refine ⟨?_, (answer_iterate_eq_nothing_iff r).trans finished, fun nothing => ?_, ?_⟩
  · have handed := handsOut_afterAll (cursor_start text) whole
    rw [HandsOut, cursor_start, ← tokens_scan] at handed
    rcases handed with taken | ⟨e, n, last, taken, -⟩
    · exact .inl ⟨_, taken⟩
    · exact .inr ⟨e, n, last, taken⟩
  · have ended := (answer_iterate_eq_nothing_iff r).1 nothing
    rw [answer, if_pos ended]
  · obtain ⟨ts, e, tokens, ended, others⟩ := r.cursor.tokens_eq_concat_eof
    exact ⟨ts, e, congrArg Reply.tokens tokens, ended, others⟩

/-- The open iteration, single tokens and a second iteration take turns, past the end of input. -/
theorem handedOut_turns :
    let qs := [.peek, .iterate, .skipBlanks, .next, .place, .drain, .iterate, .iterate, .next]
    let out := (start "let a 1").handedOut qs
    (∀ q ∈ qs, q ∈ wholeRequests) ∧
      (out <+: scan "let a 1" ∨ ∃ e n, (scan "let a 1").getLast? = some e ∧
        out = scan "let a 1" ++ List.replicate n e) := by
  intro qs out
  have whole : ∀ q ∈ qs, q ∈ wholeRequests := by decide
  exact ⟨whole, (handedOut_afterAll "let a 1" qs whole).1⟩

end Reader

end MonkeyScan
