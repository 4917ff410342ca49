import MonkeyScan.Problem
import MonkeyScan.Proofs.JsonListings
import MonkeyScan.Proofs.Progress
import MonkeyScan.Proofs.TokenTables

/-!
The limit of digits is out of reach of a scan. A number of a place in a text is not negative and at
most one more than the characters of the text (`bounds_of_mem_numbers`), and there are no more
tokens than that. So for every text whose length can itself be written, what is said of its scan is
written to the end: a run need not ask whether its listing, its table and its problems can be
(`written_scan`).
-/

namespace MonkeyScan

namespace Position

theorem bounds_of_mem_numbers {text : List Char} {p : Nat} (h : p ≤ text.length) {n : Int}
    (mem : n ∈ (ofOffset text p).numbers) : 0 ≤ n ∧ n ≤ (text.length + 1 : Nat) := by
  have front : (text.take p).length = p := List.length_take_of_le h
  have feeds : (text.take p).count '\n' ≤ (text.take p).length := List.count_le_length
  have line : (Text.lastLine (text.take p)).length ≤ (text.take p).length :=
    (List.rtakeWhile_suffix _ _).length_le
  have column := column_ofOffset h
  rw [numbers, List.mem_cons, List.mem_cons, List.mem_singleton] at mem
  rcases mem with rfl | rfl | rfl
  · dsimp only [ofOffset]
    omega
  · omega
  · rw [offset_ofOffset]
    omega

end Position

section

variable {text : String} {t : Token} {n : Int}

theorem bounds_of_mem_scan (mem : t ∈ scan text) (number : n ∈ t.span.numbers) :
    0 ≤ n ∧ n ≤ (text.length + 1 : Nat) := by
  rw [tokens_scan] at mem
  obtain ⟨a, b, -, le, within, span⟩ := Cursor.runsWithin_tokens (Nat.zero_le _) t mem
  rw [span, Span.numbers, List.mem_append] at number
  rw [← String.length_toList]
  rcases number with start | stop
  · exact Position.bounds_of_mem_numbers (Nat.le_trans le within) start
  · exact Position.bounds_of_mem_numbers within stop

theorem length_scan_le (text : String) : (scan text).length ≤ text.length + 1 := by
  rw [tokens_scan, ← String.length_toList]
  have tokens := Cursor.length_tokens_le (.onOffset text.toList 0)
  rwa [Cursor.remaining_onOffset, Nat.sub_zero] at tokens

theorem Render.exists_of_mem_listingIntegers {format : Format} {positions : Bool}
    {ts : List Token} (mem : n ∈ listingIntegers format positions ts) :
    ∃ t ∈ ts, n ∈ t.span.numbers := by
  cases format with
  | json => exact (mem_listingIntegers_json.1 mem).2
  | text =>
    obtain ⟨-, t, here, rfl | rfl⟩ := mem_listingIntegers_text.1 mem
    · exact ⟨t, here, List.mem_cons_self⟩
    · exact ⟨t, here, List.mem_cons_of_mem _ List.mem_cons_self⟩

end

/-- The length of a text is a number that can be written, and so is one more: then every listing of
its scan is written, and its table to the end; and its problems are written if there is room in
front of their carets. -/
theorem written_scan {text : String} (below : text.length + 1 < 10 ^ Text.mostDigits) :
    (∀ format positions, Render.writeListing format positions (scan text) =
        .ok (Render.listing format positions (scan text))) ∧
      Render.writeTable (scan text) = ⟨Render.table (scan text), none⟩ ∧
      ∀ p ∈ Problem.ofTokens (scan text) text, ∀ file,
        p.position.column ≤ Problem.widestRoom → p.written file = .ok (p.snippet file) := by
  have short : ∀ t ∈ scan text, ∀ n ∈ t.span.numbers, Text.Short n := fun t mem n number =>
    let ⟨nonneg, le⟩ := bounds_of_mem_scan mem number
    Text.short_of_le nonneg le below
  refine ⟨fun format positions => ?listing, ?table, fun p mem file room => ?problem⟩
  case listing =>
    refine Text.written_of_short (fun n mem => ?_) _
    obtain ⟨t, mem, number⟩ := Render.exists_of_mem_listingIntegers mem
    exact short t mem n number
  case table =>
    have fewer : (scan text).length ≤ 10 ^ Text.mostDigits :=
      Nat.le_trans (length_scan_le text) (Nat.le_of_lt below)
    have ended : (Render.writeTable (scan text)).failure? = none :=
      (Render.failure?_writeTableFrom 0 _).2 ((Render.fitting_eq_zipIdx_iff _).2 ⟨fewer, short⟩)
    rw [← Render.text_writeTable ended, ← ended]
  case problem =>
    obtain ⟨t, illegal, rfl⟩ := List.mem_map.1 mem
    have here : t ∈ scan text := List.mem_of_mem_filter illegal
    have column : t.span.start.column ∈ t.span.numbers :=
      List.mem_cons_of_mem _ List.mem_cons_self
    have place : ∀ n ∈ [t.span.start.line, t.span.start.column], Text.Short n :=
      List.forall_mem_cons.2 ⟨short t here _ List.mem_cons_self,
        List.forall_mem_singleton.2 (short t here _ column)⟩
    rw [Problem.written, Problem.shown_eq (bounds_of_mem_scan here column).1 room file]
    exact congrArg (Except.mapError _) (Text.written_of_short place _)

end MonkeyScan
