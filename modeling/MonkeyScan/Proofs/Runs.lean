import MonkeyScan.Proofs.CursorState

/-!
The runs of a reader. Three requests take a run of characters of one class each: blanks, a word, a
number (`Run`). Whatever has been asked before, such a request takes the longest run that the rest
of the text starts with (`LongestRun`), which is empty at the end of the text and beyond, and it
leaves the reader where as many single steps lead. No run of the class is left there
(`LongestRun.behind`), so that a second request takes nothing. Main statement: `run_afterAll`.
-/

namespace MonkeyScan

/-- A text starts with a run of characters of a class, and with none that is longer. -/
structure LongestRun (p : Char → Bool) (cs run : List Char) : Prop where
  starts : run <+: cs
  inside : ∀ c ∈ run, p c = true
  longest : ∀ other, other <+: cs → (∀ c ∈ other, p c = true) → other.length ≤ run.length

namespace LongestRun

variable {p : Char → Bool} {cs run : List Char}

theorem takeWhile (p : Char → Bool) (cs : List Char) : LongestRun p cs (cs.takeWhile p) where
  starts := List.takeWhile_prefix p
  inside := List.all_eq_true.1 List.all_takeWhile
  longest other starts inside := by
    obtain ⟨more, rfl⟩ := starts
    rw [List.takeWhile_append_of_pos inside, List.length_append]
    exact Nat.le_add_right _ _

/-- There is only one longest run. -/
theorem unique {other : List Char} (h : LongestRun p cs run) (h' : LongestRun p cs other) :
    run = other := by
  have shorter : run.length ≤ other.length := h'.longest run h.starts h.inside
  have longer : other.length ≤ run.length := h.longest other h'.starts h'.inside
  have within : run <+: other := List.prefix_of_prefix_length_le h.starts h'.starts shorter
  exact within.eq_of_length_le longer

/-- Behind the longest run there is no run: it would have been longer. -/
theorem behind (h : LongestRun p cs run) : LongestRun p (cs.drop run.length) [] where
  starts := List.nil_prefix
  inside := by simp
  longest other starts inside := by
    obtain ⟨more, split⟩ := h.starts
    rw [← split, List.drop_left] at starts
    have joined : run ++ other <+: cs := split ▸ (List.prefix_append_right_inj run).2 starts
    have members : ∀ c ∈ run ++ other, p c = true := fun c mem =>
      (List.mem_append.1 mem).elim (h.inside c) (inside c)
    have bound := h.longest _ joined members
    rw [List.length_append] at bound
    rw [List.length_nil]
    omega

end LongestRun

/-- The classes that runs are taken of. -/
inductive Run where
  | blanks
  | word
  | number
deriving DecidableEq

namespace Run

open Alphabet

/-- Whether a run takes a character. -/
def holds : Run → Char → Bool
  | blanks => isBlank
  | word => isLetter
  | number => isDigit

/-- The request for a run. -/
def request : Run → Request
  | blanks => .skipBlanks
  | word => .word
  | number => .number

/-- The reply with a run: blanks are stepped over, and not handed out. -/
def reply : Run → List Char → Reply
  | blanks, _ => .nothing
  | word, run => .text (String.ofList run)
  | number, run => .text (String.ofList run)

end Run

namespace Reader

open Cursor

/-- A request for a run takes the longest one. -/
theorem answer_run {kind : Run} {text run : List Char} {p : Nat}
    (longest : LongestRun kind.holds (text.drop p) run) (ended : Bool) :
    (mk (onOffset text p) ended).answer kind.request =
      (kind.reply run, ⟨onOffset text (p + run.length), ended⟩) := by
  obtain rfl : run = (text.drop p).takeWhile kind.holds := longest.unique (.takeWhile _ _)
  cases kind with
  | blanks => exact congrArg (fun c => (Reply.nothing, mk c ended)) (skipBlanks_onOffset text p)
  | word => exact congrArg (fun a => (Reply.text a.1, mk a.2 ended)) (word_onOffset text p)
  | number => exact congrArg (fun a => (Reply.text a.1, mk a.2 ended)) (number_onOffset text p)

/-- After every row of requests, a request for a run takes the longest one that the rest of the text
starts with, and leaves the reader where as many single steps lead, farther on by as many
characters. So the reader stays as it is if and only if there is no run; and a second request for a
run of the same class takes nothing, and leaves the reader as it is. -/
theorem run_afterAll (text : String) (qs : List Request) (kind : Run) :
    let r := (start text).afterAll qs
    ∃ run, LongestRun kind.holds (text.toList.drop r.cursor.offset) run ∧
      let r' : Reader := ⟨Cursor.advance^[run.length] r.cursor, r.iterationOver⟩
      r.answer kind.request = (kind.reply run, r') ∧
        r'.cursor.offset = r.cursor.offset + run.length ∧
        (r' = r ↔ run = []) ∧
        r'.answer kind.request = (kind.reply [], r') := by
  obtain ⟨p, here⟩ := cursor_afterAll (cursor_start text) qs
  generalize (start text).afterAll qs = r at here ⊢
  obtain ⟨c, ended⟩ := r
  obtain rfl : c = onOffset text.toList p := here
  have longest := LongestRun.takeWhile kind.holds (text.toList.drop p)
  generalize (text.toList.drop p).takeWhile kind.holds = run at longest
  have none := longest.behind
  rw [List.drop_drop] at none
  refine ⟨run, longest, ?_⟩
  dsimp only
  rw [iterate_advance]
  refine ⟨answer_run longest ended, rfl, ⟨fun same => ?_, ?_⟩, answer_run none ended⟩
  · have offsets : p + run.length = p := congrArg (fun r : Reader => r.cursor.offset) same
    exact List.length_eq_zero_iff.1 (by omega)
  · rintro rfl
    rfl

end Reader

end MonkeyScan
