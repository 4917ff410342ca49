import Mathlib.Algebra.Ring.Int.Defs
import Mathlib.Algebra.Ring.Nat
import MonkeyScan.Text.Decimal
import MonkeyScan.Text.Hex

/-!
The characters of numerals. Decimal ones are digits only, of which the first is a zero for the
number zero alone, with a minus sign in front of a negative integer; hexadecimal ones are
hexadecimal digits. An integer is read back from the front of a text in which no digit follows it
(`leadingInteger?_integer`), and it is short enough to be written when it is below a power of ten
(`short_iff`).
-/

namespace MonkeyScan.Text

theorem isDigit_digit {d : Nat} (h : d < 10) : (digit d).isDigit = true := by
  have : ∀ d < 10, (digit d).isDigit = true := by decide
  exact this d h

theorem isDigit_of_mem_digits {n : Nat} {c : Char} (mem : c ∈ digits n) : c.isDigit = true := by
  induction n using Nat.strongRecOn with
  | ind n ih =>
    by_cases small : n < 10
    · rw [digits_of_lt small, List.mem_singleton] at mem
      rw [mem]
      exact isDigit_digit small
    · rw [digits_of_ge (by omega), List.mem_append, List.mem_singleton] at mem
      rcases mem with front | rfl
      · exact ih (n / 10) (by omega) front
      · exact isDigit_digit (by omega)

theorem digits_ne_nil (n : Nat) : digits n ≠ [] := by
  rw [digits]
  split <;> simp

/-- A numeral of more than one digit does not start with a zero. -/
theorem head?_digits {n : Nat} (h : 0 < n) : (digits n).head? ≠ some '0' := by
  induction n using Nat.strongRecOn with
  | ind n ih =>
    by_cases small : n < 10
    · have : ∀ n < 10, 0 < n → [digit n].head? ≠ some '0' := by decide
      rw [digits_of_lt small]
      exact this n small h
    · have front := ih (n / 10) (by omega) (by omega)
      obtain ⟨d, ds, split⟩ := List.exists_cons_of_ne_nil (digits_ne_nil (n / 10))
      rw [split] at front
      rw [digits_of_ge (by omega), split]
      exact front

theorem integer_ne_nil (n : Int) : integer n ≠ [] := by
  cases n with
  | ofNat n => exact digits_ne_nil n
  | negSucc n => exact List.cons_ne_nil _ _

theorem of_mem_integer {n : Int} {c : Char} (mem : c ∈ integer n) :
    c = '-' ∨ c.isDigit = true := by
  cases n with
  | ofNat n => exact .inr (isDigit_of_mem_digits mem)
  | negSucc n => exact (List.mem_cons.1 mem).imp id isDigit_of_mem_digits

theorem toNat_of_mem_integer {n : Int} {c : Char} (mem : c ∈ integer n) :
    0x2d ≤ c.toNat ∧ c.toNat ≤ 0x39 := by
  rcases of_mem_integer mem with rfl | digit
  · decide
  · have bounds : 0x30 ≤ c.toNat ∧ c.toNat ≤ 0x39 := by
      simpa [Char.isDigit, UInt32.le_iff_toNat_le] using digit
    omega

theorem not_mem_integer {c : Char} (minus : c ≠ '-') (digit : c.isDigit = false) (n : Int) :
    c ∉ integer n := by
  intro mem
  rcases of_mem_integer mem with isMinus | isDigit
  · exact minus isMinus
  · rw [digit] at isDigit
    exact Bool.noConfusion isDigit

/-! ## The limit -/

/-- A number has at most so many digits when it is below that power of ten. -/
theorem length_digits_le_iff {n k : Nat} (positive : 0 < k) :
    (digits n).length ≤ k ↔ n < 10 ^ k := by
  obtain ⟨k, rfl⟩ := Nat.exists_eq_add_one.2 positive
  induction k generalizing n with
  | zero =>
    by_cases small : n < 10
    · simp [digits_of_lt small, small]
    · have front := List.length_pos_iff.2 (digits_ne_nil (n / 10))
      rw [digits_of_ge (by omega), List.length_append, List.length_singleton]
      omega
  | succ k ih =>
    by_cases small : n < 10
    · have below : n < 10 ^ (k + 1 + 1) :=
        Nat.lt_of_lt_of_le small (Nat.le_self_pow (by omega) 10)
      simp [digits_of_lt small, below]
    · rw [digits_of_ge (by omega), List.length_append, List.length_singleton,
        Nat.add_le_add_iff_right, ih (Nat.succ_pos k), Nat.div_lt_iff_lt_mul (by decide),
        ← Nat.pow_succ]

theorem short_iff {n : Int} : Short n ↔ n.natAbs < 10 ^ mostDigits :=
  length_digits_le_iff (by decide)

/-- The least positive integer beyond the limit. -/
theorem not_short_ten_pow : ¬ Short (10 ^ mostDigits) := by
  have base : (10 : Int).natAbs = 10 := rfl
  rw [short_iff, Int.natAbs_pow, base]
  exact Nat.lt_irrefl _

theorem short_of_le {n : Int} {bound : Nat} (nonneg : 0 ≤ n) (le : n ≤ bound)
    (below : bound < 10 ^ mostDigits) : Short n := by
  have size : n.natAbs ≤ bound := Int.ofNat_le.1 (Int.natAbs_of_nonneg nonneg ▸ le)
  exact short_iff.2 (Nat.lt_of_le_of_lt size below)

/-! ## Reading -/

/-- What stands behind a mark that a text starts with. -/
def behind? (mark : Char) : List Char → Option (List Char)
  | [] => none
  | c :: cs => if c = mark then some cs else none

/-- The number in the digits that a text starts with, and what stands behind them. -/
def leadingNumber? (cs : List Char) : Option (Nat × List Char) :=
  let run := cs.takeWhile Char.isDigit
  if run = [] then none else some (ofDigits run, cs.drop run.length)

/-- The integer that a text starts with, and what stands behind it. -/
def leadingInteger? (cs : List Char) : Option (Int × List Char) :=
  match leadingNumber? cs with
  | some (n, more) => some (n, more)
  | none =>
    (behind? '-' cs).bind fun cs => (leadingNumber? cs).map fun (n, more) => (-n, more)

@[simp] theorem behind?_cons (mark : Char) (cs : List Char) :
    behind? mark (mark :: cs) = some cs := by
  rw [behind?, if_pos rfl]

section

variable {more : List Char}

theorem leadingNumber?_digits (stop : more.takeWhile Char.isDigit = []) (n : Nat) :
    leadingNumber? (digits n ++ more) = some (n, more) := by
  have run : (digits n ++ more).takeWhile Char.isDigit = digits n := by
    rw [List.takeWhile_append_of_pos fun _ => isDigit_of_mem_digits, stop, List.append_nil]
  rw [leadingNumber?, run, if_neg (digits_ne_nil n), List.drop_left, ofDigits_digits]

/-- An integer is read back, whatever comes behind it other than a digit. -/
theorem leadingInteger?_integer (stop : more.takeWhile Char.isDigit = []) (n : Int) :
    leadingInteger? (integer n ++ more) = some (n, more) := by
  cases n with
  | ofNat n =>
    rw [integer, leadingInteger?, leadingNumber?_digits stop]
    rfl
  | negSucc n =>
    have unsigned : leadingNumber? ('-' :: (digits (n + 1) ++ more)) = none := rfl
    rw [integer, List.cons_append, leadingInteger?, unsigned, behind?_cons, Option.bind_some,
      leadingNumber?_digits stop]
    rfl

end

/-! ## Hexadecimal digits -/

theorem of_mem_hexDigits {width n : Nat} {c : Char} (mem : c ∈ hexDigits width n) :
    ∃ d < 16, hexDigit d = c := by
  induction width generalizing n with
  | zero => exact absurd mem List.not_mem_nil
  | succ width ih =>
    rw [hexDigits, List.mem_append, List.mem_singleton] at mem
    rcases mem with front | rfl
    · exact ih front
    · exact ⟨n % 16, Nat.mod_lt _ (by decide), rfl⟩

end MonkeyScan.Text
