/-!
Whole numbers in decimal: the digits of a natural number, most significant first and without
leading zeros, and a minus sign before those of a negative one. Reading the digits back gives the
number. There is a limit to the digits of an integer that is read or written; a text that an integer
beyond the limit is part of is not written at all (`written`).
-/

namespace MonkeyScan.Text

/-- The character of a digit below ten. -/
def digit (d : Nat) : Char := Char.ofNat (48 + d)

/-- The decimal digits of a natural number. -/
def digits (n : Nat) : List Char :=
  if n < 10 then [digit n] else digits (n / 10) ++ [digit (n % 10)]

/-- The number that a run of decimal digits writes. -/
def ofDigits (cs : List Char) : Nat := cs.foldl (fun n c => 10 * n + (c.toNat - 48)) 0

/-- The decimal form of an integer. -/
def integer : Int → List Char
  | .ofNat n => digits n
  | .negSucc n => '-' :: digits (n + 1)

/-- The decimal digits of a number, filled up with zeros on the left to a width. -/
def padded (width n : Nat) : List Char :=
  List.replicate (width - (digits n).length) '0' ++ digits n

/-! ### The limit -/

/-- The most digits of an integer that is read or written in decimal. -/
def mostDigits : Nat := 4300

/-- An integer is short enough to be written. Its sign does not count. -/
def Short (n : Int) : Prop := (digits n.natAbs).length ≤ mostDigits

instance (n : Int) : Decidable (Short n) := inferInstanceAs (Decidable (_ ≤ _))

/-- Why an integer is not written. -/
inductive NumeralError where
  /-- It has more digits than the limit. -/
  | tooLong
deriving DecidableEq

/-- The words for an integer beyond the limit, with what is known of it. -/
def beyondLimit (known : String) : String :=
  "Exceeds the limit (" ++ String.ofList (digits mostDigits) ++
    " digits) for integer string conversion" ++ known ++
    "; use sys.set_int_max_str_digits() to increase the limit"

/-- The words for why an integer is not written. -/
def NumeralError.message : NumeralError → String
  | tooLong => beyondLimit ""

/-- A text that some integers are part of, if all of them are short enough to be written. -/
def written (parts : List Int) (text : String) : Except NumeralError String :=
  if ∀ n ∈ parts, Short n then .ok text else .error .tooLong

theorem written_of_short {parts : List Int} (short : ∀ n ∈ parts, Short n) (text : String) :
    written parts text = .ok text := if_pos short

theorem written_of_long {parts : List Int} (long : ¬ ∀ n ∈ parts, Short n) (text : String) :
    written parts text = .error .tooLong := if_neg long

theorem written_eq_ok_iff {parts : List Int} {text out : String} :
    written parts text = .ok out ↔ (∀ n ∈ parts, Short n) ∧ text = out := by
  unfold written
  split
  case isTrue short => exact ⟨fun h => ⟨short, Except.ok.inj h⟩, fun h => congrArg _ h.2⟩
  case isFalse long => exact ⟨nofun, fun h => absurd h.1 long⟩

/-! ### Digits -/

theorem toNat_digit {d : Nat} (h : d < 10) : (digit d).toNat = 48 + d := by
  have : ∀ d < 10, (digit d).toNat = 48 + d := by decide
  exact this d h

theorem digits_of_lt {n : Nat} (h : n < 10) : digits n = [digit n] := by
  rw [digits, if_pos h]

theorem digits_of_ge {n : Nat} (h : 10 ≤ n) : digits n = digits (n / 10) ++ [digit (n % 10)] := by
  rw [digits, if_neg (by omega)]

theorem ofDigits_concat (cs : List Char) (c : Char) :
    ofDigits (cs ++ [c]) = 10 * ofDigits cs + (c.toNat - 48) := by
  simp [ofDigits]

theorem ofDigits_digits (n : Nat) : ofDigits (digits n) = n := by
  induction n using Nat.strongRecOn with
  | ind n ih =>
    by_cases h : n < 10
    · simp [digits_of_lt h, ofDigits, toNat_digit h]
    · rw [digits_of_ge (by omega), ofDigits_concat, ih _ (by omega),
        toNat_digit (Nat.mod_lt _ (by decide))]
      omega

end MonkeyScan.Text
