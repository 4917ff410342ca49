/-!
Hexadecimal digits, lower case: a number written with a fixed count of digits, and the value of a
digit in either case.
-/

namespace MonkeyScan.Text

/-- The character of a hexadecimal digit, lower case. -/
def hexDigit (d : Nat) : Char := if d < 10 then Char.ofNat (48 + d) else Char.ofNat (87 + d)

/-- The last `width` hexadecimal digits of a number. -/
def hexDigits : Nat → Nat → List Char
  | 0, _ => []
  | width + 1, n => hexDigits width (n / 16) ++ [hexDigit (n % 16)]

/-- The value of a hexadecimal digit of either case. -/
def hexValue? (c : Char) : Option Nat :=
  if '0' ≤ c ∧ c ≤ '9' then some (c.toNat - 48)
  else if 'a' ≤ c ∧ c ≤ 'f' then some (c.toNat - 87)
  else if 'A' ≤ c ∧ c ≤ 'F' then some (c.toNat - 55)
  else none

/-- The number that hexadecimal digits write; none if a character is not one. -/
def ofHex? (cs : List Char) : Option Nat :=
  cs.foldlM (fun n c => (hexValue? c).map (16 * n + ·)) 0

@[simp] theorem length_hexDigits (width n : Nat) : (hexDigits width n).length = width := by
  induction width generalizing n with
  | zero => rfl
  | succ width ih => simp [hexDigits, ih]

theorem hexValue?_hexDigit {d : Nat} (h : d < 16) : hexValue? (hexDigit d) = some d := by
  have : ∀ d < 16, hexValue? (hexDigit d) = some d := by decide
  exact this d h

theorem ofHex?_hexDigits {width n : Nat} (h : n < Nat.pow 16 width) :
    ofHex? (hexDigits width n) = some n := by
  induction width generalizing n with
  | zero =>
    change n < 1 at h
    simp [hexDigits, ofHex?]; omega
  | succ width ih =>
    change n < Nat.pow 16 width * 16 at h
    have below : n / 16 < Nat.pow 16 width := by omega
    have ih := ih below
    simp only [ofHex?] at ih
    simp only [hexDigits, ofHex?, List.foldlM_append, ih, List.foldlM_cons, List.foldlM_nil,
      hexValue?_hexDigit (Nat.mod_lt n (by decide)), Option.map_some, bind_pure,
      Option.bind_eq_bind, Option.bind_some]
    congr 1; omega

end MonkeyScan.Text
