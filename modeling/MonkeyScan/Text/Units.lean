/-!
Counting text in UTF-16: a character is one unit of sixteen bits, or two when its number does not
fit. The pair of units of such a character is the usual one of surrogates.
-/

namespace MonkeyScan.Text

/-- The UTF-16 units of a character. -/
def units (c : Char) : List Nat :=
  if c.toNat < 0x10000 then [c.toNat]
  else [0xd800 + (c.toNat - 0x10000) / 0x400, 0xdc00 + (c.toNat - 0x10000) % 0x400]

/-- The number of UTF-16 units of a text. -/
def unitCount : List Char → Nat
  | [] => 0
  | c :: cs => (units c).length + unitCount cs

@[simp] theorem unitCount_cons (c : Char) (cs : List Char) :
    unitCount (c :: cs) = (units c).length + unitCount cs := rfl

theorem length_units (c : Char) : (units c).length = if c.toNat < 0x10000 then 1 else 2 := by
  unfold units; split <;> rfl

end MonkeyScan.Text
