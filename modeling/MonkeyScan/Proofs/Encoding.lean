import Mathlib
import MonkeyScan.Text.Units
import MonkeyScan.Text.Utf8

/-!
Texts as numbers and back. Every text is written in UTF-8 bytes and in UTF-16 units, and both are
read back as the text that was written. A character is read back wherever it stands, whatever
follows it. The main statements: `Utf8.decode_encode` for the bytes that files hold, and
`ofUtf16?_utf16` for the units that an editor counts in.
-/

namespace MonkeyScan.Text

/-- A character is no surrogate, and its number has at most twenty-one bits. -/
theorem toNat_char (c : Char) : c.toNat < 0xd800 ∨ 0xdfff < c.toNat ∧ c.toNat < 0x110000 := c.valid

/-! ## UTF-16 -/

/-- The UTF-16 units of a text. -/
def utf16 (cs : List Char) : List Nat := cs.flatMap units

/-- The text of UTF-16 units, a pair of surrogates being one character. -/
def ofUtf16? : List Nat → Option (List Char)
  | [] => some []
  | u :: us =>
    if u < 0xd800 ∨ 0xe000 ≤ u ∧ u < 0x10000 then (ofUtf16? us).map (Char.ofNat u :: ·)
    else match us with
      | [] => none
      | v :: us =>
        if u < 0xdc00 ∧ 0xdc00 ≤ v ∧ v < 0xe000 then
          (ofUtf16? us).map (Char.ofNat (0x10000 + (u - 0xd800) * 0x400 + (v - 0xdc00)) :: ·)
        else none

theorem utf16_cons (c : Char) (cs : List Char) : utf16 (c :: cs) = units c ++ utf16 cs :=
  List.flatMap_cons

theorem utf16_append (cs ds : List Char) : utf16 (cs ++ ds) = utf16 cs ++ utf16 ds :=
  List.flatMap_append

theorem length_utf16 (cs : List Char) : (utf16 cs).length = unitCount cs := by
  induction cs with
  | nil => rfl
  | cons c cs ih => rw [utf16_cons, List.length_append, unitCount_cons, ih]

/-- Units are read back one character at a time. -/
theorem ofUtf16?_units_append (c : Char) (us : List Nat) :
    ofUtf16? (units c ++ us) = (ofUtf16? us).map (c :: ·) := by
  have valid := toNat_char c
  unfold units
  by_cases small : c.toNat < 0x10000
  · rw [if_pos small, List.singleton_append, ofUtf16?.eq_def]
    dsimp only
    rw [if_pos (by omega), Char.ofNat_toNat]
  · have number : 0x10000 + (0xd800 + (c.toNat - 0x10000) / 0x400 - 0xd800) * 0x400 +
        (0xdc00 + (c.toNat - 0x10000) % 0x400 - 0xdc00) = c.toNat := by omega
    rw [if_neg small, List.cons_append, List.singleton_append, ofUtf16?.eq_def]
    dsimp only
    rw [if_neg (by omega), if_pos (by omega), number, Char.ofNat_toNat]

theorem ofUtf16?_utf16 (cs : List Char) : ofUtf16? (utf16 cs) = some cs := by
  induction cs with
  | nil => rfl
  | cons c cs ih =>
    rw [utf16_cons, ofUtf16?_units_append, ih, Option.map_some]

/-! ## UTF-8 -/

namespace Utf8

theorem isContinuation_iff (b : UInt8) :
    isContinuation b = true ↔ 0x80 ≤ b.toNat ∧ b.toNat ≤ 0xbf := by
  simp only [isContinuation, Bool.and_eq_true, decide_eq_true_eq, UInt8.le_iff_toNat_le]
  rfl

theorem isSecond_iff (a b : UInt8) :
    isSecond a b = true ↔
      (if a.toNat = 0xe0 then 0xa0 else if a.toNat = 0xf0 then 0x90 else 0x80) ≤ b.toNat ∧
        b.toNat ≤ (if a.toNat = 0xed then 0x9f else if a.toNat = 0xf4 then 0x8f else 0xbf) := by
  simp only [isSecond, Bool.and_eq_true, decide_eq_true_eq, UInt8.le_iff_toNat_le,
    ← UInt8.toNat_inj, apply_ite UInt8.toNat]
  rfl

theorem decodeFrom_one (offset : Nat) {a : UInt8} (h : a.toNat < 0x80) (bytes : List UInt8) :
    decodeFrom offset (a :: bytes) =
      (decodeFrom (offset + 1) bytes).map (Char.ofNat a.toNat :: ·) := by
  rw [decodeFrom.eq_def]
  dsimp only
  rw [if_pos (UInt8.lt_iff_toNat_lt.2 h)]
  rfl

theorem decodeFrom_two (offset : Nat) {a b : UInt8} (h : 0xc2 ≤ a.toNat) (h' : a.toNat < 0xe0)
    (hb : isContinuation b = true) (bytes : List UInt8) :
    decodeFrom offset (a :: b :: bytes) =
      (decodeFrom (offset + 2) bytes).map (Char.ofNat (a.toNat % 32 * 64 + low b) :: ·) := by
  have above (n : UInt8) (le : n.toNat ≤ 0xc2) : ¬ a < n := by
    rw [UInt8.lt_iff_toNat_lt]
    omega
  rw [decodeFrom.eq_def]
  dsimp only
  rw [if_neg (above 0x80 (by decide)), if_neg (above 0xc2 (by decide)),
    if_pos (UInt8.lt_iff_toNat_lt.2 h'), if_pos hb]
  rfl

theorem decodeFrom_three (offset : Nat) {a b c : UInt8} (h : 0xe0 ≤ a.toNat) (h' : a.toNat < 0xf0)
    (hb : isSecond a b = true) (hc : isContinuation c = true) (bytes : List UInt8) :
    decodeFrom offset (a :: b :: c :: bytes) =
      (decodeFrom (offset + 3) bytes).map
        (Char.ofNat (a.toNat % 16 * 4096 + low b * 64 + low c) :: ·) := by
  have above (n : UInt8) (le : n.toNat ≤ 0xe0) : ¬ a < n := by
    rw [UInt8.lt_iff_toNat_lt]
    omega
  rw [decodeFrom.eq_def]
  dsimp only
  rw [if_neg (above 0x80 (by decide)), if_neg (above 0xc2 (by decide)),
    if_neg (above 0xe0 (by decide)), if_pos (UInt8.lt_iff_toNat_lt.2 h'), if_pos hb, if_pos hc]
  rfl

theorem decodeFrom_four (offset : Nat) {a b c d : UInt8} (h : 0xf0 ≤ a.toNat) (h' : a.toNat < 0xf5)
    (hb : isSecond a b = true) (hc : isContinuation c = true) (hd : isContinuation d = true)
    (bytes : List UInt8) :
    decodeFrom offset (a :: b :: c :: d :: bytes) =
      (decodeFrom (offset + 4) bytes).map
        (Char.ofNat (a.toNat % 8 * 262144 + low b * 4096 + low c * 64 + low d) :: ·) := by
  have above (n : UInt8) (le : n.toNat ≤ 0xf0) : ¬ a < n := by
    rw [UInt8.lt_iff_toNat_lt]
    omega
  rw [decodeFrom.eq_def]
  dsimp only
  rw [if_neg (above 0x80 (by decide)), if_neg (above 0xc2 (by decide)),
    if_neg (above 0xe0 (by decide)), if_neg (above 0xf0 (by decide)),
    if_pos (UInt8.lt_iff_toNat_lt.2 h'), if_pos hb, if_pos hc, if_pos hd]
  rfl

/-- A byte that holds the low six bits of a number. -/
theorem toNat_continuation (n : Nat) : (UInt8.ofNat (n % 64 + 0x80)).toNat = n % 64 + 0x80 := by
  rw [UInt8.toNat_ofNat']
  omega

theorem isContinuation_continuation (n : Nat) :
    isContinuation (UInt8.ofNat (n % 64 + 0x80)) = true := by
  rw [isContinuation_iff, toNat_continuation]
  omega

theorem low_continuation (n : Nat) : low (UInt8.ofNat (n % 64 + 0x80)) = n % 64 := by
  rw [low, toNat_continuation]
  omega

/-- Bytes are read back one character at a time. -/
theorem decodeFrom_utf8EncodeChar_append (offset : Nat) (ch : Char) (bytes : List UInt8) :
    decodeFrom offset (String.utf8EncodeChar ch ++ bytes) =
      (decodeFrom (offset + (String.utf8EncodeChar ch).length) bytes).map (ch :: ·) := by
  have valid := toNat_char ch
  have toNat (n : Nat) (h : n < 256) : (UInt8.ofNat n).toNat = n := by
    rw [UInt8.toNat_ofNat', Nat.mod_eq_of_lt h]
  fun_cases String.utf8EncodeChar ch with
  | case1 v one =>
    have same : v = ch.toNat := rfl
    have first := toNat v (by omega)
    rw [List.singleton_append, decodeFrom_one offset (by omega), first, same, Char.ofNat_toNat]
    rfl
  | case2 v one two =>
    have same : v = ch.toNat := rfl
    have first := toNat (v / 64 % 32 + 0xc0) (by omega)
    have number : (v / 64 % 32 + 0xc0) % 32 * 64 + v % 64 = ch.toNat := by omega
    rw [List.cons_append, List.singleton_append,
      decodeFrom_two offset (by omega) (by omega) (isContinuation_continuation v), first,
      low_continuation, number, Char.ofNat_toNat]
    rfl
  | case3 v one two three =>
    have same : v = ch.toNat := rfl
    have first := toNat (v / 4096 % 16 + 0xe0) (by omega)
    have number : (v / 4096 % 16 + 0xe0) % 16 * 4096 + v / 64 % 64 * 64 + v % 64 = ch.toNat := by
      omega
    -- the ranges of the second byte leave out short numbers and surrogates
    have second :
        isSecond (.ofNat (v / 4096 % 16 + 0xe0)) (.ofNat (v / 64 % 64 + 0x80)) = true := by
      rw [isSecond_iff, first, toNat_continuation]
      split_ifs <;> omega
    rw [List.cons_append, List.cons_append, List.singleton_append,
      decodeFrom_three offset (by omega) (by omega) second (isContinuation_continuation v), first,
      low_continuation, low_continuation, number, Char.ofNat_toNat]
    rfl
  | case4 v one two three =>
    have same : v = ch.toNat := rfl
    have first := toNat (v / 262144 % 8 + 0xf0) (by omega)
    have number : (v / 262144 % 8 + 0xf0) % 8 * 262144 + v / 4096 % 64 * 4096 + v / 64 % 64 * 64 +
        v % 64 = ch.toNat := by
      omega
    have second :
        isSecond (.ofNat (v / 262144 % 8 + 0xf0)) (.ofNat (v / 4096 % 64 + 0x80)) = true := by
      rw [isSecond_iff, first, toNat_continuation]
      split_ifs <;> omega
    rw [List.cons_append, List.cons_append, List.cons_append, List.singleton_append,
      decodeFrom_four offset (by omega) (by omega) second (isContinuation_continuation _)
        (isContinuation_continuation v), first,
      low_continuation, low_continuation, low_continuation, number, Char.ofNat_toNat]
    rfl

theorem decodeFrom_flatMap (offset : Nat) (cs : List Char) :
    decodeFrom offset (cs.flatMap String.utf8EncodeChar) = .ok cs := by
  induction cs generalizing offset with
  | nil => rfl
  | cons c cs ih =>
    rw [List.flatMap_cons, decodeFrom_utf8EncodeChar_append, ih]
    rfl

theorem decode_encode (s : String) : decode (encode s) = .ok s := by
  rw [decode, encode, decodeFrom_flatMap]
  exact congrArg Except.ok String.ofList_toList

end Utf8

end MonkeyScan.Text
