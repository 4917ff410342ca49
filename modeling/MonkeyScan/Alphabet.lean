import MonkeyScan.Token

/-!
The classes of characters. A character is a letter, a digit, a blank or a symbol, or it is illegal;
all classes lie within ASCII. The classes of letters, digits and blanks are also read on whole
texts: by order for letters and digits, by containment for blanks. On a text of at most one
character, which is all that a cursor stands on, both readings agree.
-/

namespace MonkeyScan

namespace Alphabet

/-- An ASCII letter or the underscore. -/
def isLetter (c : Char) : Bool := ('a' ≤ c && c ≤ 'z') || ('A' ≤ c && c ≤ 'Z') || c == '_'

/-- An ASCII digit. -/
def isDigit (c : Char) : Bool := '0' ≤ c && c ≤ '9'

/-- The characters that may stand between tokens: space, tab, line feed, carriage return. -/
def blanks : List Char := [' ', '\t', '\n', '\r']

/-- A character that may stand between tokens. -/
def isBlank (c : Char) : Bool := blanks.contains c

/-- An operator or delimiter of one character. -/
def isSymbol (c : Char) : Bool := (TokenKind.symbols.lookup c).isSome

/-- A character outside every class. -/
def isIllegal (c : Char) : Bool := !(isLetter c || isDigit c || isBlank c || isSymbol c)

/-- Whether a text sorts from `lo` up to and including `hi`, as the words of a dictionary do. -/
def sortsWithin (lo hi : Char) (s : List Char) : Bool := !decide (s < [lo]) && !decide ([hi] < s)

/-- A text that sorts among the letters, or is an underscore. -/
def readsAsLetter (s : List Char) : Bool :=
  sortsWithin 'a' 'z' s || sortsWithin 'A' 'Z' s || s == ['_']

/-- A text that sorts among the digits. -/
def readsAsDigit (s : List Char) : Bool := sortsWithin '0' '9' s

/-- A text that stands somewhere within `t`. -/
def standsIn (s : List Char) : List Char → Bool
  | [] => s.isEmpty
  | c :: t => s.isPrefixOf (c :: t) || standsIn s t

/-- A text that is not empty and stands somewhere in the row of blanks. -/
def readsAsBlank (s : List Char) : Bool := !s.isEmpty && standsIn s blanks

theorem isLetter_iff (c : Char) : isLetter c = true ↔
    (97 ≤ c.toNat ∧ c.toNat ≤ 122) ∨ (65 ≤ c.toNat ∧ c.toNat ≤ 90) ∨ c.toNat = 95 := by
  have : c = '_' ↔ c.toNat = 95 := by rw [← Char.toNat_inj]; rfl
  simp only [isLetter, Bool.or_eq_true, Bool.and_eq_true, decide_eq_true_eq, beq_iff_eq, this,
    Char.le_def, UInt32.le_iff_toNat_le, or_assoc]
  rfl

theorem isDigit_iff (c : Char) : isDigit c = true ↔ 48 ≤ c.toNat ∧ c.toNat ≤ 57 := by
  simp only [isDigit, Bool.and_eq_true, decide_eq_true_eq, Char.le_def, UInt32.le_iff_toNat_le]
  rfl

theorem isBlank_iff (c : Char) : isBlank c = true ↔ c = ' ' ∨ c = '\t' ∨ c = '\n' ∨ c = '\r' := by
  simp [isBlank, blanks]

theorem isSymbol_iff (c : Char) : isSymbol c = true ↔ ∃ k, (c, k) ∈ TokenKind.symbols := by
  rw [isSymbol, Option.isSome_iff_exists]
  exact exists_congr fun k => TokenKind.lookup_symbols_eq_some_iff

theorem isIllegal_iff (c : Char) : isIllegal c = true ↔
    isLetter c = false ∧ isDigit c = false ∧ isBlank c = false ∧ isSymbol c = false := by
  simp [isIllegal, and_assoc]

theorem not_isBlank_of_isLetter {c : Char} (h : isLetter c = true) : isBlank c = false := by
  rw [Bool.eq_false_iff]
  intro h'
  rcases (isBlank_iff c).1 h' with rfl | rfl | rfl | rfl <;> exact absurd h (by decide)

theorem not_isBlank_of_isDigit {c : Char} (h : isDigit c = true) : isBlank c = false := by
  rw [Bool.eq_false_iff]
  intro h'
  rcases (isBlank_iff c).1 h' with rfl | rfl | rfl | rfl <;> exact absurd h (by decide)

theorem not_isLetter_of_isDigit {c : Char} (h : isDigit c = true) : isLetter c = false := by
  rw [Bool.eq_false_iff]
  intro h'
  rw [isDigit_iff] at h
  rw [isLetter_iff] at h'
  omega

theorem sortsWithin_singleton (lo hi c : Char) :
    sortsWithin lo hi [c] = (lo ≤ c && c ≤ hi) := by
  have single (a b : Char) : [a] < [b] ↔ ¬ b ≤ a := by
    rw [List.cons_lt_cons_iff, Char.not_le]
    simp only [List.not_lt_nil, and_false, or_false]
  rw [sortsWithin, Bool.eq_iff_iff]
  simp only [single, decide_not, Bool.not_not]

theorem readsAsLetter_toList (c : Option Char) : readsAsLetter c.toList = c.any isLetter := by
  cases c with
  | none => decide
  | some c => simp [readsAsLetter, isLetter, sortsWithin_singleton]

theorem readsAsDigit_toList (c : Option Char) : readsAsDigit c.toList = c.any isDigit := by
  cases c with
  | none => decide
  | some c => simp [readsAsDigit, isDigit, sortsWithin_singleton]

theorem readsAsBlank_toList (c : Option Char) : readsAsBlank c.toList = c.any isBlank := by
  cases c with
  | none => decide
  | some c =>
    rw [Bool.eq_iff_iff, Option.any_some, isBlank_iff]
    simp [readsAsBlank, standsIn, blanks, List.isPrefixOf]

end Alphabet

end MonkeyScan
