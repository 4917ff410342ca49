import MonkeyScan.Proofs.Encoding
import MonkeyScan.Proofs.Numerals
import MonkeyScan.Text.Quoted

/-!
Quoted text is read back. `unquote?` reads a text between two marks, with what stands behind a
backslash undone: six characters that stand there for another one or for themselves, and numbers of
two, four or eight hexadecimal digits. The main statements: what is quoted is read back whatever
comes behind it (`unquote?_quoted`), although the mark depends on the text and although the text may
itself look like an escape, and all characters between and with the marks are printable
(`isPrintable_of_mem_quoted`).
-/

namespace MonkeyScan.Text

/-! ## Reading -/

/-- The characters that stand behind a backslash for one character. -/
def namedEscapes : List (Char × Char) :=
  [('\\', '\\'), ('\'', '\''), ('"', '"'), ('n', '\n'), ('r', '\r'), ('t', '\t')]

/-- The characters that stand behind a backslash in front of a number, and the count of its
digits. -/
def numberedEscapes : List (Char × Nat) := [('x', 2), ('u', 4), ('U', 8)]

/-- The character of a number in hexadecimal digits. -/
def charOfHex? (digits : List Char) : Option Char :=
  (ofHex? digits).bind fun n => if n.isValidChar then some (Char.ofNat n) else none

/-- The character that is meant behind a backslash, and how many characters are taken for it. -/
def unescape? : List Char → Option (Char × Nat)
  | [] => none
  | e :: cs =>
    match numberedEscapes.lookup e with
    | some width =>
      if width ≤ cs.length then (charOfHex? (cs.take width)).map fun c => (c, width + 1) else none
    | none => (namedEscapes.lookup e).map fun c => (c, 1)

/-- A text up to a mark, and what stands behind the mark. -/
def unquoteTo? (mark : Char) : List Char → Option (List Char × List Char)
  | [] => none
  | c :: cs =>
    if c = mark then some ([], cs)
    else if c = '\\' then
      (unescape? cs).bind fun e =>
        (unquoteTo? mark (cs.drop e.2)).map fun more => (e.1 :: more.1, more.2)
    else (unquoteTo? mark cs).map fun more => (c :: more.1, more.2)
termination_by cs => cs.length
decreasing_by
  all_goals simp

/-- A text between two marks, and what stands behind the second one. -/
def unquote? : List Char → Option (List Char × List Char)
  | [] => none
  | mark :: cs => if mark = '\'' ∨ mark = '"' then unquoteTo? mark cs else none

section

variable {mark c : Char} {rest : List Char}

theorem unquoteTo?_mark (mark : Char) (rest : List Char) :
    unquoteTo? mark (mark :: rest) = some ([], rest) := by
  rw [unquoteTo?, if_pos rfl]

theorem unquoteTo?_plain (other : c ≠ mark) (plain : c ≠ '\\') (rest : List Char) :
    unquoteTo? mark (c :: rest) =
      (unquoteTo? mark rest).map fun more => (c :: more.1, more.2) := by
  rw [unquoteTo?, if_neg other, if_neg plain]

/-- An escape is read as its character, and reading goes on behind it. -/
theorem unquoteTo?_escape {e : List Char} (other : mark ≠ '\\')
    (means : unescape? (e ++ rest) = some (c, e.length)) :
    unquoteTo? mark ('\\' :: (e ++ rest)) =
      (unquoteTo? mark rest).map fun more => (c :: more.1, more.2) := by
  rw [unquoteTo?, if_neg other.symm, if_pos rfl, means, Option.bind_some, List.drop_left]

theorem unescape?_named {e : Char} (single : numberedEscapes.lookup e = none)
    (named : namedEscapes.lookup e = some c) (rest : List Char) :
    unescape? (e :: rest) = some (c, 1) := by
  rw [unescape?, single, named]
  rfl

theorem charOfHex?_hexDigits {width : Nat} (small : c.toNat < Nat.pow 16 width) :
    charOfHex? (hexDigits width c.toNat) = some c := by
  have valid : c.toNat.isValidChar := c.valid
  rw [charOfHex?, ofHex?_hexDigits small, Option.bind_some, if_pos valid, Char.ofNat_toNat]

theorem unescape?_number {e : Char} {width : Nat} (numbered : numberedEscapes.lookup e = some width)
    (small : c.toNat < Nat.pow 16 width) (rest : List Char) :
    unescape? (e :: (hexDigits width c.toNat ++ rest)) = some (c, width + 1) := by
  have digits : (hexDigits width c.toNat ++ rest).take width = hexDigits width c.toNat :=
    List.take_left' (length_hexDigits width c.toNat)
  have enough : width ≤ (hexDigits width c.toNat ++ rest).length := by
    rw [List.length_append, length_hexDigits]
    exact Nat.le_add_right _ _
  rw [unescape?, numbered]
  dsimp only
  rw [if_pos enough, digits, charOfHex?_hexDigits small, Option.map_some]

/-- The number of a character is read back, in as many digits as it takes. -/
theorem unquoteTo?_numbered (other : mark ≠ '\\') (c : Char) (rest : List Char) :
    unquoteTo? mark (numbered c ++ rest) =
      (unquoteTo? mark rest).map fun more => (c :: more.1, more.2) := by
  have bound : c.toNat < 0x110000 := by
    have := toNat_char c
    omega
  have escape {e : Char} {width : Nat} (numbered : numberedEscapes.lookup e = some width)
      (small : c.toNat < Nat.pow 16 width) :
      unquoteTo? mark ('\\' :: e :: hexDigits width c.toNat ++ rest) =
        (unquoteTo? mark rest).map fun more => (c :: more.1, more.2) := by
    refine unquoteTo?_escape (e := e :: hexDigits width c.toNat) other ?_
    rw [List.cons_append, unescape?_number numbered small, List.length_cons, length_hexDigits]
  unfold numbered
  split_ifs with two four
  · exact escape rfl two
  · exact escape rfl four
  · exact escape rfl (Nat.lt_trans bound (by decide))

/-- A character as it stands between two marks is read back, whatever comes behind it. -/
theorem unquoteTo?_quotedChar (isMark : mark = '\'' ∨ mark = '"') (c : Char) (rest : List Char) :
    unquoteTo? mark (quotedChar mark c ++ rest) =
      (unquoteTo? mark rest).map fun more => (c :: more.1, more.2) := by
  have other : mark ≠ '\\' := by
    rcases isMark with rfl | rfl <;> decide
  have escape {e : Char} (single : numberedEscapes.lookup e = none)
      (named : namedEscapes.lookup e = some c) :
      unquoteTo? mark (['\\', e] ++ rest) =
        (unquoteTo? mark rest).map fun more => (c :: more.1, more.2) :=
    unquoteTo?_escape (e := [e]) other (unescape?_named single named rest)
  unfold quotedChar
  split_ifs with itself feed carriage tab printable
  · have means : numberedEscapes.lookup c = none ∧ namedEscapes.lookup c = some c := by
      rcases itself with rfl | rfl
      · rcases isMark with rfl | rfl <;> decide
      · decide
    exact escape means.1 means.2
  · subst feed
    exact escape rfl rfl
  · subst carriage
    exact escape rfl rfl
  · subst tab
    exact escape rfl rfl
  · rw [not_or] at itself
    exact unquoteTo?_plain itself.1 itself.2 rest
  · exact unquoteTo?_numbered other c rest

theorem unquoteTo?_flatMap (isMark : mark = '\'' ∨ mark = '"') (s rest : List Char) :
    unquoteTo? mark (s.flatMap (quotedChar mark) ++ mark :: rest) = some (s, rest) := by
  induction s with
  | nil => exact unquoteTo?_mark mark rest
  | cons c s ih =>
    rw [List.flatMap_cons, List.append_assoc, unquoteTo?_quotedChar isMark, ih]
    rfl

/-- What is quoted is read back, whatever comes behind it. -/
theorem unquote?_quoted (s rest : List Char) : unquote? (quoted s ++ rest) = some (s, rest) := by
  rw [quoted_eq, List.cons_append, List.append_assoc, List.singleton_append, unquote?,
    if_pos (quoteMark_eq s), unquoteTo?_flatMap (quoteMark_eq s)]

end

/-! ## Printable characters -/

theorem lineFeed_not_mem_of_printable {cs : List Char} (h : ∀ c ∈ cs, isPrintable c = true) :
    '\n' ∉ cs := fun mem => absurd (h '\n' mem) (by decide)

theorem isPrintable_of_mem_integer {n : Int} {c : Char} (mem : c ∈ integer n) :
    isPrintable c = true := by
  have bounds := toNat_of_mem_integer mem
  rw [isPrintable_ascii (by omega)]
  omega

theorem isPrintable_of_mem_hexDigits {width n : Nat} {c : Char} (mem : c ∈ hexDigits width n) :
    isPrintable c = true := by
  have digit : ∀ d < 16, isPrintable (hexDigit d) = true := by decide
  obtain ⟨d, small, rfl⟩ := of_mem_hexDigits mem
  exact digit d small

theorem isPrintable_of_mem_numbered {c d : Char} (mem : d ∈ numbered c) : isPrintable d = true := by
  have escape (e : Char) (width : Nat) (letter : isPrintable e = true)
      (mem : d ∈ '\\' :: e :: hexDigits width c.toNat) : isPrintable d = true := by
    rcases List.mem_cons.1 mem with rfl | mem
    · decide
    · rcases List.mem_cons.1 mem with rfl | mem
      · exact letter
      · exact isPrintable_of_mem_hexDigits mem
  unfold numbered at mem
  split_ifs at mem with two four
  · exact escape 'x' 2 (by decide) mem
  · exact escape 'u' 4 (by decide) mem
  · exact escape 'U' 8 (by decide) mem

theorem isPrintable_of_mem_quotedChar {mark c d : Char} (isMark : isPrintable mark = true)
    (mem : d ∈ quotedChar mark c) : isPrintable d = true := by
  have escape (e : Char) (letter : isPrintable e = true) (mem : d ∈ ['\\', e]) :
      isPrintable d = true := by
    rcases List.mem_cons.1 mem with rfl | mem
    · decide
    · rwa [List.mem_singleton.1 mem]
  unfold quotedChar at mem
  split_ifs at mem with itself feed carriage tab printable
  · refine escape c ?_ mem
    rcases itself with rfl | rfl
    · exact isMark
    · decide
  · exact escape 'n' (by decide) mem
  · exact escape 'r' (by decide) mem
  · exact escape 't' (by decide) mem
  · rwa [List.mem_singleton.1 mem]
  · exact isPrintable_of_mem_numbered mem

/-- Quoted text is in printable characters only. -/
theorem isPrintable_of_mem_quoted {s : List Char} {c : Char} (mem : c ∈ quoted s) :
    isPrintable c = true := by
  have isMark : isPrintable (quoteMark s) = true := by
    rcases quoteMark_eq s with mark | mark <;> rw [mark] <;> decide
  rw [quoted_eq, List.mem_cons, List.mem_append, List.mem_singleton, List.mem_flatMap] at mem
  rcases mem with rfl | ⟨d, -, mem⟩ | rfl
  · exact isMark
  · exact isPrintable_of_mem_quotedChar isMark mem
  · exact isMark

end MonkeyScan.Text
