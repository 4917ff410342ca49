import MonkeyScan.Text.Hex
import MonkeyScan.Text.Printable

/-!
Quoted text: a text between two quotation marks, on one line and in printable characters only.
The mark is the apostrophe, unless the text holds an apostrophe and no double quote. The mark and
the backslash are written behind a backslash; line feed, carriage return and tab have a letter;
any other character that does not print is written by its number in two, four or eight digits.
-/

namespace MonkeyScan.Text

/-- The mark that a text is quoted with. -/
def quoteMark (s : List Char) : Char :=
  if '\'' ∈ s ∧ '"' ∉ s then '"' else '\''

/-- The number of a character behind a backslash, in as few as two, four or eight digits. -/
def numbered (c : Char) : List Char :=
  if c.toNat < 0x100 then '\\' :: 'x' :: hexDigits 2 c.toNat
  else if c.toNat < 0x10000 then '\\' :: 'u' :: hexDigits 4 c.toNat
  else '\\' :: 'U' :: hexDigits 8 c.toNat

/-- A character as it stands between two marks. -/
def quotedChar (mark c : Char) : List Char :=
  if c = mark ∨ c = '\\' then ['\\', c]
  else if c = '\n' then ['\\', 'n']
  else if c = '\r' then ['\\', 'r']
  else if c = '\t' then ['\\', 't']
  else if isPrintable c then [c]
  else numbered c

/-- A text between its marks. -/
def quoted (s : List Char) : List Char :=
  quoteMark s :: s.flatMap (quotedChar (quoteMark s)) ++ [quoteMark s]

/-- A text between its marks. -/
def quote (s : String) : String := String.ofList (quoted s.toList)

theorem quoteMark_eq (s : List Char) : quoteMark s = '\'' ∨ quoteMark s = '"' := by
  unfold quoteMark; split <;> simp

theorem quoted_eq (s : List Char) :
    quoted s = quoteMark s :: (s.flatMap (quotedChar (quoteMark s)) ++ [quoteMark s]) := rfl

end MonkeyScan.Text
