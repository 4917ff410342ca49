import MonkeyScan.Alphabet

/-!
A cursor over a text: the character it stands on, the index of that character and of the next one,
and the line and the column counted along. The only way it moves is one character at a time. A step
looks at the character being left, so that the line changes with the step away from a line feed,
and it may go on past the end of the text. From the step come the three runs (blanks, a word, a
number), the next token, and the tokens up to the end of input. The main statements say that a step
away from a character leaves fewer to come, so that a run ends, and that a token other than the end
takes at least one character, so that reading to the end ends.
-/

namespace MonkeyScan

/-- A text and where to read on in it. -/
@[ext] structure Cursor where
  text : Array Char
  /-- The index of the character under the cursor. -/
  offset : Nat
  /-- The index of the next unread character. -/
  ahead : Nat
  /-- The character under the cursor; none at the end of the text and beyond. -/
  current? : Option Char
  line : Int
  column : Int
deriving DecidableEq

namespace Cursor

/-- The character that the next step makes current. -/
def peek? (c : Cursor) : Option Char := c.text[c.ahead]?

/-- One step. Beyond the end a step still counts a column and an offset. -/
def advance (c : Cursor) : Cursor where
  text := c.text
  offset := c.ahead
  ahead := c.ahead + 1
  current? := c.text[c.ahead]?
  line := if c.current? = some '\n' then c.line + 1 else c.line
  column := if c.current? = some '\n' then 1 else c.column + 1

/-- The cursor on the first character of a text: one step from a column before it. -/
def start (text : List Char) : Cursor := advance ⟨text.toArray, 0, 0, none, 1, 0⟩

/-- Where the cursor stands. -/
def place (c : Cursor) : Position := ⟨c.line, c.column, c.offset⟩

/-- The number of characters to come, the one under the cursor included. -/
def remaining (c : Cursor) : Nat := c.current?.toList.length + (c.text.size - c.ahead)

theorem remaining_advance_le (c : Cursor) : c.advance.remaining ≤ c.remaining := by
  by_cases inside : c.ahead < c.text.size
  · simp [remaining, advance, inside]; omega
  · simp [remaining, advance, inside]; omega

theorem remaining_advance_lt {c : Cursor} {ch : Char} (h : c.current? = some ch) :
    c.advance.remaining < c.remaining := by
  by_cases inside : c.ahead < c.text.size
  · simp [remaining, advance, inside, h]; omega
  · simp [remaining, advance, inside, h]; omega

/-- Steps as long as the character under the cursor belongs to a class. -/
def advanceWhile (p : Char → Bool) (c : Cursor) : Cursor :=
  if c.current?.any p then advanceWhile p c.advance else c
termination_by c.remaining
decreasing_by
  obtain ⟨ch, h, -⟩ := (Option.any_eq_true _ _).1 ‹_›
  exact remaining_advance_lt h

theorem remaining_advanceWhile_le (p : Char → Bool) (c : Cursor) :
    (c.advanceWhile p).remaining ≤ c.remaining := by
  fun_induction advanceWhile p c with
  | case1 c _ ih => exact Nat.le_trans ih c.remaining_advance_le
  | case2 c => exact Nat.le_refl _

theorem remaining_advanceWhile_lt {p : Char → Bool} {c : Cursor} {ch : Char}
    (h : c.current? = some ch) (hp : p ch = true) :
    (c.advanceWhile p).remaining < c.remaining := by
  rw [advanceWhile, if_pos (by simp [h, hp])]
  exact Nat.lt_of_le_of_lt (remaining_advanceWhile_le p _) (remaining_advance_lt h)

/-- The text from the cursor up to another one. -/
def upTo (c behind : Cursor) : String :=
  String.ofList (c.text.extract c.offset behind.offset).toList

/-- Steps over blanks. -/
def skipBlanks (c : Cursor) : Cursor := c.advanceWhile Alphabet.isBlank

/-- The run of letters under the cursor, empty if there is none, and the cursor behind it. -/
def word (c : Cursor) : String × Cursor :=
  (c.upTo (c.advanceWhile Alphabet.isLetter), c.advanceWhile Alphabet.isLetter)

/-- The run of digits under the cursor, empty if there is none, and the cursor behind it. -/
def number (c : Cursor) : String × Cursor :=
  (c.upTo (c.advanceWhile Alphabet.isDigit), c.advanceWhile Alphabet.isDigit)

/-- The token from here up to another cursor, and that cursor. -/
def tokenTo (here behind : Cursor) (kind : TokenKind) (literal : String) : Token × Cursor :=
  (⟨kind, literal, ⟨here.place, behind.place⟩⟩, behind)

/-- The token that starts under the cursor, on no blank, and the cursor behind it. At the end of the
text the cursor stays where it is, so that the end of input is answered again and again. -/
def tokenHere (c : Cursor) : Token × Cursor :=
  match c.current? with
  | none => (.endAt c.place, c)
  | some ch =>
    if Alphabet.isLetter ch then c.tokenTo c.word.2 (.ofWord c.word.1) c.word.1
    else if Alphabet.isDigit ch then c.tokenTo c.number.2 .integer c.number.1
    else match TokenKind.ofPair? ch c.peek? with
      | some kind =>
        c.tokenTo c.advance.advance kind (String.ofList (ch :: c.advance.current?.toList))
      | none => c.tokenTo c.advance (.ofSymbol ch) (String.ofList [ch])

/-- The next token, behind the blanks, and the cursor behind it. -/
def next (c : Cursor) : Token × Cursor := c.skipBlanks.tokenHere

theorem remaining_tokenHere_lt {c : Cursor} (h : c.tokenHere.1.kind ≠ .eof) :
    c.tokenHere.2.remaining < c.remaining := by
  unfold tokenHere at h ⊢
  split
  · simp_all [Token.endAt]
  · rename_i ch current
    split
    · rename_i letter
      exact remaining_advanceWhile_lt current letter
    · split
      · rename_i digit
        exact remaining_advanceWhile_lt current digit
      · split
        · exact Nat.lt_of_le_of_lt (remaining_advance_le _) (remaining_advance_lt current)
        · exact remaining_advance_lt current

/-- A token other than the end of input takes characters away. -/
theorem remaining_next_lt {c : Cursor} (h : c.next.1.kind ≠ .eof) :
    c.next.2.remaining < c.remaining :=
  Nat.lt_of_lt_of_le (remaining_tokenHere_lt h) (remaining_advanceWhile_le _ c)

/-- The tokens from the cursor up to and with the end of input, and the cursor there. -/
def drain (c : Cursor) : List Token × Cursor :=
  if c.next.1.kind = .eof then ([c.next.1], c.next.2)
  else
    let more := drain c.next.2
    (c.next.1 :: more.1, more.2)
termination_by c.remaining
decreasing_by exact remaining_next_lt ‹_›

/-- The tokens from the cursor up to and with the end of input. -/
def tokens (c : Cursor) : List Token := c.drain.1

end Cursor

/-- The tokens of a text, ending with the end of input. -/
def scan (text : String) : List Token := (Cursor.start text.toList).tokens

end MonkeyScan
