import MonkeyScan.Toml.Draft
import MonkeyScan.Toml.Lexeme

/-!
Reading a TOML document. A document is a row of statements, one a line: a key with its value, a
header, or nothing. Values may hold values, so a reader of values answers a rest that is shorter
than what it was given, and that is why reading ends. `parse` answers the table of the document, or
why it is refused; of several reasons the one that stands first in the text counts.
-/

namespace MonkeyScan.Toml

/-- Something read from the front of a text, and the text behind it, which is shorter. -/
structure Taken (α : Type) (text : List Char) where
  value : α
  rest : List Char
  shorter : rest.length < text.length

/-- What a reader answered, refused if it took nothing. -/
def Taken.of? {α : Type} {text : List Char} (r : Option (α × List Char)) :
    Option (Taken α text) := do
  let (value, rest) ← r
  if shorter : rest.length < text.length then some ⟨value, rest, shorter⟩ else none

theorem length_dropWhile_le (p : Char → Bool) (cs : List Char) :
    (cs.dropWhile p).length ≤ cs.length := (List.dropWhile_sublist p).length_le

/-- Taking a character and the run in front of it and behind it leaves less. -/
theorem length_behind_lt {p : Char → Bool} {cs more : List Char} {c : Char}
    (found : cs.dropWhile p = c :: more) : (more.dropWhile p).length < cs.length := by
  have behind := length_dropWhile_le p cs
  rw [found, List.length_cons] at behind
  exact Nat.lt_of_le_of_lt (length_dropWhile_le p more) behind

/-- A key: parts with points between them. The blanks behind it are taken too. -/
def key? (cs : List Char) : Option (Taken Key cs) := do
  let part : Taken String cs ← Taken.of? (keyPart? cs)
  match found : part.rest.dropWhile isBlank with
  | '.' :: more =>
    let parts ← key? (more.dropWhile isBlank)
    some ⟨part.value :: parts.value, parts.rest,
      Nat.lt_trans parts.shorter (Nat.lt_trans (length_behind_lt found) part.shorter)⟩
  | rest =>
    some ⟨[part.value], rest,
      Nat.lt_of_le_of_lt (found ▸ length_dropWhile_le isBlank part.rest) part.shorter⟩
termination_by cs.length
decreasing_by exact Nat.lt_trans (length_behind_lt found) part.shorter

mutual

/-- A value, with the number of levels that are left for the values in it. -/
def value (levels : Nat) (cs : List Char) : Except Refusal (Taken Value cs) :=
  match cs with
  | '[' :: more => do
    if levels < arrayLevels then .error (.beyond .nesting)
    let items ← items (levels - arrayLevels) (skipGaps more)
    .ok ⟨.array items.value, items.rest, by
      have := items.shorter
      have := length_skipGaps_le more
      simp only [List.length_cons]
      omega⟩
  | '\x7b' :: more => do
    if levels < tableLevels then .error (.beyond .nesting)
    match found : more.dropWhile isBlank with
    | '\x7d' :: rest =>
      .ok ⟨.table [], rest, by
        have := length_dropWhile_le isBlank more
        simp only [found, List.length_cons] at *
        omega⟩
    | inner =>
      let members ← members (levels - tableLevels) [] [] inner
      .ok ⟨.table members.value, members.rest, by
        have := members.shorter
        have := length_dropWhile_le isBlank more
        simp only [found, List.length_cons] at *
        omega⟩
  | _ => do
    let r ← plain cs
    orMalformed (Taken.of? (some r))
termination_by 2 * cs.length
decreasing_by
  · have := length_skipGaps_le more
    simp only [List.length_cons]
    omega
  · have := length_dropWhile_le isBlank more
    rw [found] at this
    simp only [List.length_cons]
    omega

/-- The items of an array up to its closing bracket. -/
def items (levels : Nat) (cs : List Char) : Except Refusal (Taken (List Value) cs) :=
  match cs with
  | ']' :: rest => .ok ⟨[], rest, by simp⟩
  | cs => do
    let v ← value levels cs
    match found : skipGaps v.rest with
    | ']' :: rest =>
      .ok ⟨[v.value], rest, by
        have := v.shorter
        have := length_skipGaps_le v.rest
        simp only [found, List.length_cons] at *
        omega⟩
    | ',' :: more =>
      let others ← items levels (skipGaps more)
      .ok ⟨v.value :: others.value, others.rest, by
        have := v.shorter
        have := others.shorter
        have := length_skipGaps_le v.rest
        have := length_skipGaps_le more
        simp only [found, List.length_cons] at *
        omega⟩
    | _ => .error .malformed
termination_by 2 * cs.length + 1
decreasing_by
  · omega
  · have := v.shorter
    have := length_skipGaps_le v.rest
    have := length_skipGaps_le more
    simp only [found, List.length_cons] at *
    omega

/-- The members of an inline table up to its closing brace, added to those before. What an array or
inline table holds is finished for the members behind it. -/
def members (levels : Nat) (t : Table) (marks : List (Key × Mark)) (cs : List Char) :
    Except Refusal (Taken Table cs) := do
  let key ← orMalformed (key? cs)
  match opened : key.rest with
  | '=' :: more =>
    let v ← value levels (more.dropWhile isBlank)
    if Draft.isFrozen marks key.value then .error .malformed
    else
      let name ← orMalformed key.value.getLast?
      let t ← orMalformed (Table.within false (Table.add? name v.value) key.value.dropLast t)
      match found : v.rest.dropWhile isBlank with
      | '\x7d' :: rest =>
        .ok ⟨t, rest, by
          have := key.shorter
          have := v.shorter
          have := length_dropWhile_le isBlank more
          have := length_dropWhile_le isBlank v.rest
          simp only [opened, found, List.length_cons] at *
          omega⟩
      | ',' :: behind =>
        let marks := if Draft.isContainer v.value then (key.value, .frozen) :: marks else marks
        let all ← members levels t marks (behind.dropWhile isBlank)
        .ok ⟨all.value, all.rest, by
          have := key.shorter
          have := v.shorter
          have := all.shorter
          have := length_dropWhile_le isBlank more
          have := length_dropWhile_le isBlank v.rest
          have := length_dropWhile_le isBlank behind
          simp only [opened, found, List.length_cons] at *
          omega⟩
      | _ => .error .malformed
  | _ => .error .malformed
termination_by 2 * cs.length + 1
decreasing_by
  · have := key.shorter
    have := length_dropWhile_le isBlank more
    simp only [opened, List.length_cons] at *
    omega
  · have := key.shorter
    have := v.shorter
    have := length_dropWhile_le isBlank more
    have := length_dropWhile_le isBlank v.rest
    have := length_dropWhile_le isBlank behind
    simp only [opened, found, List.length_cons] at *
    omega

end

/-- A header in brackets. -/
def header? (d : Draft) : List Char → Option (Draft × List Char)
  | '[' :: '[' :: cs => do
    let key ← key? (cs.dropWhile isBlank)
    let d ← d.openItem? key.value
    match key.rest with
    | ']' :: ']' :: rest => some (d, rest)
    | _ => none
  | '[' :: cs => do
    let key ← key? (cs.dropWhile isBlank)
    let d ← d.openTable? key.value
    match key.rest with
    | ']' :: rest => some (d, rest)
    | _ => none
  | _ => none

/-- A key with its value. -/
def assignment (d : Draft) (cs : List Char) : Except Refusal (Draft × List Char) := do
  let key ← orMalformed (key? cs)
  match key.rest with
  | '=' :: more =>
    let v ← value mostLevels (more.dropWhile isBlank)
    let d ← orMalformed (d.assign? key.value v.value)
    .ok (d, v.rest)
  | _ => .error .malformed

/-- One statement from the front of a line: a header, a key with its value, or nothing. -/
def statement (d : Draft) (cs : List Char) : Except Refusal (Draft × List Char) :=
  match cs with
  | [] | '\n' :: _ | '#' :: _ => .ok (d, cs)
  | '[' :: _ => orMalformed (header? d cs)
  | _ => assignment d cs

/-- All statements of a text: behind each come at most blanks and a comment, then the end of the
line or of the text. -/
def statements (d : Draft) (cs : List Char) : Except Refusal Draft := do
  let (d, rest) ← statement d (cs.dropWhile isBlank)
  match skipComment (rest.dropWhile isBlank) with
  | [] => .ok d
  | '\n' :: more => if more.length < cs.length then statements d more else .error .malformed
  | _ => .error .malformed
termination_by cs.length

/-- A text with a line feed for each pair of carriage return and line feed. -/
def joinLineEnds : List Char → List Char
  | [] => []
  | '\r' :: '\n' :: cs => '\n' :: joinLineEnds cs
  | c :: cs => c :: joinLineEnds cs

/-- The table of a document, or why the text is refused. -/
def parse (text : String) : Except Refusal Table :=
  (statements .empty (joinLineEnds text.toList)).map (·.table)

end MonkeyScan.Toml
