import MonkeyScan.Proofs.DiagnosticRanges
import MonkeyScan.Proofs.QuotedText

/-!
What a problem looks like. The last two rows of its snippet hold the source line and the caret
whatever the file is called (`lines_snippet`), and in a file whose name is on one line three rows
stand above them (`rowsAbove_of_not_mem`): neither the quoted character nor the source line brings a
line feed of its own. The caret stands under the character that the problem is about
(`getElem?_sourceRow_atOffset`). Main statement: `snippet_of_mem_problems`.
-/

namespace MonkeyScan

open Alphabet

namespace Text

/-! ## Trailing runs -/

/-- A text is what is left of it and the run that is dropped. -/
theorem dropTrailing_append (p : Char → Bool) (cs : List Char) :
    dropTrailing p cs ++ cs.rtakeWhile p = cs :=
  List.rdropWhile_append_rtakeWhile

theorem dropTrailing_prefix (p : Char → Bool) (cs : List Char) : dropTrailing p cs <+: cs :=
  List.rdropWhile_prefix p cs

/-- What is left does not end in a character of the class. -/
theorem of_mem_getLast?_dropTrailing {p : Char → Bool} {cs : List Char} {c : Char}
    (last : c ∈ (dropTrailing p cs).getLast?) : p c = false := by
  obtain ⟨nonempty, rfl⟩ := List.mem_getLast?_eq_getLast last
  exact Bool.eq_false_iff.2 (List.rdropWhile_last_not p cs nonempty)

/-- A character outside the class keeps all that is in front of it. -/
theorem dropTrailing_append_cons {p : Char → Bool} {c : Char} (h : p c = false)
    (before behind : List Char) :
    dropTrailing p (before ++ c :: behind) = before ++ c :: dropTrailing p behind := by
  unfold dropTrailing
  rw [List.reverse_append, List.reverse_cons, List.append_assoc, List.dropWhile_append]
  split
  case isTrue empty =>
    rw [List.isEmpty_iff.1 empty, List.singleton_append, List.dropWhile_cons_of_neg (by simp [h])]
    simp
  case isFalse => simp

/-! ## Quotes -/

theorem lineFeed_not_mem_quoted (s : List Char) : '\n' ∉ quoted s :=
  lineFeed_not_mem_of_printable fun _ => isPrintable_of_mem_quoted

end Text

namespace Problem

/-! ## The rows of a snippet -/

/-- The line number as it stands in the snippet. -/
def number (p : Problem) : List Char := Text.integer p.position.line

/-- The room in front of the rows without a number. -/
def gutter (p : Problem) : List Char := List.replicate (p.number.length + 1) ' '

/-- The row with the message. -/
def titleRow (p : Problem) : List Char := "error: ".toList ++ p.message.toList

/-- The row with the file and the place in it. -/
def placeRow (p : Problem) (file : String) : List Char :=
  p.gutter ++ "--> ".toList ++ file.toList ++ ':' :: p.number ++
    ':' :: Text.integer p.position.column

/-- The row with the source line. -/
def sourceRow (p : Problem) : List Char := p.number ++ " | ".toList ++ p.sourceLine

/-- The row with the caret. -/
def caretRow (p : Problem) : List Char :=
  p.gutter ++ '|' :: List.replicate ((p.position.column - 1).toNat + 1) ' ' ++ ['^']

theorem toList_snippet (p : Problem) (file : String) :
    (p.snippet file).toList =
      p.titleRow ++ '\n' :: (p.placeRow file ++ '\n' ::
        (p.gutter ++ ['|'] ++ '\n' :: (p.sourceRow ++ '\n' :: p.caretRow))) := by
  unfold snippet titleRow placeRow sourceRow caretRow gutter number
  simp [List.replicate_succ]

theorem lineFeed_not_mem_sourceLine (p : Problem) : '\n' ∉ p.sourceLine := by
  unfold sourceLine
  split_ifs
  · intro mem
    have inside := (Text.dropTrailing_prefix _ _).mem mem
    cases found : (Text.lines p.source.toList)[(p.position.line - 1).toNat]? with
    | none =>
      rw [found] at inside
      exact List.not_mem_nil inside
    | some l =>
      rw [found] at inside
      exact Text.lineFeed_not_mem_of_mem_lines (List.mem_of_getElem? found) inside
  · exact List.not_mem_nil

theorem lineFeed_not_mem_sourceRow (p : Problem) : '\n' ∉ p.sourceRow := by
  unfold sourceRow number
  simp [Text.not_mem_integer, lineFeed_not_mem_sourceLine]

theorem lineFeed_not_mem_caretRow (p : Problem) : '\n' ∉ p.caretRow := by
  unfold caretRow gutter
  simp

/-- The rows above the source line: the message, the place, and a bar in the gutter. -/
def rowsAbove (p : Problem) (file : String) : List (List Char) :=
  Text.lines p.titleRow ++ (Text.lines (p.placeRow file) ++ [p.gutter ++ ['|']])

/-- The last two rows are those of the source line and the caret, whatever stands above. -/
theorem lines_snippet (p : Problem) (file : String) :
    Text.lines (p.snippet file).toList = p.rowsAbove file ++ [p.sourceRow, p.caretRow] := by
  have rule : '\n' ∉ p.gutter ++ ['|'] := by
    unfold gutter
    simp
  rw [toList_snippet, Text.lines_append_lineFeed, Text.lines_append_lineFeed,
    Text.lines_append_lineFeed, Text.lines_append_lineFeed, Text.lines_of_not_mem rule,
    Text.lines_of_not_mem p.lineFeed_not_mem_sourceRow,
    Text.lines_of_not_mem p.lineFeed_not_mem_caretRow, rowsAbove, List.append_assoc,
    List.append_assoc]
  rfl

/-- Without line feeds in the message and in the name of the file, there are three rows above. -/
theorem rowsAbove_of_not_mem {p : Problem} {file : String} (message : '\n' ∉ p.message.toList)
    (name : '\n' ∉ file.toList) :
    p.rowsAbove file = [p.titleRow, p.placeRow file, p.gutter ++ ['|']] := by
  have title : '\n' ∉ p.titleRow := by
    unfold titleRow
    simp [message]
  have place : '\n' ∉ p.placeRow file := by
    unfold placeRow gutter number
    simp [name, Text.not_mem_integer]
  rw [rowsAbove, Text.lines_of_not_mem title, Text.lines_of_not_mem place]
  rfl

/-- The column of the caret is that of the problem, behind the number and the bar. -/
theorem getElem?_sourceRow (p : Problem) :
    p.sourceRow[p.caretRow.length - 1]? = p.sourceLine[(p.position.column - 1).toNat]? := by
  have bar : (p.number ++ " | ".toList).length = p.number.length + 3 := by simp
  have caret : p.caretRow.length - 1 =
      (p.number ++ " | ".toList).length + (p.position.column - 1).toNat := by
    rw [bar]
    unfold caretRow gutter
    simp
    omega
  rw [caret, sourceRow, List.getElem?_append_right (Nat.le_add_right _ _), Nat.add_sub_cancel_left]

section

variable {s : String} {c : Char} {i : Nat}

theorem lineFeed_not_mem_message (s : String) (e : Char × Nat) :
    '\n' ∉ (atOffset s e).message.toList := by
  change '\n' ∉ ("illegal character " ++ Text.quote (String.singleton e.1)).toList
  unfold Text.quote
  simp [Text.lineFeed_not_mem_quoted]

/-- The source line of a problem within a text. -/
theorem sourceLine_atOffset {line : List Char}
    (found : (Text.lines s.toList)[(s.toList.take i).count '\n']? = some line) :
    (atOffset s (c, i)).sourceLine = Text.dropTrailing (· = '\r') line := by
  have number : (atOffset s (c, i)).position.line = 1 + (s.toList.take i).count '\n' := rfl
  have row : ((atOffset s (c, i)).position.line - 1).toNat = (s.toList.take i).count '\n' := by
    omega
  rw [sourceLine, if_pos (by omega), row]
  change Text.dropTrailing _ ((Text.lines s.toList)[_]?.getD []) = _
  rw [found, Option.getD_some]

/-- Above the caret stands the character of the problem, if it is no line end. -/
theorem getElem?_sourceRow_atOffset (here : s.toList[i]? = some c) (feed : c ≠ '\n')
    (carriage : c ≠ '\r') :
    (atOffset s (c, i)).sourceRow[(atOffset s (c, i)).caretRow.length - 1]? = some c := by
  have inside : i ≤ s.toList.length := Nat.le_of_lt (List.getElem?_eq_some_iff.1 here).1
  have column : (atOffset s (c, i)).position.column =
      (Text.lastLine (s.toList.take i)).length + 1 :=
    Position.column_ofOffset inside
  have room : ((atOffset s (c, i)).position.column - 1).toNat =
      (Text.lastLine (s.toList.take i)).length := by
    omega
  rw [getElem?_sourceRow, room,
    sourceLine_atOffset (Editor.Diagnostic.getElem?_lines_of_getElem? here feed),
    Text.dropTrailing_append_cons (decide_eq_false carriage),
    List.getElem?_append_right (Nat.le_refl _), Nat.sub_self]
  rfl

end

end Problem

/-- The snippet of a problem of a text points at an illegal character of it. Of its rows the last
two are the line of the character without the carriage returns at its end, behind the line number
and a bar, and the caret; the caret is alone in its row but for the bar and spaces, and what stands
above it is the illegal character. In a file whose name is on one line there are three rows
above these, the second of them with the place of the character. A caret has room in front of it
unless the column is beyond all that is stored. -/
theorem snippet_of_mem_problems {s : String} {p : Problem} (mem : p ∈ Problem.ofTokens (scan s) s)
    (file : String) :
    ∃ (i : Nat) (c : Char) (above : List (List Char)) (line kept returns : List Char),
      let number := Text.integer p.position.line
      let column := Text.integer p.position.column
      let gutter := List.replicate (number.length + 1) ' '
      let row := number ++ " | ".toList ++ kept
      let caret := gutter ++ '|' :: List.replicate ((p.position.column - 1).toNat + 1) ' ' ++ ['^']
      s.toList[i]? = some c ∧ isIllegal c = true ∧
        p = ⟨"illegal character " ++ Text.quote (String.singleton c), .ofOffset s.toList i, s⟩ ∧
        Text.lines (p.snippet file).toList = above ++ [row, caret] ∧
        (Text.lines s.toList)[(s.toList.take i).count '\n']? = some line ∧
        line = kept ++ returns ∧ (∀ r ∈ returns, r = '\r') ∧ kept.getLast? ≠ some '\r' ∧
        row[caret.length - 1]? = some c ∧
        ('\n' ∉ file.toList →
          above.length = 3 ∧
            above[1]? = some (gutter ++ "--> ".toList ++ file.toList ++ ':' :: number ++
              ':' :: column)) ∧
        (p.position.column ≤ Problem.widestRoom → p.shown file = .ok (p.snippet file)) := by
  rw [Problem.problems_eq, List.mem_map] at mem
  obtain ⟨⟨c, i⟩, found, rfl⟩ := mem
  obtain ⟨here, feed⟩ := getElem?_of_mem_illegalFrom found
  have illegal : isIllegal c = true := (List.mem_filter.1 found).2
  -- carriage returns are blanks, so that what is dropped is never the character itself
  have carriage : c ≠ '\r' := by
    rintro rfl
    exact absurd illegal (by decide)
  have whole := Editor.Diagnostic.getElem?_lines_of_getElem? here feed
  generalize Text.lastLine _ ++ _ = line at whole
  have kept := Problem.sourceLine_atOffset (c := c) whole
  have inside : i ≤ s.toList.length := Nat.le_of_lt (List.getElem?_eq_some_iff.1 here).1
  have column : 0 ≤ (Problem.atOffset s (c, i)).position.column := by
    have := Position.column_ofOffset inside
    change 0 ≤ (Position.ofOffset s.toList i).column
    omega
  refine ⟨i, c, (Problem.atOffset s (c, i)).rowsAbove file, line,
    (Problem.atOffset s (c, i)).sourceLine, line.rtakeWhile (· = '\r'), here, illegal, rfl,
    Problem.lines_snippet _ _, whole, ?split, ?returns, ?last,
    Problem.getElem?_sourceRow_atOffset here feed carriage, fun name => ?_,
    fun room => Problem.shown_eq column room file⟩
  case split => rw [kept, Text.dropTrailing_append]
  case returns =>
    intro r mem
    simpa using List.mem_rtakeWhile_imp mem
  case last =>
    rw [kept]
    intro last
    simpa using Text.of_mem_getLast?_dropTrailing last
  · rw [Problem.rowsAbove_of_not_mem (Problem.lineFeed_not_mem_message s (c, i)) name]
    exact ⟨rfl, rfl⟩

/-- A control character in front of two carriage returns, on the second line: five rows, and room
for the caret. -/
theorem snippet_of_bell :
    let s := "let\nx \x07\r\r\ny"
    let p : Problem := ⟨"illegal character '\\x07'", ⟨2, 3, 6⟩, s⟩
    p ∈ Problem.ofTokens (scan s) s ∧
      p.snippet "a" = "error: illegal character '\\x07'\n  --> a:2:3\n  |\n2 | x \x07\n  |   ^" ∧
      (Text.lines (p.snippet "a").toList).length = 5 ∧ p.shown "a" = .ok (p.snippet "a") := by
  intro s p
  have mem : p ∈ Problem.ofTokens (scan s) s := by decide +kernel
  obtain ⟨i, c, above, line, kept, returns, -, -, -, rows, -, -, -, -, -, three, room⟩ :=
    snippet_of_mem_problems mem "a"
  refine ⟨mem, by decide +kernel, ?_, room (by decide)⟩
  rw [rows, List.length_append, (three (by decide)).1]
  rfl

end MonkeyScan
