import MonkeyScan.Proofs.TextListings
import MonkeyScan.Render.Table

/-!
Token tables are read back. An entry is a line of the table without its line feed, and it is read
from left to right (`Token.ofTableEntry?`): the index between square brackets, the name of a kind, a
quoted text, and six integers, each with the mark behind it that ends it. How far a column is filled
up does not matter, since neither a quoted text nor an integer starts with a space; and the minus
sign between the two places is told from one in front of an integer, since the integer before it has
been read to its end. The main statements: an entry is read as its token and its index
(`ofTableEntry?_tableEntry`); what is written of a table are the lines in front of the first that
cannot be written (`toList_writeTableFrom`); and it has an entry for each of these, counted from
zero, so that a table that is written to its end tells all tokens (`table_entries`).
-/

namespace MonkeyScan

namespace Text

/-! ## Reading -/

/-- The integer that a text starts with, up to a mark, and what stands behind the mark. -/
def integerTo? (mark : Char) (cs : List Char) : Option (Int × List Char) := do
  let (n, more) ← leadingInteger? cs
  let more ← behind? mark more
  return (n, more)

theorem integerTo?_integer {mark : Char} (stop : mark.isDigit = false) (n : Int)
    (more : List Char) : integerTo? mark (integer n ++ mark :: more) = some (n, more) := by
  have ended : (mark :: more).takeWhile Char.isDigit = [] :=
    List.takeWhile_cons_of_neg (by rw [stop]; decide)
  simp only [integerTo?, leadingInteger?_integer ended, behind?_cons, Option.bind_eq_bind,
    Option.bind_some, Option.pure_def]

/-- Spaces in front of a text that starts with none are skipped. -/
theorem dropWhile_spaces (n : Nat) {more : List Char} (stop : more.head? ≠ some ' ') :
    (List.replicate n ' ' ++ more).dropWhile (· = ' ') = more := by
  have spaces : ∀ c ∈ List.replicate n ' ', decide (c = ' ') = true := fun c mem =>
    decide_eq_true (List.eq_of_mem_replicate mem)
  rw [List.dropWhile_append_of_pos spaces]
  cases more with
  | nil => rfl
  | cons c more =>
    have other : c ≠ ' ' := fun same => stop (congrArg some same)
    exact List.dropWhile_cons_of_neg (by simpa using other)

theorem head?_integer_append (n : Int) (more : List Char) :
    (integer n ++ more).head? ≠ some ' ' := by
  obtain ⟨c, cs, split⟩ := List.exists_cons_of_ne_nil (integer_ne_nil n)
  have apart : ' ' ∉ integer n := not_mem_integer (by decide) rfl n
  rw [split, List.mem_cons, not_or] at apart
  rw [split, List.cons_append, List.head?_cons]
  exact fun same => apart.1 (Option.some.inj same).symm

theorem head?_quoted_append (s more : List Char) : (quoted s ++ more).head? ≠ some ' ' := by
  rw [quoted_eq, List.cons_append, List.head?_cons]
  rcases quoteMark_eq s with mark | mark <;> rw [mark] <;> decide

end Text

/-- The two places that a text tells. -/
def Span.ofText? (cs : List Char) : Option Span := do
  let (startLine, more) ← Text.integerTo? ':' cs
  let (startColumn, more) ← Text.integerTo? '-' more
  let (stopLine, more) ← Text.integerTo? ':' more
  let (stopColumn, more) ← Text.integerTo? ' ' more
  let more ← Text.behind? '(' more
  let (startOffset, more) ← Text.integerTo? ',' more
  let (stopOffset, more) ← Text.integerTo? ')' more
  if more = [] then
    some ⟨⟨startLine, startColumn, startOffset⟩, ⟨stopLine, stopColumn, stopOffset⟩⟩
  else none

/-- The token and the index that an entry of a table tells. -/
def Token.ofTableEntry? (cs : List Char) : Option (Token × Nat) := do
  let more ← Text.behind? '[' cs
  let (index, more) ← Text.leadingNumber? more
  let more ← Text.behind? ']' more
  let more ← Text.behind? ' ' more
  let (kind, more) ← TokenKind.leading? more
  let (literal, more) ← Text.unquote? (more.dropWhile (· = ' '))
  let more ← Text.behind? ' ' more
  let span ← Span.ofText? (more.dropWhile (· = ' '))
  return (⟨kind, String.ofList literal, span⟩, index)

namespace Render

/-! ## Entries -/

/-- The spaces that fill up a text to a width. -/
def filling (width : Nat) (s : String) : List Char := List.replicate (width - s.length) ' '

/-- The line of a token with an index, without its line feed. -/
def tableEntry (index : Nat) (t : Token) : List Char :=
  '[' :: (Text.digits index ++ ']' :: ' ' ::
    (t.kind.name.toList ++ ' ' :: (filling 10 t.kind.name ++
      (Text.quoted t.literal.toList ++ ' ' :: (filling 12 (Text.quote t.literal) ++
        (spanText t.span).toList)))))

/-- Of the spaces behind a column, the one between two columns may as well be the first. -/
theorem toList_filled_append (width : Nat) (s : String) (more : List Char) :
    (filled width s).toList ++ ' ' :: more = s.toList ++ ' ' :: (filling width s ++ more) := by
  have commute : filling width s ++ ' ' :: more = ' ' :: (filling width s ++ more) := by
    rw [List.append_cons, filling, ← List.replicate_succ', List.replicate_succ, List.cons_append]
  rw [filled, String.toList_append, String.toList_ofList, List.append_assoc, ← commute]
  rfl

theorem toList_tableLine (index : Nat) (t : Token) :
    (tableLine index t).toList = tableEntry index t ++ ['\n'] := by
  have quoted : (Text.quote t.literal).toList = Text.quoted t.literal.toList :=
    String.toList_ofList
  have columns := toList_filled_append 10 t.kind.name
  have columns' := toList_filled_append 12 (Text.quote t.literal)
  simp [tableLine, tableEntry, columns, columns', quoted]

theorem toList_spanText (s : Span) :
    (spanText s).toList =
      Text.integer s.start.line ++ ':' :: (Text.integer s.start.column ++ '-' ::
        (Text.integer s.stop.line ++ ':' :: (Text.integer s.stop.column ++ ' ' :: '(' ::
          (Text.integer s.start.offset ++ ',' :: (Text.integer s.stop.offset ++ [')']))))) := by
  simp [spanText]

theorem ofText?_spanText (s : Span) : Span.ofText? (spanText s).toList = some s := by
  have colon : ':'.isDigit = false := rfl
  have minus : '-'.isDigit = false := rfl
  have space : ' '.isDigit = false := rfl
  have comma : ','.isDigit = false := rfl
  have bracket : ')'.isDigit = false := rfl
  simp only [toList_spanText, Span.ofText?, Text.integerTo?_integer colon,
    Text.integerTo?_integer minus, Text.integerTo?_integer space, Text.integerTo?_integer comma,
    Text.integerTo?_integer bracket, Text.behind?_cons, Option.bind_eq_bind, Option.bind_some,
    if_true]

/-- An entry is read as its token and its index. -/
theorem ofTableEntry?_tableEntry (index : Nat) (t : Token) :
    Token.ofTableEntry? (tableEntry index t) = some (t, index) := by
  have bracket (more : List Char) : (']' :: more).takeWhile Char.isDigit = [] := rfl
  have literal (more : List Char) :
      (filling 10 t.kind.name ++ (Text.quoted t.literal.toList ++ more)).dropWhile (· = ' ') =
        Text.quoted t.literal.toList ++ more :=
    Text.dropWhile_spaces _ (Text.head?_quoted_append _ more)
  have span : (filling 12 (Text.quote t.literal) ++ (spanText t.span).toList).dropWhile (· = ' ') =
      (spanText t.span).toList := by
    refine Text.dropWhile_spaces _ ?_
    rw [toList_spanText]
    exact Text.head?_integer_append _ _
  simp only [Token.ofTableEntry?, tableEntry, Text.behind?_cons,
    Text.leadingNumber?_digits (bracket _), TokenKind.leading?_name, literal, Text.unquote?_quoted,
    span, ofText?_spanText, String.ofList_toList, Option.bind_eq_bind, Option.bind_some,
    Option.pure_def]

theorem isPrintable_tableEntry (index : Nat) (t : Token) :
    (tableEntry index t).all Text.isPrintable = true := by
  have integer (n : Int) : (Text.integer n).all Text.isPrintable = true :=
    List.all_eq_true.2 fun _ => Text.isPrintable_of_mem_integer
  have digits : (Text.digits index).all Text.isPrintable = true := integer index
  have name : t.kind.name.toList.all Text.isPrintable = true :=
    List.all_eq_true.2 fun _ mem => (TokenKind.isPrintable_of_mem_name mem).1
  have quoted : (Text.quoted t.literal.toList).all Text.isPrintable = true :=
    List.all_eq_true.2 fun _ => Text.isPrintable_of_mem_quoted
  have spaces (width : Nat) (s : String) : (filling width s).all Text.isPrintable = true :=
    List.all_eq_true.2 fun c mem => by rw [List.eq_of_mem_replicate mem]; decide
  simp only [tableEntry, toList_spanText, List.all_cons, List.all_append, integer, digits, name,
    quoted, spaces]
  decide

/-! ## Tables -/

/-- The entries of tokens with their indices. -/
def tableEntries (es : List (Token × Nat)) : List (List Char) :=
  es.map fun e => tableEntry e.2 e.1

/-- The lines of entries, each ended by a line feed. -/
def tableText (es : List (Token × Nat)) : List Char := (tableEntries es).flatMap (· ++ ['\n'])

theorem tableText_cons (t : Token) (index : Nat) (es : List (Token × Nat)) :
    tableText ((t, index) :: es) = (tableLine index t).toList ++ tableText es := by
  rw [tableText, tableText, toList_tableLine]
  exact List.flatMap_cons

theorem toList_tableFrom (index : Nat) (ts : List Token) :
    (tableFrom index ts).toList = tableText (ts.zipIdx index) := by
  induction ts generalizing index with
  | nil => rfl
  | cons t ts ih => rw [tableFrom, String.toList_append, ih, List.zipIdx_cons, tableText_cons]

section

variable {es fs : List (Token × Nat)}

theorem isPrintable_of_mem_tableEntries {entry : List Char} (mem : entry ∈ tableEntries es) :
    ∀ c ∈ entry, Text.isPrintable c = true := by
  obtain ⟨e, -, rfl⟩ := List.mem_map.1 mem
  exact List.all_eq_true.1 (isPrintable_tableEntry e.2 e.1)

theorem isPrintable_of_mem_tableText {c : Char} (mem : c ∈ tableText es) :
    c = '\n' ∨ Text.isPrintable c = true := by
  obtain ⟨entry, inside, mem⟩ := List.mem_flatMap.1 mem
  rw [List.mem_append, List.mem_singleton] at mem
  exact mem.symm.imp id (isPrintable_of_mem_tableEntries inside c)

theorem lines_tableText (es : List (Token × Nat)) :
    Text.lines (tableText es) = tableEntries es ++ [[]] := by
  have unbroken : ∀ entry ∈ tableEntries es, '\n' ∉ entry := fun _ mem =>
    Text.lineFeed_not_mem_of_printable (isPrintable_of_mem_tableEntries mem)
  rw [tableText, Text.lines_flatMap_lineFeed unbroken]

theorem map_ofTableEntry?_tableEntries (es : List (Token × Nat)) :
    (tableEntries es).map Token.ofTableEntry? = es.map some := by
  rw [tableEntries, List.map_map]
  exact List.map_congr_left fun e _ => ofTableEntry?_tableEntry e.2 e.1

/-- The tokens and their indices can be had back from their lines. -/
theorem tableText_inj (same : tableText es = tableText fs) : es = fs := by
  have lines : tableEntries es ++ [[]] = tableEntries fs ++ [[]] := by
    rw [← lines_tableText, ← lines_tableText, same]
  have read : es.map some = fs.map some := by
    rw [← map_ofTableEntry?_tableEntries, ← map_ofTableEntry?_tableEntries,
      List.append_cancel_right lines]
  exact List.map_injective_iff.2 (Option.some_injective _) read

end

/-! ## What is written -/

/-- The line of a token with an index can be written. -/
def Fits (index : Nat) (t : Token) : Prop := ∀ n ∈ (index : Int) :: t.span.numbers, Text.Short n

instance (index : Nat) (t : Token) : Decidable (Fits index t) :=
  inferInstanceAs (Decidable (∀ n ∈ _, _))

/-- The tokens, with their indices from a first one on, in front of the first whose line cannot be
written. -/
def fitting (index : Nat) (ts : List Token) : List (Token × Nat) :=
  (ts.zipIdx index).takeWhile fun e => Fits e.2 e.1

section

variable {index : Nat} {t : Token}

theorem fitting_cons_of_fits (fits : Fits index t) (ts : List Token) :
    fitting index (t :: ts) = (t, index) :: fitting (index + 1) ts :=
  List.takeWhile_cons_of_pos (decide_eq_true fits)

theorem fitting_cons_of_not_fits (long : ¬ Fits index t) (ts : List Token) :
    fitting index (t :: ts) = [] :=
  List.takeWhile_cons_of_neg (by simpa using long)

theorem writeTableFrom_cons_of_fits (fits : Fits index t) (ts : List Token) :
    writeTableFrom index (t :: ts) =
      ⟨tableLine index t ++ (writeTableFrom (index + 1) ts).text,
        (writeTableFrom (index + 1) ts).failure?⟩ := by
  rw [writeTableFrom, Text.written_of_short fits]

theorem writeTableFrom_cons_of_not_fits (long : ¬ Fits index t) (ts : List Token) :
    writeTableFrom index (t :: ts) = ⟨"", some .tooLong⟩ := by
  rw [writeTableFrom, Text.written_of_long long]

end

/-- What is written of a table are the lines in front of the first that cannot be written. -/
theorem toList_writeTableFrom (index : Nat) (ts : List Token) :
    (writeTableFrom index ts).text.toList = tableText (fitting index ts) := by
  induction ts generalizing index with
  | nil => rfl
  | cons t ts ih =>
    by_cases fits : Fits index t
    · rw [writeTableFrom_cons_of_fits fits, fitting_cons_of_fits fits, tableText_cons, ← ih,
        String.toList_append]
    · rw [writeTableFrom_cons_of_not_fits fits, fitting_cons_of_not_fits fits]
      rfl

/-- A table is written to its end if no line is in the way. -/
theorem failure?_writeTableFrom (index : Nat) (ts : List Token) :
    (writeTableFrom index ts).failure? = none ↔ fitting index ts = ts.zipIdx index := by
  induction ts generalizing index with
  | nil => exact iff_of_true rfl rfl
  | cons t ts ih =>
    rw [List.zipIdx_cons]
    by_cases fits : Fits index t
    · rw [writeTableFrom_cons_of_fits fits, fitting_cons_of_fits fits, List.cons_inj_right, ih]
    · rw [writeTableFrom_cons_of_not_fits fits, fitting_cons_of_not_fits fits]
      exact iff_of_false nofun nofun

/-- No line is in the way if all indices can be written, and all numbers of places. -/
theorem fitting_eq_zipIdx_iff (ts : List Token) :
    fitting 0 ts = ts.zipIdx ↔
      ts.length ≤ 10 ^ Text.mostDigits ∧ ∀ t ∈ ts, ∀ n ∈ t.span.numbers, Text.Short n := by
  have index (i : Nat) : Text.Short i ↔ i < 10 ^ Text.mostDigits := by
    rw [Text.short_iff, Int.natAbs_natCast]
  rw [fitting, List.takeWhile_eq_self_iff]
  simp only [decide_eq_true_eq]
  constructor
  · intro fits
    have each {i : Nat} {t : Token} (here : ts[i]? = some t) : Fits i t :=
      fits (t, i) (List.mk_mem_zipIdx_iff_getElem?.2 here)
    refine ⟨forall_lt_iff_le.1 fun i lt => (index i).1 ?_, fun t mem => ?_⟩
    · exact each (List.getElem?_eq_getElem lt) _ List.mem_cons_self
    · obtain ⟨i, here⟩ := List.getElem?_of_mem mem
      exact fun n number => each here n (List.mem_cons_of_mem _ number)
  · rintro ⟨fewer, short⟩ e mem
    have lt : e.2 < ts.length := List.snd_lt_of_mem_zipIdx mem
    exact List.forall_mem_cons.2 ⟨(index e.2).2 (Nat.lt_of_lt_of_le lt fewer),
      short e.1 (List.fst_mem_of_mem_zipIdx mem)⟩

theorem text_writeTable {ts : List Token} (ended : (writeTable ts).failure? = none) :
    (writeTable ts).text = table ts := by
  refine String.toList_inj.1 ?_
  rw [table, toList_tableFrom, ← (failure?_writeTableFrom 0 ts).1 ended]
  exact toList_writeTableFrom 0 ts

end Render

/-- A table is written to its end if there are no more tokens than there are indices that can be
written, and no number of a place is too long. Else it breaks off at the first token whose line has
such a number. What is written has a line for each token up to there, with a line feed behind it,
and each line is read as its token and its index, which counts from zero. There is no other line
break in it, for all characters but line feeds are printable. No two lists of tokens have the same
table, if their tables are written to the end. -/
theorem table_entries (ts : List Token) :
    let table := Render.writeTable ts
    (table.failure? = none ↔
        ts.length ≤ 10 ^ Text.mostDigits ∧ ∀ t ∈ ts, ∀ n ∈ t.span.numbers, Text.Short n) ∧
      (table.failure? = none ↔ Render.fitting 0 ts = ts.zipIdx) ∧
      (∃ entries : List (List Char), Text.lines table.text.toList = entries ++ [[]] ∧
        entries.map Token.ofTableEntry? = (Render.fitting 0 ts).map some) ∧
      (∀ c ∈ table.text.toList, c = '\n' ∨ Text.isPrintable c = true) ∧
      (table.failure? = none → ∀ us, (Render.writeTable us).failure? = none →
        (table.text = (Render.writeTable us).text ↔ ts = us)) := by
  intro table
  have whole := Render.failure?_writeTableFrom 0 ts
  have text : table.text.toList = Render.tableText (Render.fitting 0 ts) :=
    Render.toList_writeTableFrom 0 ts
  refine ⟨whole.trans (Render.fitting_eq_zipIdx_iff ts), whole,
    ⟨_, text ▸ Render.lines_tableText _, Render.map_ofTableEntry?_tableEntries _⟩, ?printable,
    fun ended us ended' => ⟨fun same => ?inj, fun same => by rw [← same]⟩⟩
  case printable =>
    rw [text]
    exact fun c => Render.isPrintable_of_mem_tableText
  case inj =>
    have whole' := Render.failure?_writeTableFrom 0 us
    have texts := congrArg String.toList same
    rw [text, whole.1 ended, Render.writeTable, Render.toList_writeTableFrom 0 us,
      whole'.1 ended'] at texts
    have tokens := congrArg (List.map Prod.fst) (Render.tableText_inj texts)
    rwa [List.zipIdx_map_fst, List.zipIdx_map_fst] at tokens

/-- A literal that looks like the places of a token, which have minus signs of both uses. -/
theorem table_entries_of_signs :
    let ts : List Token := [⟨.illegal, "' 1:2-", ⟨⟨-1, 2, -3⟩, ⟨-4, 50, 6⟩⟩⟩, .endAt ⟨1, 1, 0⟩]
    let table := Render.writeTable ts
    ts.length ≤ 10 ^ Text.mostDigits ∧ (∀ t ∈ ts, ∀ n ∈ t.span.numbers, Text.Short n) ∧
      table.failure? = none ∧
      table.text =
        "[0] ILLEGAL    \"' 1:2-\"     -1:2--4:50 (-3,6)\n" ++
          "[1] EOF        ''           1:1-1:1 (0,0)\n" ∧
      (∃ entries : List (List Char), Text.lines table.text.toList = entries ++ [[]] ∧
        entries.map Token.ofTableEntry? = ts.zipIdx.map some) ∧
      ∀ us, (Render.writeTable us).failure? = none →
        (table.text = (Render.writeTable us).text ↔ ts = us) := by
  intro ts table
  have indices : ts.length ≤ 10 ^ Text.mostDigits := by decide +kernel
  have short : ∀ t ∈ ts, ∀ n ∈ t.span.numbers, Text.Short n := by decide +kernel
  obtain ⟨fits, whole, ⟨entries, lines, read⟩, -, inj⟩ := table_entries ts
  have ended : table.failure? = none := fits.2 ⟨indices, short⟩
  rw [whole.1 ended] at read
  exact ⟨indices, short, ended, by decide +kernel, ⟨entries, lines, read⟩, inj ended⟩

/-- The least offset that is too long, in the second line: the first is all that is written. -/
theorem table_of_long_offset :
    Render.writeTable [.endAt ⟨1, 1, 0⟩, .endAt ⟨1, 1, 10 ^ Text.mostDigits⟩] =
      ⟨"[0] EOF        ''           1:1-1:1 (0,0)\n", some .tooLong⟩ := by
  let last : Token := .endAt ⟨1, 1, 10 ^ Text.mostDigits⟩
  have part : (10 ^ Text.mostDigits : Int) ∈ ((1 : Nat) : Int) :: last.span.numbers :=
    List.mem_cons_of_mem _ (List.mem_cons_of_mem _ (List.mem_cons_of_mem _ List.mem_cons_self))
  have fits : Render.Fits 0 (.endAt ⟨1, 1, 0⟩) := by decide +kernel
  have long : ¬ Render.Fits 1 last := fun short => Text.not_short_ten_pow (short _ part)
  rw [Render.writeTable, Render.writeTableFrom_cons_of_fits fits,
    Render.writeTableFrom_cons_of_not_fits long]
  decide +kernel

end MonkeyScan
