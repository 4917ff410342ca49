import MonkeyScan.Proofs.QuotedText
import MonkeyScan.Render.Listing
import MonkeyScan.Text.Lines

/-!
Text listings are read back. A row is what a line of a listing tells of its token: the line and the
column where it starts unless they are left out, its kind and its characters. A line is read from
left to right (`Row.read?`): two integers with a colon and a space behind them, a name up to a
space, and a quoted text up to the end of the line. The main statements: a token's line is read as
its row (`read?_tokenLine`), and a listing that can be written has a line for each token and breaks
nowhere else (`listing_text`), since all its characters but the line feeds are printable.
-/

namespace MonkeyScan

namespace Text

/-- The characters other than the line feed at which a text may be taken to have a line break. -/
def lineBreaks : List Char :=
  ['\x0b', '\x0c', '\r', '\x1c', '\x1d', '\x1e', '\u0085', '\u2028', '\u2029']

theorem not_isPrintable_of_mem_lineBreaks {c : Char} (mem : c ∈ lineBreaks) :
    c ≠ '\n' ∧ isPrintable c = false := by
  have breaks : lineBreaks.all (fun c => c ≠ '\n' && !isPrintable c) = true := by decide +kernel
  simpa using List.all_eq_true.1 breaks c mem

end Text

namespace TokenKind

/-- The kind that a text names up to its first space, and what stands behind the space. -/
def leading? (cs : List Char) : Option (TokenKind × List Char) := do
  let name := cs.takeWhile (· ≠ ' ')
  let kind ← ofName? (String.ofList name)
  let more ← Text.behind? ' ' (cs.drop name.length)
  return (kind, more)

theorem isPrintable_of_mem_name {k : TokenKind} {c : Char} (mem : c ∈ k.name.toList) :
    Text.isPrintable c = true ∧ c ≠ ' ' := by
  have names : ∀ k ∈ all, k.name.toList.all (fun c => Text.isPrintable c && c ≠ ' ') = true := by
    decide +kernel
  simpa using List.all_eq_true.1 (names k (mem_all k)) c mem

theorem leading?_name (k : TokenKind) (more : List Char) :
    leading? (k.name.toList ++ ' ' :: more) = some (k, more) := by
  have apart : ∀ c ∈ k.name.toList, decide (c ≠ ' ') = true := fun c mem =>
    decide_eq_true (isPrintable_of_mem_name mem).2
  have name : (k.name.toList ++ ' ' :: more).takeWhile (· ≠ ' ') = k.name.toList := by
    rw [List.takeWhile_append_of_pos apart, List.takeWhile_cons_of_neg (by simp), List.append_nil]
  rw [leading?, name, String.ofList_toList, ofName?_name, List.drop_left, Text.behind?_cons]
  rfl

end TokenKind

/-! ## Rows -/

/-- What a line of a listing tells of a token. -/
@[ext] structure Row where
  place? : Option (Int × Int)
  kind : TokenKind
  literal : String
deriving DecidableEq

namespace Row

/-- The row of a token, with or without the line and the column where it starts. -/
def ofToken (positions : Bool) (t : Token) : Row where
  place? := if positions then some (t.span.start.line, t.span.start.column) else none
  kind := t.kind
  literal := t.literal

/-- The line and the column that a text starts with, and what stands behind them. -/
def leadingPlace? (cs : List Char) : Option ((Int × Int) × List Char) := do
  let (line, more) ← Text.leadingInteger? cs
  let more ← Text.behind? ':' more
  let (column, more) ← Text.leadingInteger? more
  let more ← Text.behind? ' ' more
  return ((line, column), more)

/-- The row without a place that a text is. -/
def readUnplaced? (cs : List Char) : Option Row := do
  let (kind, more) ← TokenKind.leading? cs
  let (literal, more) ← Text.unquote? more
  if more = [] then some ⟨none, kind, String.ofList literal⟩ else none

/-- The row that a line of a listing tells. -/
def read? (positions : Bool) (cs : List Char) : Option Row :=
  if positions then do
    let (place, more) ← leadingPlace? cs
    let row ← readUnplaced? more
    return { row with place? := some place }
  else readUnplaced? cs

theorem leadingPlace?_integers (line column : Int) (more : List Char) :
    leadingPlace? (Text.integer line ++ ':' :: (Text.integer column ++ ' ' :: more)) =
      some ((line, column), more) := by
  have colon : (':' :: (Text.integer column ++ ' ' :: more)).takeWhile Char.isDigit = [] := rfl
  have space : (' ' :: more).takeWhile Char.isDigit = [] := rfl
  simp only [leadingPlace?, Text.leadingInteger?_integer colon, Text.behind?_cons,
    Text.leadingInteger?_integer space, Option.bind_eq_bind, Option.bind_some, Option.pure_def]

theorem readUnplaced?_line (kind : TokenKind) (literal : String) :
    readUnplaced? (kind.name.toList ++ ' ' :: Text.quoted literal.toList) =
      some ⟨none, kind, literal⟩ := by
  have quoted : Text.unquote? (Text.quoted literal.toList) = some (literal.toList, []) := by
    have := Text.unquote?_quoted literal.toList []
    rwa [List.append_nil] at this
  simp only [readUnplaced?, TokenKind.leading?_name, quoted, Option.bind_eq_bind, Option.bind_some,
    if_true, String.ofList_toList]

theorem read?_nil (positions : Bool) : read? positions [] = none := by
  cases positions <;> rfl

end Row

namespace Render

/-- The characters of a token's line without its place. -/
theorem toList_tokenLine_unplaced (t : Token) :
    (tokenLine false t).toList = t.kind.name.toList ++ ' ' :: Text.quoted t.literal.toList := by
  simp [tokenLine, Text.quote]

/-- The characters of a token's line with its place. -/
theorem toList_tokenLine_placed (t : Token) :
    (tokenLine true t).toList =
      Text.integer t.span.start.line ++ ':' ::
        (Text.integer t.span.start.column ++ ' ' :: (tokenLine false t).toList) := by
  simp [tokenLine]

/-- A token's line is read as its row. -/
theorem read?_tokenLine (positions : Bool) (t : Token) :
    Row.read? positions (tokenLine positions t).toList = some (Row.ofToken positions t) := by
  have unplaced : Row.readUnplaced? (tokenLine false t).toList = some (Row.ofToken false t) := by
    rw [toList_tokenLine_unplaced, Row.readUnplaced?_line]
    rfl
  cases positions with
  | false => exact unplaced
  | true =>
    rw [toList_tokenLine_placed, Row.read?, if_pos rfl, Row.leadingPlace?_integers]
    simp only [Option.bind_eq_bind, Option.bind_some, unplaced, Option.pure_def]
    rfl

theorem isPrintable_of_mem_tokenLine {positions : Bool} {t : Token} {c : Char}
    (mem : c ∈ (tokenLine positions t).toList) : Text.isPrintable c = true := by
  have unplaced (mem : c ∈ (tokenLine false t).toList) : Text.isPrintable c = true := by
    rw [toList_tokenLine_unplaced, List.mem_append, List.mem_cons] at mem
    rcases mem with name | rfl | literal
    · exact (TokenKind.isPrintable_of_mem_name name).1
    · decide
    · exact Text.isPrintable_of_mem_quoted literal
  cases positions with
  | false => exact unplaced mem
  | true =>
    rw [toList_tokenLine_placed, List.mem_append, List.mem_cons, List.mem_append,
      List.mem_cons] at mem
    rcases mem with line | rfl | column | rfl | rest
    · exact Text.isPrintable_of_mem_integer line
    · decide
    · exact Text.isPrintable_of_mem_integer column
    · decide
    · exact unplaced rest

/-! ## Listings -/

/-- The lines of tokens, without line feeds. -/
def tokenLines (positions : Bool) (ts : List Token) : List (List Char) :=
  ts.map fun t => (tokenLine positions t).toList

theorem isPrintable_of_mem_tokenLines {positions : Bool} {ts : List Token} {l : List Char}
    (line : l ∈ tokenLines positions ts) {c : Char} (mem : c ∈ l) : Text.isPrintable c = true := by
  obtain ⟨t, -, rfl⟩ := List.mem_map.1 line
  exact isPrintable_of_mem_tokenLine mem

theorem map_read?_tokenLines (positions : Bool) (ts : List Token) :
    (tokenLines positions ts).map (Row.read? positions) =
      ts.map fun t => some (Row.ofToken positions t) := by
  rw [tokenLines, List.map_map]
  exact List.map_congr_left fun t _ => read?_tokenLine positions t

theorem toList_listing_text_nil (positions : Bool) :
    (listing .text positions []).toList = ['\n'] := by
  simp [listing, textListing]

theorem toList_listing_text {positions : Bool} {ts : List Token} (nonempty : ts ≠ []) :
    (listing .text positions ts).toList = (tokenLines positions ts).flatMap (· ++ ['\n']) := by
  have lines : tokenLines positions ts ≠ [] := by simpa [tokenLines] using nonempty
  rw [← Text.intercalate_append_lineFeed lines, listing, textListing, String.toList_append,
    String.toList_intercalate, List.map_map]
  rfl

theorem lines_listing_text {positions : Bool} {ts : List Token} (nonempty : ts ≠ []) :
    Text.lines (listing .text positions ts).toList = tokenLines positions ts ++ [[]] := by
  have unbroken : ∀ l ∈ tokenLines positions ts, '\n' ∉ l := fun l line =>
    Text.lineFeed_not_mem_of_printable fun _ => isPrintable_of_mem_tokenLines line
  rw [toList_listing_text nonempty, Text.lines_flatMap_lineFeed unbroken]

theorem isPrintable_of_mem_listing_text {positions : Bool} {ts : List Token} {c : Char}
    (mem : c ∈ (listing .text positions ts).toList) : c = '\n' ∨ Text.isPrintable c = true := by
  by_cases empty : ts = []
  · subst empty
    rw [toList_listing_text_nil] at mem
    exact .inl (List.mem_singleton.1 mem)
  · rw [toList_listing_text empty, List.mem_flatMap] at mem
    obtain ⟨l, line, mem⟩ := mem
    rw [List.mem_append, List.mem_singleton] at mem
    exact mem.symm.imp id (isPrintable_of_mem_tokenLines line)

/-- The integers in a text listing are the lines and columns where the tokens start, if these are
shown. -/
theorem mem_listingIntegers_text {positions : Bool} {ts : List Token} {n : Int} :
    n ∈ listingIntegers .text positions ts ↔
      positions = true ∧ ∃ t ∈ ts, n = t.span.start.line ∨ n = t.span.start.column := by
  rw [listingIntegers, List.mem_flatMap]
  cases positions <;> simp [lineIntegers]

/-- The lines of a listing that can be read are read as the rows of its tokens. -/
theorem filterMap_read?_listing_text (positions : Bool) (ts : List Token) :
    (Text.lines (listing .text positions ts).toList).filterMap (Row.read? positions) =
      ts.map (Row.ofToken positions) := by
  by_cases empty : ts = []
  · subst empty
    have blank : Text.lines ['\n'] = [[], []] := rfl
    rw [toList_listing_text_nil, blank, List.filterMap_cons_none (Row.read?_nil positions),
      List.filterMap_cons_none (Row.read?_nil positions)]
    rfl
  · have rows : (tokenLines positions ts).filterMap (Row.read? positions) =
        ts.map (Row.ofToken positions) :=
      calc (tokenLines positions ts).filterMap (Row.read? positions)
        _ = ((tokenLines positions ts).map (Row.read? positions)).filterMap id := by
          rw [List.filterMap_map, Function.id_comp]
        _ = (ts.map fun t => some (Row.ofToken positions t)).filterMap id := by
          rw [map_read?_tokenLines]
        _ = ts.filterMap (some ∘ Row.ofToken positions) := by
          rw [List.filterMap_map, Function.id_comp]
          rfl
        _ = ts.map (Row.ofToken positions) := by
          rw [List.filterMap_eq_map]
    rw [lines_listing_text empty, List.filterMap_append, rows,
      List.filterMap_cons_none (Row.read?_nil positions), List.filterMap_nil, List.append_nil]

end Render

/-- A text listing is written unless its places are asked for and a line or column in it is too
long. What is written has a line for each token, with a line feed behind it, and each line is read
as the row of its token. There is no other line break in it, for all characters but line feeds are
printable. Two lists of tokens with the same listing, empty ones included, have the same rows. -/
theorem listing_text (positions : Bool) (ts : List Token) :
    ((∃ text, Render.writeListing .text positions ts = .ok text) ↔
        (positions = true → ∀ t ∈ ts, Text.Short t.span.start.line ∧
          Text.Short t.span.start.column)) ∧
      ∀ text, Render.writeListing .text positions ts = .ok text →
        (ts ≠ [] → ∃ rows : List (List Char), Text.lines text.toList = rows ++ [[]] ∧
          rows.map (Row.read? positions) = ts.map fun t => some (Row.ofToken positions t)) ∧
        (∀ c ∈ text.toList, c = '\n' ∨ Text.isPrintable c = true) ∧
        (∀ c ∈ Text.lineBreaks, c ∉ text.toList) ∧
        ∀ us, Render.writeListing .text positions us = .ok text →
          ts.map (Row.ofToken positions) = us.map (Row.ofToken positions) := by
  refine ⟨?fits, fun text written => ?_⟩
  case fits =>
    simp only [Render.writeListing, Text.written_eq_ok_iff, exists_and_left, exists_eq',
      and_true, Render.mem_listingIntegers_text]
    refine ⟨fun short shown t mem => ⟨short _ ⟨shown, t, mem, .inl rfl⟩,
      short _ ⟨shown, t, mem, .inr rfl⟩⟩, ?_⟩
    rintro short n ⟨shown, t, mem, rfl | rfl⟩
    · exact (short shown t mem).1
    · exact (short shown t mem).2
  · obtain ⟨-, rfl⟩ := Text.written_eq_ok_iff.1 written
    refine ⟨fun nonempty => ⟨_, Render.lines_listing_text nonempty,
      Render.map_read?_tokenLines positions ts⟩, fun c => Render.isPrintable_of_mem_listing_text,
      ?breaks, fun us written => ?rows⟩
    case breaks =>
      intro c listed mem
      obtain ⟨other, unprintable⟩ := Text.not_isPrintable_of_mem_lineBreaks listed
      rcases Render.isPrintable_of_mem_listing_text mem with feed | printable
      · exact other feed
      · exact absurd printable (by rw [unprintable]; decide)
    case rows =>
      have same := (Text.written_eq_ok_iff.1 written).2
      rw [← Render.filterMap_read?_listing_text, ← same, Render.filterMap_read?_listing_text]

/-- A literal that looks like an escape is told from the character of the escape; where the tokens
end is not told, however far that is. -/
theorem listing_text_of_escapes :
    let ts : List Token :=
      [⟨.illegal, "\\x7f", ⟨⟨-2, 3, 0⟩, ⟨-2, 7, 4⟩⟩⟩, ⟨.illegal, "\x7f'", ⟨⟨1, 1, 0⟩, ⟨1, 3, 2⟩⟩⟩]
    let us : List Token :=
      [⟨.illegal, "\\x7f", ⟨⟨-2, 3, 8⟩, ⟨9, 9, 9⟩⟩⟩,
        ⟨.illegal, "\x7f'", ⟨⟨1, 1, 5⟩, ⟨10 ^ Text.mostDigits, 1, 0⟩⟩⟩]
    let text := "-2:3 ILLEGAL '\\\\x7f'\n1:1 ILLEGAL \"\\x7f'\"\n"
    ts ≠ [] ∧ Render.writeListing .text true ts = .ok text ∧
      (∃ rows : List (List Char), Text.lines text.toList = rows ++ [[]] ∧
        rows.map (Row.read? true) =
          [some ⟨some (-2, 3), .illegal, "\\x7f"⟩, some ⟨some (1, 1), .illegal, "\x7f'"⟩]) ∧
      Render.writeListing .text true us = .ok text ∧
      ts.map (Row.ofToken true) = us.map (Row.ofToken true) := by
  intro ts us text
  have nonempty : ts ≠ [] := List.cons_ne_nil _ _
  have written : Render.writeListing .text true ts = .ok text := by decide +kernel
  have same : Render.writeListing .text true us = .ok text := by decide +kernel
  obtain ⟨-, each⟩ := listing_text true ts
  obtain ⟨read, -, -, rows⟩ := each text written
  exact ⟨nonempty, written, read nonempty, same, rows us same⟩

/-- The least column that is too long: there is no listing with it. -/
theorem no_listing_text_of_long_column :
    Render.writeListing .text true [.endAt ⟨1, 10 ^ Text.mostDigits, 0⟩] = .error .tooLong := by
  have part : (10 ^ Text.mostDigits : Int) ∈
      Render.listingIntegers .text true [.endAt ⟨1, 10 ^ Text.mostDigits, 0⟩] :=
    Render.mem_listingIntegers_text.2 ⟨rfl, _, List.mem_singleton_self _, .inr rfl⟩
  exact Text.written_of_long (fun short => Text.not_short_ten_pow (short _ part)) _

end MonkeyScan
