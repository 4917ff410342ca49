import MonkeyScan.Text.Hex
import MonkeyScan.Toml.Limit
import MonkeyScan.Toml.Value

/-!
The lexemes of a TOML document, each read from the front of a text: blanks and comments, keys,
strings, numbers, and dates and times. A reader answers what it read and the text behind it, or
nothing if the text does not start with what it reads; a reader of plain values says why it refuses.
-/

namespace MonkeyScan.Toml

/-- Space and tab. -/
def isBlank (c : Char) : Bool := c = ' ' || c = '\t'

/-- Space, tab and line feed. -/
def isGap (c : Char) : Bool := isBlank c || c = '\n'

/-- The control characters of ASCII but the tab: they stand in no string and no comment. -/
def isControl (c : Char) : Bool := (c.toNat < 0x20 && c ≠ '\t') || c.toNat = 0x7f

/-- The characters of a key without quotes. -/
def isBare (c : Char) : Bool := c.isAlphanum || c = '-' || c = '_'

/-- The text behind a comment, if one starts here. A control character makes it no comment. -/
def skipComment : List Char → List Char
  | '#' :: cs =>
    if (cs.takeWhile (· ≠ '\n')).all (!isControl ·) then cs.dropWhile (· ≠ '\n') else '#' :: cs
  | cs => cs

/-- The text behind blanks, line feeds and comments. -/
def skipGaps (cs : List Char) : List Char :=
  if (skipComment (cs.dropWhile isGap)).length < (cs.dropWhile isGap).length then
    skipGaps (skipComment (cs.dropWhile isGap))
  else cs.dropWhile isGap
termination_by cs.length
decreasing_by
  have := (List.dropWhile_sublist (l := cs) isGap).length_le
  omega

theorem length_skipGaps_le (cs : List Char) : (skipGaps cs).length ≤ cs.length := by
  fun_induction skipGaps cs with
  | case1 cs shorter ih =>
    have := (List.dropWhile_sublist (l := cs) isGap).length_le
    omega
  | case2 cs _ => exact (List.dropWhile_sublist (l := cs) isGap).length_le

/-! ### Strings -/

/-- The character of a letter behind a backslash. -/
def escape? : Char → Option Char
  | 'b' => some (Char.ofNat 0x8)
  | 't' => some '\t'
  | 'n' => some '\n'
  | 'f' => some (Char.ofNat 0xc)
  | 'r' => some '\r'
  | '"' => some '"'
  | '\\' => some '\\'
  | _ => none

/-- The character whose number hexadecimal digits write. -/
def scalar? (digits : List Char) : Option Char := do
  let n ← Text.ofHex? digits
  if n.isValidChar then some (Char.ofNat n) else none

/-- Puts a character in front of what was read. -/
def andThen (c : Char) (r : Option (List Char × List Char)) : Option (List Char × List Char) :=
  r.map fun (cs, rest) => (c :: cs, rest)

/-- The rest of a string in double quotes on one line. -/
def basicRest : List Char → Option (List Char × List Char)
  | [] => none
  | '"' :: cs => some ([], cs)
  | '\\' :: 'u' :: a :: b :: c :: d :: cs =>
    (scalar? [a, b, c, d]).bind fun u => andThen u (basicRest cs)
  | '\\' :: 'U' :: a :: b :: c :: d :: e :: f :: g :: h :: cs =>
    (scalar? [a, b, c, d, e, f, g, h]).bind fun u => andThen u (basicRest cs)
  | '\\' :: e :: cs => (escape? e).bind fun u => andThen u (basicRest cs)
  | c :: cs => if c = '\\' ∨ isControl c then none else andThen c (basicRest cs)

/-- The quotes behind the three that end a string of several lines: up to two more belong to it. -/
def extraQuotes (quote : Char) : List Char → List Char × List Char
  | a :: b :: cs =>
    if a = quote then if b = quote then ([a, b], cs) else ([a], b :: cs) else ([], a :: b :: cs)
  | a :: cs => if a = quote then ([a], cs) else ([], a :: cs)
  | [] => ([], [])

/-- The rest of a string in three double quotes. A backslash before the end of a line takes away
all blanks and line feeds up to the next character; `joining` holds behind such a backslash. -/
def multilineBasicRest (joining : Bool) : List Char → Option (List Char × List Char)
  | [] => none
  | '"' :: '"' :: '"' :: cs => some (extraQuotes '"' cs)
  | '\\' :: 'u' :: a :: b :: c :: d :: cs =>
    (scalar? [a, b, c, d]).bind fun u => andThen u (multilineBasicRest false cs)
  | '\\' :: 'U' :: a :: b :: c :: d :: e :: f :: g :: h :: cs =>
    (scalar? [a, b, c, d, e, f, g, h]).bind fun u => andThen u (multilineBasicRest false cs)
  | '\\' :: e :: cs =>
    if isGap e then
      if ((e :: cs).dropWhile isBlank).head? = some '\n' then multilineBasicRest true cs else none
    else (escape? e).bind fun u => andThen u (multilineBasicRest false cs)
  | c :: cs =>
    if joining && isGap c then multilineBasicRest true cs
    else if c = '\\' ∨ (isControl c ∧ c ≠ '\n') then none
    else andThen c (multilineBasicRest false cs)

/-- The rest of a string in apostrophes on one line. -/
def literalRest : List Char → Option (List Char × List Char)
  | [] => none
  | '\'' :: cs => some ([], cs)
  | c :: cs => if isControl c then none else andThen c (literalRest cs)

/-- The rest of a string in three apostrophes. -/
def multilineLiteralRest : List Char → Option (List Char × List Char)
  | [] => none
  | '\'' :: '\'' :: '\'' :: cs => some (extraQuotes '\'' cs)
  | c :: cs => if isControl c ∧ c ≠ '\n' then none else andThen c (multilineLiteralRest cs)

/-- A text without a line feed at its front. -/
def dropLineFeed : List Char → List Char
  | '\n' :: cs => cs
  | cs => cs

/-- A string of any of the four forms. -/
def string? (cs : List Char) : Option (String × List Char) :=
  let read := match cs with
    | '"' :: '"' :: '"' :: cs => multilineBasicRest false (dropLineFeed cs)
    | '"' :: cs => basicRest cs
    | '\'' :: '\'' :: '\'' :: cs => multilineLiteralRest (dropLineFeed cs)
    | '\'' :: cs => literalRest cs
    | _ => none
  read.map fun (s, rest) => (String.ofList s, rest)

/-- One part of a key: without quotes, or a string on one line. -/
def keyPart? (cs : List Char) : Option (String × List Char) :=
  match cs with
  | '"' :: cs => (basicRest cs).map fun (s, rest) => (String.ofList s, rest)
  | '\'' :: cs => (literalRest cs).map fun (s, rest) => (String.ofList s, rest)
  | _ =>
    if (cs.head?.any isBare) then some (String.ofList (cs.takeWhile isBare), cs.dropWhile isBare)
    else none

/-! ### Numbers -/

/-- The digits behind the first, of a class; single underscores between digits are dropped. -/
def moreDigits (p : Char → Bool) : List Char → List Char × List Char
  | [] => ([], [])
  | [c] => if p c then ([c], []) else ([], [c])
  | c :: d :: cs =>
    if p c then let (ds, rest) := moreDigits p (d :: cs); (c :: ds, rest)
    else if c = '_' ∧ p d then let (ds, rest) := moreDigits p cs; (d :: ds, rest)
    else ([], c :: d :: cs)

/-- A run of digits of a class. -/
def digits? (p : Char → Bool) : List Char → Option (List Char × List Char)
  | [] => none
  | c :: cs => if p c then let (ds, rest) := moreDigits p cs; some (c :: ds, rest) else none

/-- The number that digits write in a base. -/
def ofDigitsIn (base : Nat) (ds : List Char) : Nat :=
  ds.foldl (fun n c => base * n + (Text.hexValue? c).getD 0) 0

/-- An integer in a base that its second character names. -/
def based? : List Char → Option (Value × List Char)
  | '0' :: 'x' :: cs => read 16 (fun c => (Text.hexValue? c).isSome) cs
  | '0' :: 'o' :: cs => read 8 (fun c => '0' ≤ c && c ≤ '7') cs
  | '0' :: 'b' :: cs => read 2 (fun c => c = '0' || c = '1') cs
  | _ => none
where
  read (base : Nat) (p : Char → Bool) (cs : List Char) : Option (Value × List Char) :=
    (digits? p cs).map fun (ds, rest) => (.integer (ofDigitsIn base ds), rest)

/-- A sign, or none. -/
def sign : List Char → Bool × List Char
  | '-' :: cs => (true, cs)
  | '+' :: cs => (false, cs)
  | cs => (false, cs)

/-- The digits before the point: a zero alone, or a run that starts with another digit. -/
def whole? : List Char → Option (List Char × List Char)
  | '0' :: cs => some (['0'], cs)
  | cs => digits? Char.isDigit cs

/-- The digits behind the point, if there are any. -/
def fraction? : List Char → Option (List Char × List Char)
  | '.' :: cs => digits? Char.isDigit cs
  | _ => none

/-- The exponent, if there is one. -/
def exponent? : List Char → Option (Int × List Char)
  | c :: cs =>
    if c = 'e' ∨ c = 'E' then
      let (negative, cs) := sign cs
      (digits? Char.isDigit cs).map fun (ds, rest) =>
        let n : Int := ofDigitsIn 10 ds
        (if negative then -n else n, rest)
    else none
  | [] => none

/-- A decimal number: an integer, or a float if it has a fraction or an exponent. -/
def decimal? (cs : List Char) : Option (Value × List Char) := do
  let (negative, cs) := sign cs
  let (ds, cs) ← whole? cs
  match fraction? cs, exponent? ((fraction? cs).elim cs (·.2)) with
  | none, none =>
    let n : Int := ofDigitsIn 10 ds
    some (.integer (if negative then -n else n), cs)
  | fraction, exponent =>
    let places := fraction.elim [] (·.1)
    let behind := fraction.elim cs (·.2)
    let n := ofDigitsIn 10 (ds ++ places)
    some (.float (.ofDecimal negative n (exponent.elim 0 (·.1) - places.length)),
      exponent.elim behind (·.2))

/-- An infinity or the float that is not a number. -/
def special? (cs : List Char) : Option (Value × List Char) :=
  let (negative, cs) := sign cs
  match cs with
  | 'i' :: 'n' :: 'f' :: cs => some (.float (.infinite negative), cs)
  | 'n' :: 'a' :: 'n' :: cs => some (.float .notANumber, cs)
  | _ => none

/-- The number of digits before the point of a decimal number. -/
def wholeLength (cs : List Char) : Nat := ((whole? (sign cs).2).map (·.1.length)).getD 0

/-- A number of any form. Of the integers only the decimal ones have a limit of digits. -/
def number (cs : List Char) : Except Refusal (Value × List Char) :=
  match based? cs, decimal? cs with
  | some r, _ => .ok r
  | none, some (.integer n, rest) =>
    if Text.mostDigits < wholeLength cs then .error (.beyond (.digits (wholeLength cs)))
    else .ok (.integer n, rest)
  | none, some r => .ok r
  | none, none => orMalformed (special? cs)

/-! ### Dates and times -/

/-- A fixed count of ASCII digits. -/
def fixed? (count : Nat) (cs : List Char) : Option (Nat × List Char) :=
  let ds := cs.take count
  if ds.length = count ∧ ds.all Char.isDigit then some (ofDigitsIn 10 ds, cs.drop count) else none

/-- One given character. -/
def char? (c : Char) : List Char → Option (List Char)
  | d :: cs => if d = c then some cs else none
  | [] => none

/-- A fixed count of digits whose number lies within bounds. -/
def bounded? (count lo hi : Nat) (cs : List Char) : Option (Nat × List Char) := do
  let (n, cs) ← fixed? count cs
  if lo ≤ n ∧ n ≤ hi then some (n, cs) else none

/-- A date. Whether its month has the day is not asked here. -/
def date? (cs : List Char) : Option (Date × List Char) := do
  let (year, cs) ← fixed? 4 cs
  let cs ← char? '-' cs
  let (month, cs) ← bounded? 2 1 12 cs
  let cs ← char? '-' cs
  let (day, cs) ← bounded? 2 1 31 cs
  some (⟨year, month, day⟩, cs)

/-- The digits behind the point of the seconds: of the first six the microseconds, zero if there is
no point with a digit behind it. -/
def microseconds : List Char → Nat × List Char
  | '.' :: cs =>
    let ds := cs.takeWhile Char.isDigit
    if ds.isEmpty then (0, '.' :: cs)
    else (ofDigitsIn 10 ((ds ++ List.replicate 5 '0').take 6), cs.dropWhile Char.isDigit)
  | cs => (0, cs)

/-- A time with its seconds. -/
def time? (cs : List Char) : Option (Time × List Char) := do
  let (hour, cs) ← bounded? 2 0 23 cs
  let cs ← char? ':' cs
  let (minute, cs) ← bounded? 2 0 59 cs
  let cs ← char? ':' cs
  let (second, cs) ← bounded? 2 0 59 cs
  let (micros, cs) := microseconds cs
  some (⟨hour, minute, second, micros⟩, cs)

/-- An offset in minutes: a `Z`, or hours and minutes behind a sign. -/
def offset? : List Char → Option (Int × List Char)
  | c :: cs =>
    if c = 'Z' ∨ c = 'z' then some (0, cs)
    else if c = '+' ∨ c = '-' then do
      let (hours, cs) ← bounded? 2 0 23 cs
      let cs ← char? ':' cs
      let (minutes, cs) ← bounded? 2 0 59 cs
      let n : Int := 60 * hours + minutes
      some (if c = '-' then -n else n, cs)
    else none
  | [] => none

/-- The time behind a date, if a `T` or a space stands between them. -/
def timeOfDate? : List Char → Option (Time × List Char)
  | c :: cs => if c = 'T' ∨ c = 't' ∨ c = ' ' then time? cs else none
  | [] => none

/-- A moment that starts with a date: the date alone where no time follows. -/
def datedMoment? (cs : List Char) : Option (Moment × List Char) := do
  let (d, cs) ← date? cs
  match timeOfDate? cs with
  | none => some (.date d, cs)
  | some (t, cs) =>
    match offset? cs with
    | none => some (.dateTime d t none, cs)
    | some (o, cs) => some (.dateTime d t (some o), cs)

/-- A date, a time, or both. -/
def moment? (cs : List Char) : Option (Moment × List Char) :=
  datedMoment? cs <|> (time? cs).map fun (t, cs) => (.time t, cs)

/-! ### Plain values -/

/-- A truth value. -/
def boolean? : List Char → Option (Value × List Char)
  | 't' :: 'r' :: 'u' :: 'e' :: cs => some (.boolean true, cs)
  | 'f' :: 'a' :: 'l' :: 's' :: 'e' :: cs => some (.boolean false, cs)
  | _ => none

/-- A value that holds no other values. What looks like a date must be one. -/
def plain (cs : List Char) : Except Refusal (Value × List Char) :=
  if cs.head? = some '"' ∨ cs.head? = some '\'' then
    orMalformed ((string? cs).map fun (s, rest) => (.string s, rest))
  else
    match moment? cs, boolean? cs with
    | some (m, rest), _ => if m.isValid then .ok (.moment m, rest) else .error .malformed
    | none, some r => .ok r
    | none, none => number cs

end MonkeyScan.Toml
