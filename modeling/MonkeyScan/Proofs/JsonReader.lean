import MonkeyScan.Proofs.Encoding
import MonkeyScan.Proofs.Numerals

/-!
A reader of JSON. It goes through a text once, character by character, with two things in hand: the
lexeme that it is in, and the arrays and objects that are open. Lexemes are the six marks, strings,
and atoms: the numbers and the three names. Blanks stand between lexemes only. In a string, a
character stands for its UTF-16 units and so does an escape, and all the units together have to be a
text; a pair of escapes can be one character. `Reads` is what a stretch of text does to the reader
whatever comes behind it, and its lemmas put the stretches of a document together.
-/

namespace MonkeyScan

/-- A JSON value. A number without point and exponent is an integer, and any other one a mantissa
with a power of ten. The members of an object stay in the order of the text. -/
inductive Datum where
  | null
  | boolean (b : Bool)
  | integer (n : Int)
  | decimal (mantissa exponent : Int)
  | string (s : String)
  | array (items : List Datum)
  | object (members : List (String × Datum))

namespace Datum

/-! ## Numbers -/

/-- The number of a run of digits, at least one. -/
def natural? (cs : List Char) : Option Nat :=
  if cs ≠ [] ∧ ∀ c ∈ cs, c.isDigit = true then some (Text.ofDigits cs) else none

/-- The digits behind a point, at least one, and what comes behind them; none without a point. -/
def fraction? : List Char → Option (List Char × List Char)
  | '.' :: cs =>
    let digits := cs.takeWhile Char.isDigit
    if digits = [] then none else some (digits, cs.dropWhile Char.isDigit)
  | cs => some ([], cs)

/-- The power of ten at the end of a number. -/
def exponent? : List Char → Option Int
  | [] => some 0
  | mark :: cs =>
    if mark = 'e' ∨ mark = 'E' then
      match cs with
      | '-' :: cs => (natural? cs).map fun n => -n
      | '+' :: cs => (natural? cs).map Int.ofNat
      | cs => (natural? cs).map Int.ofNat
    else none

/-- A number without its sign: digits that do not start with a needless zero, and then perhaps a
fraction and an exponent. -/
def unsigned? (sign : Int) (cs : List Char) : Option Datum :=
  let whole := cs.takeWhile Char.isDigit
  let more := cs.dropWhile Char.isDigit
  if whole = [] ∨ whole.head? = some '0' ∧ whole ≠ ['0'] then none
  else if more = [] then some (.integer (sign * Text.ofDigits whole))
  else do
    let (fraction, more) ← fraction? more
    let exponent ← exponent? more
    return .decimal (sign * Text.ofDigits (whole ++ fraction)) (exponent - fraction.length)

/-- The value of a number. -/
def number? : List Char → Option Datum
  | '-' :: cs => unsigned? (-1) cs
  | cs => unsigned? 1 cs

/-- The value of an atom. -/
def atom? (cs : List Char) : Option Datum :=
  if cs = "null".toList then some .null
  else if cs = "true".toList then some (.boolean true)
  else if cs = "false".toList then some (.boolean false)
  else number? cs

/-! ## Lexemes -/

/-- What a text is made of. -/
inductive Lexeme where
  | mark (c : Char)
  | string (s : String)
  | atom (d : Datum)

/-- Whether a character can stand between lexemes. -/
def isBlank (c : Char) : Bool := [' ', '\t', '\n', '\r'].contains c

/-- Whether a character is a lexeme of its own. -/
def isMark (c : Char) : Bool := ['[', ']', '\x7b', '\x7d', ':', ','].contains c

/-- Whether a character goes on with an atom. -/
def isBare (c : Char) : Bool := !(isBlank c || isMark c || c == '"')

/-- The letters behind a backslash and the units that they stand for. -/
def escapes : List (Char × Nat) :=
  [('"', 0x22), ('\\', 0x5c), ('/', 0x2f), ('b', 0x8), ('f', 0xc), ('n', 0xa), ('r', 0xd),
    ('t', 0x9)]

/-- Where the reader is: between lexemes, in an atom, in a string, or in it behind a backslash or
among the digits of a number of four. -/
inductive Spot where
  | between
  | bare (run : List Char)
  | inside (units : List Nat)
  | escape (units : List Nat)
  | code (units : List Nat) (digits : List Char)

namespace Spot

/-- A character that no lexeme goes on with. -/
def start (c : Char) : List Lexeme × Spot :=
  if isBlank c then ([], between)
  else if isMark c then ([.mark c], between)
  else if c = '"' then ([], inside [])
  else ([], bare [c])

/-- The lexemes that are complete with a character, and where the reader is behind it. -/
def advance : Spot → Char → Option (List Lexeme × Spot)
  | between, c => some (start c)
  | bare run, c =>
    if isBare c then some ([], bare (run ++ [c]))
    else (atom? run).map fun d => (.atom d :: (start c).1, (start c).2)
  | inside units, c =>
    if c = '"' then
      (Text.ofUtf16? units).map fun s => ([.string (String.ofList s)], between)
    else if c = '\\' then some ([], escape units)
    else if 0x20 ≤ c.toNat then some ([], inside (units ++ Text.units c))
    else none
  | escape units, c =>
    if c = 'u' then some ([], code units [])
    else (escapes.lookup c).map fun u => ([], inside (units ++ [u]))
  | code units digits, c =>
    if digits.length < 3 then some ([], code units (digits ++ [c]))
    else (Text.ofHex? (digits ++ [c])).map fun u => ([], inside (units ++ [u]))

/-- The lexemes that are complete with the end of the text. -/
def finish : Spot → Option (List Lexeme)
  | between => some []
  | bare run => (atom? run).map fun d => [.atom d]
  | inside _ | escape _ | code _ _ => none

end Spot

/-! ## Values -/

/-- What is open around a value: an array with the items in front of it, or an object with the
members in front of it and the name that it is for. -/
inductive Frame where
  | array (items : List Datum)
  | object (members : List (String × Datum)) (name : String)

/-- What the reader can go on with. -/
inductive Turn where
  /-- A value. -/
  | value (frames : List Frame)
  /-- A value, or the end of an array without items. -/
  | firstItem (frames : List Frame)
  /-- A name, or the end of an object without members. -/
  | firstName (frames : List Frame)
  /-- A name. -/
  | nextName (frames : List Frame) (members : List (String × Datum))
  /-- The colon behind a name. -/
  | colon (frames : List Frame) (members : List (String × Datum)) (name : String)
  /-- A comma, or the end of an array. -/
  | afterItem (frames : List Frame) (items : List Datum)
  /-- A comma, or the end of an object. -/
  | afterMember (frames : List Frame) (members : List (String × Datum))
  /-- Nothing more. -/
  | done (d : Datum)

namespace Turn

/-- Behind a value. -/
def complete : List Frame → Datum → Turn
  | [], d => done d
  | .array items :: frames, d => afterItem frames (items ++ [d])
  | .object members name :: frames, d => afterMember frames (members ++ [(name, d)])

/-- Behind the first lexeme of a value. -/
def enter (frames : List Frame) : Lexeme → Option Turn
  | .mark '[' => some (firstItem frames)
  | .mark '\x7b' => some (firstName frames)
  | .mark _ => none
  | .string s => some (complete frames (.string s))
  | .atom d => some (complete frames d)

/-- Behind a lexeme. -/
def step : Turn → Lexeme → Option Turn
  | value frames, l => enter frames l
  | firstItem frames, .mark ']' => some (complete frames (.array []))
  | firstItem frames, l => enter (.array [] :: frames) l
  | firstName frames, .mark '\x7d' => some (complete frames (.object []))
  | firstName frames, .string s => some (colon frames [] s)
  | nextName frames members, .string s => some (colon frames members s)
  | colon frames members s, .mark ':' => some (value (.object members s :: frames))
  | afterItem frames items, .mark ',' => some (value (.array items :: frames))
  | afterItem frames items, .mark ']' => some (complete frames (.array items))
  | afterMember frames members, .mark ',' => some (nextName frames members)
  | afterMember frames members, .mark '\x7d' => some (complete frames (.object members))
  | _, _ => none

/-- The value that has been read. -/
def datum? : Turn → Option Datum
  | done d => some d
  | _ => none

end Turn

/-- The value of what is left of a text. -/
def readFrom (spot : Spot) (turn : Turn) : List Char → Option Datum
  | [] => do
    let lexemes ← spot.finish
    let turn ← lexemes.foldlM Turn.step turn
    turn.datum?
  | c :: cs => do
    let (lexemes, spot) ← spot.advance c
    let turn ← lexemes.foldlM Turn.step turn
    readFrom spot turn cs

/-- The value of a JSON document. -/
def read? (text : List Char) : Option Datum := readFrom .between (.value []) text

/-! ## Stretches of text -/

theorem readFrom_cons (spot : Spot) (turn : Turn) (c : Char) (cs : List Char) :
    readFrom spot turn (c :: cs) =
      (spot.advance c).bind fun e => (e.1.foldlM Turn.step turn).bind fun turn =>
        readFrom e.2 turn cs :=
  rfl

/-- A text that ends an atom in front of it. -/
def Stops (text : List Char) : Prop := ∀ c ∈ text.head?, isBare c = false

theorem stops_nil : Stops [] := by
  intro c mem
  exact absurd mem (by simp)

theorem stops_cons {c : Char} (h : isBare c = false) (cs : List Char) : Stops (c :: cs) := by
  intro d mem
  rw [List.head?_cons, Option.mem_some_iff] at mem
  rwa [← mem]

theorem Stops.append {text rest : List Char} (h : Stops text) (h' : Stops rest) :
    Stops (text ++ rest) := by
  cases text with
  | nil => exact h'
  | cons c cs => exact stops_cons (h c rfl) _

/-- What a text does to a reader between lexemes, whatever comes behind it. -/
def Reads (text : List Char) (turn turn' : Turn) : Prop :=
  ∀ rest, Stops rest → readFrom .between turn (text ++ rest) = readFrom .between turn' rest

section

variable {text more : List Char} {turn turn' turn'' : Turn} {c : Char}

theorem Reads.nil : Reads [] turn turn := fun _ _ => rfl

theorem Reads.append (first : Reads text turn turn') (stops : Stops more)
    (second : Reads more turn' turn'') : Reads (text ++ more) turn turn'' := by
  intro rest stops'
  rw [List.append_assoc, first _ (stops.append stops'), second rest stops']

theorem Reads.blank (blank : isBlank c = true) (h : Reads text turn turn') :
    Reads (c :: text) turn turn' := by
  intro rest stops
  have skipped : Spot.start c = ([], .between) := if_pos blank
  rw [List.cons_append, readFrom_cons, Spot.advance, skipped]
  exact h rest stops

theorem Reads.mark (mark : isMark c = true) (step : turn.step (.mark c) = some turn')
    (h : Reads text turn' turn'') : Reads (c :: text) turn turn'' := by
  intro rest stops
  have apart : ∀ c ∈ ['[', ']', '\x7b', '\x7d', ':', ','], isBlank c = false := by
    simp [isBlank]
  have other : isBlank c = false := apart c (List.contains_iff_mem.1 mark)
  have alone : Spot.start c = ([.mark c], .between) := by
    rw [Spot.start, if_neg (by simp [other]), if_pos mark]
  rw [List.cons_append, readFrom_cons, Spot.advance, alone]
  simp only [Option.bind_some, List.foldlM_cons, List.foldlM_nil, step]
  exact h rest stops

/-- The characters of an atom are collected. -/
theorem readFrom_bare_append (run : List Char) (bare : ∀ c ∈ text, isBare c = true)
    (rest : List Char) :
    readFrom (.bare run) turn (text ++ rest) = readFrom (.bare (run ++ text)) turn rest := by
  induction text generalizing run with
  | nil => rw [List.nil_append, List.append_nil]
  | cons c cs ih =>
    have step : (Spot.bare run).advance c = some ([], .bare (run ++ [c])) :=
      if_pos (bare c List.mem_cons_self)
    rw [List.cons_append, readFrom_cons, step]
    have ih := ih (run ++ [c]) fun d mem => bare d (List.mem_cons_of_mem _ mem)
    rw [List.append_assoc] at ih
    exact ih

/-- An atom ends where the text ends or goes on with something else. -/
theorem readFrom_bare_of_stops {run rest : List Char} {d : Datum} (value : atom? run = some d)
    (stops : Stops rest) :
    readFrom (.bare run) turn rest =
      (turn.step (.atom d)).bind fun turn => readFrom .between turn rest := by
  cases rest with
  | nil =>
    simp [readFrom, Spot.finish, value]
  | cons c cs =>
    have other : ¬ isBare c = true := by simp [stops c rfl]
    have step : (Spot.bare run).advance c =
        some (.atom d :: (Spot.start c).1, (Spot.start c).2) := by
      rw [Spot.advance, if_neg other, value, Option.map_some]
    rw [readFrom_cons, step, Option.bind_some, List.foldlM_cons]
    cases turn.step (.atom d) <;> rfl

theorem reads_atom {d : Datum} (nonempty : text ≠ []) (bare : ∀ c ∈ text, isBare c = true)
    (value : atom? text = some d) (step : turn.step (.atom d) = some turn') :
    Reads text turn turn' := by
  intro rest stops
  obtain ⟨c, cs, rfl⟩ := List.exists_cons_of_ne_nil nonempty
  have first : isBare c = true := bare c List.mem_cons_self
  have opened : Spot.start c = ([], .bare [c]) := by
    simp only [isBare, Bool.not_eq_true', Bool.or_eq_false_iff, beq_eq_false_iff_ne] at first
    obtain ⟨⟨blank, mark⟩, quote⟩ := first
    simp [Spot.start, blank, mark, quote]
  rw [List.cons_append, readFrom_cons, Spot.advance, opened]
  change readFrom (.bare [c]) turn (cs ++ rest) = _
  rw [readFrom_bare_append [c] (fun d mem => bare d (List.mem_cons_of_mem _ mem)),
    List.singleton_append, readFrom_bare_of_stops value stops, step, Option.bind_some]

/-- A string ends with its second quote. -/
theorem readFrom_inside_quote {units : List Nat} {s : String}
    (whole : Text.ofUtf16? units = some s.toList) (step : turn.step (.string s) = some turn')
    (rest : List Char) :
    readFrom (.inside units) turn ('"' :: rest) = readFrom .between turn' rest := by
  have last : (Spot.inside units).advance '"' = some ([.string s], .between) := by
    rw [Spot.advance, if_pos rfl, whole, Option.map_some, String.ofList_toList]
  rw [readFrom_cons, last, Option.bind_some, List.foldlM_cons, step]
  rfl

end

end Datum

end MonkeyScan
