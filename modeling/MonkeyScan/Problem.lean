import MonkeyScan.Cursor
import MonkeyScan.Text.Decimal
import MonkeyScan.Text.Lines
import MonkeyScan.Text.Quoted

/-!
Problems: what is reported about a text. A problem is a message and a place in a text; the problems
of a row of tokens are one for each illegal character, in their order. A problem is shown with the
line that it stands on and a caret under its column, unless its column is so far out that no text
holds the room in front of the caret (`shown`), or its place has too many digits to be written
(`written`); the places of a text never do.
-/

namespace MonkeyScan

/-- A message about a place in a text. -/
structure Problem where
  message : String
  position : Position
  source : String
deriving DecidableEq

namespace Problem

/-- The problem of an illegal character. -/
def ofIllegal (source : String) (t : Token) : Problem :=
  ⟨"illegal character " ++ Text.quote t.literal, t.span.start, source⟩

/-- One problem for each illegal character among the tokens of a text. -/
def ofTokens (tokens : List Token) (source : String) : List Problem :=
  (tokens.filter (·.kind = .illegal)).map (ofIllegal source)

/-- The line of the text that the problem stands on, without the carriage returns at its end;
empty for a line outside the text. -/
def sourceLine (p : Problem) : List Char :=
  if 1 ≤ p.position.line then
    Text.dropTrailing (· = '\r')
      ((Text.lines p.source.toList)[(p.position.line - 1).toNat]?.getD [])
  else []

/-- The file that a problem is shown for when none is named. -/
def defaultFile : String := "input.monkey"

/-- The problem as five lines: the message, the place, and the source line between two lines of
gutter, the last with a caret under the column. The gutter is as wide as the line number and a
space; a column before the second takes no room in front of the caret. -/
def snippet (p : Problem) (file : String) : String :=
  let line := String.ofList (Text.integer p.position.line)
  let column := String.ofList (Text.integer p.position.column)
  let gutter := String.ofList (List.replicate (line.length + 1) ' ')
  let room := String.ofList (List.replicate (p.position.column - 1).toNat ' ')
  "error: " ++ p.message ++ "\n" ++
    gutter ++ "--> " ++ file ++ ":" ++ line ++ ":" ++ column ++ "\n" ++
    gutter ++ "|\n" ++
    line ++ " | " ++ String.ofList p.sourceLine ++ "\n" ++
    gutter ++ "| " ++ room ++ "^"

/-- Why there is no room in front of a caret. -/
inductive RoomError where
  /-- The width of the room is no number of sixty-four bits with a sign. -/
  | uncountable
  /-- The room takes more than the memory. -/
  | unstorable
deriving DecidableEq

/-- The words for it. -/
def RoomError.message : RoomError → String
  | uncountable => "cannot fit 'int' into an index-sized integer"
  | unstorable => ""

/-- The widest room that is stored, of the order of the memory of a system: room for four thousand
million characters. A system with more memory stores more. -/
def widestRoom : Int := 4294967296

/-- Whether there is room for the columns in front of the caret. -/
def roomError? (p : Problem) : Option RoomError :=
  let room := p.position.column - 1
  if room < -9223372036854775808 ∨ 9223372036854775808 ≤ room then some .uncountable
  else if widestRoom < room then some .unstorable
  else none

/-- The problem as its snippet, if there is room for it. -/
def shown (p : Problem) (file : String) : Except RoomError String :=
  match p.roomError? with
  | some e => .error e
  | none => .ok (p.snippet file)

/-- Why a problem is not written. -/
inductive WriteError where
  | room (e : RoomError)
  | numeral (e : Text.NumeralError)
deriving DecidableEq

/-- The problem as its snippet, if there is room for it and its place can be written. -/
def written (p : Problem) (file : String) : Except WriteError String :=
  match p.shown file with
  | .error e => .error (.room e)
  | .ok text => (Text.written [p.position.line, p.position.column] text).mapError .numeral

/-- The blocks of several problems, one behind the other. -/
def report (ps : List Problem) (file : String) : String :=
  String.join (ps.map fun p => p.snippet file ++ "\n")

theorem shown_eq {p : Problem} (h : 0 ≤ p.position.column) (h' : p.position.column ≤ widestRoom)
    (file : String) : p.shown file = .ok (p.snippet file) := by
  have bound : widestRoom = 4294967296 := rfl
  have none : p.roomError? = none := by
    unfold roomError?
    rw [if_neg (by omega), if_neg (by omega)]
  simp [shown, none]

end Problem

end MonkeyScan
