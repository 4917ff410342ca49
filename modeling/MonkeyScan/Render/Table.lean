import MonkeyScan.Cursor
import MonkeyScan.Text.Quoted
import MonkeyScan.Text.Decimal

/-!
The token table: a line for each token with its index, its kind and its characters in columns of
fixed least width, and both its places in full. It is written line by line (`writeTable`), and
breaks off at a line with an integer beyond the limit of digits; there is none in the table of a
text.
-/

namespace MonkeyScan.Render

/-- A text filled up with spaces on the right to a width. -/
def filled (width : Nat) (s : String) : String :=
  s ++ String.ofList (List.replicate (width - s.length) ' ')

/-- Both places of a token: lines and columns, then the offsets in brackets. -/
def spanText (s : Span) : String :=
  let n (i : Int) : String := String.ofList (Text.integer i)
  n s.start.line ++ ":" ++ n s.start.column ++ "-" ++ n s.stop.line ++ ":" ++ n s.stop.column ++
    " (" ++ n s.start.offset ++ "," ++ n s.stop.offset ++ ")"

/-- The line of the token with an index. -/
def tableLine (index : Nat) (t : Token) : String :=
  "[" ++ String.ofList (Text.digits index) ++ "] " ++ filled 10 t.kind.name ++ " " ++
    filled 12 (Text.quote t.literal) ++ " " ++ spanText t.span ++ "\n"

/-- The lines of tokens that are counted from an index on. -/
def tableFrom (index : Nat) : List Token → String
  | [] => ""
  | t :: ts => tableLine index t ++ tableFrom (index + 1) ts

/-- The table of all tokens, counted from zero. -/
def table (ts : List Token) : String := tableFrom 0 ts

/-- What has been written of a table, and why there is no more of it. -/
structure WrittenTable where
  text : String
  failure? : Option Text.NumeralError
deriving DecidableEq

/-- Writes the lines of any tokens, counted from an index on. -/
def writeTableFrom (index : Nat) : List Token → WrittenTable
  | [] => ⟨"", none⟩
  | t :: ts =>
    match Text.written (index :: t.span.numbers) (tableLine index t) with
    | .error e => ⟨"", some e⟩
    | .ok line =>
      let more := writeTableFrom (index + 1) ts
      { more with text := line ++ more.text }

/-- Writes the table of any tokens. -/
def writeTable (ts : List Token) : WrittenTable := writeTableFrom 0 ts

end MonkeyScan.Render
