import MonkeyScan.Text.Decimal

/-!
The limits of reading a TOML document: the number of digits of a decimal integer, and the depth to
which values stand within each other. A document beyond a limit need not be malformed; it is refused
all the same, with words of its own. The limit of the depth is that of the call stack of a reader
that calls itself twice for each array and three times for each inline table: the stack holds a
thousand calls, of which some are taken when the reader is called.
-/

namespace MonkeyScan.Toml

/-- The most levels that values may be nested: what is left of the thousand calls of the stack when
the program reads its configuration. An array takes two levels, an inline table three. -/
def mostLevels : Nat := 987

/-- The levels that an array takes. -/
def arrayLevels : Nat := 2

/-- The levels that an inline table takes. -/
def tableLevels : Nat := 3

/-- A limit that a document goes beyond. -/
inductive Limit where
  /-- A decimal integer has too many digits, so many. -/
  | digits (count : Nat)
  /-- Values are nested too deep. -/
  | nesting
deriving DecidableEq

/-- The words for a limit. -/
def Limit.message : Limit → String
  | digits count =>
    Text.beyondLimit (": value has " ++ String.ofList (Text.digits count) ++ " digits")
  | nesting => "maximum recursion depth exceeded"

/-- Why a document is refused. -/
inductive Refusal where
  /-- It breaks the rules of the format. -/
  | malformed
  /-- It goes beyond a limit, and breaks no rule before that. -/
  | beyond (limit : Limit)
deriving DecidableEq

/-- What a reader answered, or that the document is malformed where it answered nothing. -/
def orMalformed {α : Type} : Option α → Except Refusal α
  | some a => .ok a
  | none => .error .malformed

end MonkeyScan.Toml
