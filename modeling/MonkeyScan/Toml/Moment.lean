import MonkeyScan.Text.Decimal

/-!
Dates and times of a TOML document: dates of the Gregorian calendar from the year 1, times to the
microsecond, and both together with or without an offset from universal time. A date that the
calendar does not have is told apart by `isValid`. No setting of the program is a moment, and it
writes none: `Moment.text` only shows what a configuration file has been read as.
-/

namespace MonkeyScan.Toml

/-- A calendar date. -/
structure Date where
  year : Nat
  month : Nat
  day : Nat
deriving DecidableEq

/-- A time of day. -/
structure Time where
  hour : Nat
  minute : Nat
  second : Nat
  microsecond : Nat
deriving DecidableEq

/-- A date, a time, or both; with both an offset in minutes may be known. -/
inductive Moment where
  | date (d : Date)
  | time (t : Time)
  | dateTime (d : Date) (t : Time) (offset : Option Int)
deriving DecidableEq

namespace Date

/-- Leap years: those divisible by four, of the full centuries only those divisible by 400. -/
def isLeap (year : Nat) : Bool := year % 4 = 0 && (year % 100 ≠ 0 || year % 400 = 0)

/-- The number of days of a month. -/
def daysInMonth (year month : Nat) : Nat :=
  if month = 2 then if isLeap year then 29 else 28
  else if month ∈ [4, 6, 9, 11] then 30
  else 31

/-- Whether the calendar has the date. -/
def isValid (d : Date) : Bool :=
  1 ≤ d.year && 1 ≤ d.month && d.month ≤ 12 && 1 ≤ d.day && d.day ≤ daysInMonth d.year d.month

/-- The date as year, month and day. -/
def text (d : Date) : List Char :=
  Text.padded 4 d.year ++ '-' :: Text.padded 2 d.month ++ '-' :: Text.padded 2 d.day

end Date

namespace Time

/-- The time with its seconds, and six places behind their point unless all are zero. -/
def text (t : Time) : List Char :=
  Text.padded 2 t.hour ++ ':' :: Text.padded 2 t.minute ++ ':' :: Text.padded 2 t.second ++
    if t.microsecond = 0 then [] else '.' :: Text.padded 6 t.microsecond

end Time

namespace Moment

/-- Whether the date, if there is one, is in the calendar. -/
def isValid : Moment → Bool
  | date d => d.isValid
  | time _ => true
  | dateTime d _ _ => d.isValid

/-- An offset as hours and minutes behind a sign. -/
def offsetText (offset : Int) : List Char :=
  (if offset < 0 then '-' else '+') :: Text.padded 2 (offset.natAbs / 60) ++
    ':' :: Text.padded 2 (offset.natAbs % 60)

/-- The text of a moment, a `T` between date and time. -/
def text : Moment → String
  | date d => String.ofList d.text
  | time t => String.ofList t.text
  | dateTime d t offset =>
    String.ofList (d.text ++ 'T' :: t.text ++ (offset.map offsetText).getD [])

end Moment

end MonkeyScan.Toml
