import MonkeyScan.Text.Quoted

/-!
The value of an option. Of a separator nothing is kept, wherever it stands; an option that has one
attached to it in the place of a value is given, and yet has no text. That is so up to release
3.11.8 of the standard option parser, and since release 3.11.9 the separator is then the text.
-/

namespace MonkeyScan.CommandLine

/-- The value of an option that is given. -/
inductive OptionValue where
  | text (s : String)
  /-- Only a separator stood in its place. -/
  | blank
deriving DecidableEq

namespace OptionValue

/-- The value that an argument, or a part of one, stands for. -/
def ofText (s : String) : OptionValue := if s = "--" then blank else text s

/-- The text of a value, if it has one that is not empty. -/
def nonempty? : OptionValue → Option String
  | text s => if s = "" then none else some s
  | blank => none

/-- A value as messages show it. -/
def shown : OptionValue → String
  | text s => Text.quote s
  | blank => "[]"

theorem ofText_of_ne {s : String} (h : s ≠ "--") : ofText s = text s := if_neg h

end OptionValue

end MonkeyScan.CommandLine
