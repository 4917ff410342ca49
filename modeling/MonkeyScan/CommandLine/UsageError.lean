import MonkeyScan.CommandLine.Flag
import MonkeyScan.Text.Quoted

/-!
What can be wrong with a command line, and the words for it.
-/

namespace MonkeyScan.CommandLine

/-- What is wrong with a command line. -/
inductive UsageError where
  /-- No input is named. -/
  | missingInput
  /-- Arguments that are no option and not the input. -/
  | unrecognized (arguments : List String)
  /-- An option without the value that belongs to it. -/
  | missingValue (flag : Flag)
  /-- A value attached to an option that takes none. -/
  | needlessValue (flag : Flag) (value : String)
  /-- A cut spelling that several options share. -/
  | ambiguous (argument : String) (matching : List String)
deriving DecidableEq

namespace UsageError

/-- The words for a mistake. -/
def message : UsageError → String
  | missingInput => "the following arguments are required: input"
  | unrecognized arguments => "unrecognized arguments: " ++ " ".intercalate arguments
  | missingValue flag => "argument " ++ flag.label ++ ": expected one argument"
  | needlessValue flag value =>
    "argument " ++ flag.label ++ ": ignored explicit argument " ++ Text.quote value
  | ambiguous argument matching =>
    "ambiguous option: " ++ argument ++ " could match " ++ ", ".intercalate matching

end UsageError

end MonkeyScan.CommandLine
