/-!
The options of the command line and their spellings. An option has one or two spellings in full,
and a label that names it in messages by all of them. The order of the spellings is the order in
which messages list them.
-/

namespace MonkeyScan.CommandLine

/-- The options. -/
inductive Flag where
  | help
  | output
  | format
  | positions (shown : Bool)
  | strict
  | config
  | watch
  | debug
deriving DecidableEq

namespace Flag

/-- All spellings in full. -/
def spellings : List (String × Flag) :=
  [("-h", help), ("--help", help), ("-o", output), ("--output", output), ("-f", format),
    ("--format", format), ("--positions", positions true), ("--no-positions", positions false),
    ("--strict", strict), ("--config", config), ("--watch", watch), ("--debug", debug)]

/-- The name of an option in messages. -/
def label : Flag → String
  | help => "-h/--help"
  | output => "-o/--output"
  | format => "-f/--format"
  | positions _ => "--positions/--no-positions"
  | strict => "--strict"
  | config => "--config"
  | watch => "--watch"
  | debug => "--debug"

/-- Whether an option is followed by a value. -/
def takesValue : Flag → Bool
  | output | format | config => true
  | _ => false

/-- The option of a spelling in full. -/
def ofSpelling? (name : List Char) : Option Flag := spellings.lookup (String.ofList name)

end Flag

end MonkeyScan.CommandLine
