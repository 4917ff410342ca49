import MonkeyScan.CommandLine.UsageError

/-!
The texts that explain the command line: the usage, which stands before every message about a
mistake, and the help.
-/

namespace MonkeyScan.CommandLine

/-- The name that the program goes by. -/
def programName : String := "monkeylex"

/-- The shape of a command line. -/
def usage : String :=
  "usage: monkeylex [-h] [-o OUTPUT] [-f FORMAT] [--positions | --no-positions]\n" ++
  "                 [--strict] [--config FILE] [--watch] [--debug]\n" ++
  "                 input\n"

/-- The usage and a line for each argument. -/
def help : String :=
  usage ++
  "\n" ++
  "Tokenize Monkey source code\n" ++
  "\n" ++
  "positional arguments:\n" ++
  "  input                 Input .monkey file, or - for stdin\n" ++
  "\n" ++
  "options:\n" ++
  "  -h, --help            show this help message and exit\n" ++
  "  -o OUTPUT, --output OUTPUT\n" ++
  "                        Output file (default: stdout)\n" ++
  "  -f FORMAT, --format FORMAT\n" ++
  "                        Output format: text or json (default: text)\n" ++
  "  --positions, --no-positions\n" ++
  "                        Include source positions in the output (default: on)\n" ++
  "  --strict              Exit with status 1 if the input contains illegal\n" ++
  "                        characters\n" ++
  "  --config FILE         Config file (default: auto-discover monkeylex.toml)\n" ++
  "  --watch               Watch for changes and re-lex\n" ++
  "  --debug               Dump token table to stderr\n"

/-- What is printed about a mistake. -/
def UsageError.report (e : UsageError) : String :=
  usage ++ programName ++ ": error: " ++ e.message ++ "\n"

end MonkeyScan.CommandLine
