import MonkeyScan.CommandLine.Arguments
import MonkeyScan.Program.Host
import MonkeyScan.Render.Listing
import MonkeyScan.Toml.Document

/-!
The settings of a run: what the command line says, else what the configuration file says, else a
default. The configuration is a TOML document; of it only three values count, each only if it is of
its kind. A file that is not there is as good as an empty one.
-/

namespace MonkeyScan.Program

open MonkeyScan.Files

/-- The settings of a run. Without an input file the standard input is read, without an output file
the standard output is written. -/
structure Settings where
  input : Option Path
  output : Option Path
  format : Format
  positions : Bool
  strict : Bool
  watch : Bool
  debug : Bool
deriving DecidableEq

/-- Why there are no settings. -/
inductive SettingsError where
  /-- The configuration file cannot be asked about, or is there and cannot be read. -/
  | unreadableConfig (f : Failure)
  /-- The configuration file is no TOML document. -/
  | malformedConfig
  /-- The standard input cannot be watched. -/
  | watchedInput
  /-- There is no format that a value names. -/
  | unknownFormat (value : CommandLine.OptionValue)
deriving DecidableEq

/-- The words for it. -/
def SettingsError.message : SettingsError → String
  | unreadableConfig f => f.message
  | malformedConfig => "invalid config file: <toml>"
  | watchedInput => "--watch needs an input file, not stdin"
  | unknownFormat value =>
    "invalid format " ++ value.shown ++ " (expected one of: " ++
      ", ".intercalate (Format.all.map (·.name)) ++ ")"

namespace Config

/-- The name of the configuration file that is looked for beside the input. -/
def fileName : String := "monkeylex.toml"

/-- The format, as a name that is still to be checked. -/
def format? (config : Toml.Table) : Option String :=
  (config.table? "output").bind (·.string? "format")

/-- Whether places are shown. -/
def positions? (config : Toml.Table) : Option Bool :=
  (config.table? "output").bind (·.boolean? "positions")

/-- Whether illegal characters make the run fail. -/
def strict? (config : Toml.Table) : Option Bool :=
  (config.table? "check").bind (·.boolean? "strict")

/-- The table of the bytes of a configuration file. -/
def ofBytes (bytes : List UInt8) : Except SettingsError Toml.Table :=
  match Text.Utf8.decode bytes with
  | .error f => .error (.unreadableConfig (.text f))
  | .ok text =>
    match Toml.parse text with
    | .error .malformed => .error .malformedConfig
    | .error (.beyond limit) => .error (.unreadableConfig (.toml limit))
    | .ok config => .ok config

/-- The table of a configuration file. -/
def load {m : Type → Type} [Monad m] [Host m] (p : Path) : m (Except SettingsError Toml.Table) := do
  match ← findsFile p with
  | .error f => return .error (.unreadableConfig f)
  | .ok false => return .ok []
  | .ok true =>
    match ← readBytes p with
    | .error f => return .error (.unreadableConfig f)
    | .ok bytes => return ofBytes bytes

end Config

namespace Settings

/-- The format that a value names. -/
def formatOf : CommandLine.OptionValue → Except SettingsError Format
  | .text name =>
    match Format.ofName? name with
    | some f => .ok f
    | none => .error (.unknownFormat (.text name))
  | .blank => .error (.unknownFormat .blank)

/-- The path that a value names, if it is given with a text. -/
def path? (value : Option CommandLine.OptionValue) : Option Path :=
  (value.bind (·.nonempty?)).map Path.ofString

/-- The input file; a hyphen stands for the standard input. -/
def inputOf (a : CommandLine.Arguments) : Option Path :=
  if a.input = "-" then none else some (Path.ofString a.input)

/-- The configuration file: the one named, else the one beside the input, else the one in the
working folder. -/
def configPath (a : CommandLine.Arguments) : Path :=
  (path? a.config).getD
    (((inputOf a).elim ⟨.none, []⟩ Path.parent).child Config.fileName)

/-- The settings from a command line and a configuration. -/
def merge (a : CommandLine.Arguments) (config : Toml.Table) : Except SettingsError Settings := do
  if a.watch ∧ inputOf a = none then .error .watchedInput
  else
    let format ← formatOf
      ((a.format <|> (Config.format? config).map CommandLine.OptionValue.text).getD
        (.text Format.text.name))
    .ok
      { input := inputOf a
        output := path? a.output
        format
        positions := (a.positions <|> Config.positions? config).getD true
        strict := a.strict || (Config.strict? config).getD false
        watch := a.watch
        debug := a.debug }

/-- The settings of a command line, with the configuration file that it leads to. -/
def resolve {m : Type → Type} [Monad m] [Host m] (a : CommandLine.Arguments) :
    m (Except SettingsError Settings) := do
  match ← Config.load (configPath a) with
  | .error e => return .error e
  | .ok config => return merge a config

end Settings

end MonkeyScan.Program
