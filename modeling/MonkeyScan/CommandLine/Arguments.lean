import MonkeyScan.CommandLine.Item
import MonkeyScan.CommandLine.OptionValue

/-!
Reading a command line. Options may come in any order, before and behind the input, and repeated:
the last one counts. The first plain argument that is not the value of an option is the input, and
of a separator next to it nothing is kept. Asking for help ends the reading at once. Arguments left
over are a mistake, but a missing input is the greater one.

Two rules changed with release 3.11.9 of the standard option parser. Those kept here are the ones up
to release 3.11.8, under which the program was observed: letters behind `-h` in the same argument
are read before help is given, also behind an equals sign (`Progress.cluster`,
`Progress.switchWith`), and a separator attached to an option is no text (`OptionValue.blank`).
Later releases give help on `-hx` at once, refuse every text behind `-h=`, and take an attached
separator for the text that it is.
-/

namespace MonkeyScan.CommandLine

/-- What the options say; nothing where an option is absent. -/
structure Choices where
  output : Option OptionValue
  format : Option OptionValue
  config : Option OptionValue
  positions : Option Bool
  strict : Bool
  watch : Bool
  debug : Bool
deriving DecidableEq

/-- A command line that has been read. -/
structure Arguments extends Choices where
  input : String
deriving DecidableEq

/-- Why reading stops before the end of the command line. -/
inductive Stop where
  | help
  | usage (e : UsageError)
deriving DecidableEq

namespace Choices

/-- No options. -/
def none : Choices := ⟨.none, .none, .none, .none, false, false, false⟩

/-- One more option, with its value if it takes one. -/
def choose (c : Choices) (value : OptionValue) : Flag → Choices
  | .help => c
  | .output => { c with output := some value }
  | .format => { c with format := some value }
  | .config => { c with config := some value }
  | .positions shown => { c with positions := some shown }
  | .strict => { c with strict := true }
  | .watch => { c with watch := true }
  | .debug => { c with debug := true }

end Choices

/-- How far a command line has been read: the options, the input, and what is left over. -/
structure Progress where
  choices : Choices
  input : Option String
  leftOver : List String
deriving DecidableEq

namespace Progress

/-- Nothing read yet. -/
def start : Progress := ⟨.none, none, []⟩

/-- One more option, with its value if it takes one. -/
def choose (p : Progress) (flag : Flag) (value : String) : Progress :=
  { p with choices := p.choices.choose (.ofText value) flag }

/-- Arguments with no use. -/
def leave (p : Progress) (ss : List String) : Progress := { p with leftOver := p.leftOver ++ ss }

/-- The letters behind a short option that takes no value, in the same argument. They are short
options in turn, the last of them with a value if it takes one; letters from one that is no option
on are a value that the option before them does not take. -/
def cluster (flag : Flag) (valueFollows : Bool) : List Char → Except UsageError Unit
  | [] => .ok ()
  | c :: cs =>
    match Flag.ofSpelling? ['-', c] with
    | none => .error (.needlessValue flag (String.ofList (c :: cs)))
    | some flag =>
      if flag.takesValue then
        if cs.isEmpty && !valueFollows then .error (.missingValue flag) else .ok ()
      else cluster flag valueFollows cs

/-- Whether the next item can be the value of an option. -/
def valueFollows : List Item → Bool
  | .plain _ :: _ => true
  | _ => false

/-- The effect of an option that takes no value. -/
def switch (p : Progress) (flag : Flag) : Except Stop Progress :=
  if flag = .help then .error .help else .ok (p.choose flag "")

/-- An option that takes no value: one may not be attached, save that letters behind a short option
are options themselves, also behind an equals sign. -/
def switchWith (p : Progress) (flag : Flag) (short follows : Bool) :
    Option (List Char) → Except Stop Progress
  | none => p.switch flag
  | some value =>
    if short && !value.isEmpty then
      match cluster flag follows value with
      | .error e => .error (.usage e)
      | .ok () => p.switch flag
    else .error (.usage (.needlessValue flag (String.ofList value)))

/-- Reads items to the end of the command line. -/
def readAll (p : Progress) : List Item → Except Stop Progress
  | [] => .ok p
  | .option flag short attached :: more =>
    if flag.takesValue then
      match attached with
      | some value => (p.choose flag (String.ofList value)).readAll more
      | none =>
        match more with
        | .plain v :: more => (p.choose flag v).readAll more
        | _ => .error (.usage (.missingValue flag))
    else do
      let p ← p.switchWith flag short (valueFollows more) attached
      p.readAll more
  | .unknown s :: more => (p.leave [s]).readAll more
  | .plain s :: .separator :: more =>
    match p.input with
    | none => readAll { p with input := some s } more
    | some _ => (p.leave [s, "--"]).readAll more
  | .plain s :: more =>
    match p.input with
    | none => readAll { p with input := some s } more
    | some _ => (p.leave [s]).readAll more
  | .separator :: .plain s :: more =>
    match p.input with
    | none => readAll { p with input := some s } more
    | some _ => (p.leave ["--", s]).readAll more
  | .separator :: more => (p.leave ["--"]).readAll more

/-- The command line at its end. -/
def finish (p : Progress) : Except UsageError Arguments :=
  match p.input, p.leftOver with
  | none, _ => .error .missingInput
  | some input, [] => .ok ⟨p.choices, input⟩
  | some _, leftOver => .error (.unrecognized leftOver)

end Progress

/-- Reads a command line. -/
def parse (argv : List String) : Except Stop Arguments := do
  let items ← (Item.ofArguments argv).mapError .usage
  let p ← Progress.start.readAll items
  p.finish.mapError .usage

end MonkeyScan.CommandLine
