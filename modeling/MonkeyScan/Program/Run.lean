import MonkeyScan.CommandLine.Help
import MonkeyScan.Problem
import MonkeyScan.Program.Settings
import MonkeyScan.Render.Table

/-!
One run of the program: the command line and the configuration give the settings, the input is read
and scanned, its problems are reported and its tokens listed. Everything that can go wrong before
something is written ends the run with a message and status two; a failure to write ends it as a
failure. The numbers of the places of a text are never beyond the limit of digits, so that what is
said of a scan needs no check of it.
-/

namespace MonkeyScan.Program

/-- How a run ends. -/
inductive Ending where
  /-- It comes to its end, with a status. -/
  | finished (status : Nat)
  /-- The command line asks for help or cannot be read, with a status. -/
  | dismissed (status : Nat)
  /-- Something fails that the program has no answer to. -/
  | failed (f : Failure)
deriving DecidableEq

/-- A text that has been scanned: what its file is called, its tokens and its problems. -/
structure Scanned where
  file : String
  tokens : List Token
  problems : List Problem
deriving DecidableEq

namespace Scanned

/-- The scan of a text. -/
def ofText (file text : String) : Scanned :=
  ⟨file, scan text, Problem.ofTokens (scan text) text⟩

/-- The scan of the bytes of a text, with uniform line ends. -/
def ofBytes (file : String) (bytes : List UInt8) : Except Failure Scanned :=
  match Text.Utf8.decode bytes with
  | .error f => .error (.text f)
  | .ok text => .ok (ofText file (String.ofList (Text.uniformLines text.toList)))

end Scanned

section

variable {m : Type → Type} [Monad m] [Host m]

/-- A message about something that went wrong. -/
def complain (message : String) : m Unit := Host.warn ("error: " ++ message ++ "\n")

/-- The settings of a command line, or how the run ends without them. -/
def prepare (argv : List String) : m (Except Ending Settings) := do
  match CommandLine.parse argv with
  | .error .help => do
    Host.say CommandLine.help
    return .error (.dismissed 0)
  | .error (.usage e) => do
    Host.warn e.report
    return .error (.dismissed 2)
  | .ok a =>
    match ← Settings.resolve a with
    | .ok s => return .ok s
    | .error (.unreadableConfig f) => return .error (.failed f)
    | .error e => do
      complain e.message
      return .error (.finished 2)

/-- What the standard input is called in messages. -/
def standardInput : String := "<stdin>"

/-- Reads and scans the input. -/
def readScanned (s : Settings) : m (Except Failure Scanned) := do
  match s.input with
  | none => return Scanned.ofBytes standardInput (← Host.readInput)
  | some p =>
    match ← readBytes p with
    | .error f => return .error f
    | .ok bytes => return Scanned.ofBytes p.text bytes

/-- Reads and scans the input, and shows the token table if that is asked for. -/
def examine (s : Settings) : m (Except Failure Scanned) := do
  match ← readScanned s with
  | .error f => return .error f
  | .ok r => do
    if s.debug then Host.warn (Render.table r.tokens)
    return .ok r

/-- Reports the problems, then writes the listing. -/
def publish (s : Settings) (r : Scanned) : m (Except Failure Unit) := do
  Host.warn (Problem.report r.problems r.file)
  let listing := Render.listing s.format s.positions r.tokens
  match s.output with
  | none => do
    Host.say listing
    return .ok ()
  | some p => writeBytes p (Text.Utf8.encode listing)

/-- One pass over the input. Illegal characters count only under the strict setting. -/
def runOnce (s : Settings) : m Ending := do
  match ← examine s with
  | .error f =>
    if f.isReported then do
      complain f.message
      return .finished 2
    else return .failed f
  | .ok r =>
    match ← publish s r with
    | .error f => return .failed f
    | .ok () => return .finished (if s.strict && !r.problems.isEmpty then 1 else 0)

end

end MonkeyScan.Program
