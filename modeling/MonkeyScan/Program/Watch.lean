import MonkeyScan.Program.Run
import MonkeyScan.Program.World

/-!
Watching an input: it is looked at again and again, and scanned whenever its time of change is told
otherwise than the one remembered. At the start the zero of the clock is remembered. Between two
looks there is a pause, in which the world may change in any way; the run ends when it is
interrupted in a pause. The whole run in a world is described by the worlds at its pauses and by its
end.
-/

namespace MonkeyScan.Program

open MonkeyScan.Files

section

variable {m : Type → Type} [Monad m] [Host m]

/-- The first words of a watch. -/
def announce (p : Path) : m Unit := Host.warn ("Watching " ++ p.text ++ " for changes...\n")

/-- One look at the input, with the time of change that is remembered; answers the one to remember
next. -/
def look (s : Settings) (p : Path) (last : Seconds) : m (Except Failure Seconds) := do
  match ← lastChange p with
  | .error f => return .error f
  | .ok none => return .ok last
  | .ok (some time) =>
    if time = last then return .ok last
    else
      match ← examine s with
      | .error f =>
        if f.isReported then do
          complain f.message
          return .ok time
        else return .error f
      | .ok r =>
        match ← publish s r with
        | .error f => return .error f
        | .ok () => do
          Host.warn ("Lexed " ++ p.text ++ "\n")
          return .ok time

end

/-- The length of a pause in milliseconds. -/
def pauseMilliseconds : Nat := 500

/-- The time of change that a watch remembers at its start. -/
def startOfTime : Seconds := Instant.seconds 0

/-- A run as seen from outside: the world at each pause, how it ended, and the world at the end. -/
structure Trace where
  pauses : List World
  ending : Ending
  final : World
deriving DecidableEq

/-- Looks in turn, with a change of the world in each pause but the last, in which the run is
interrupted. -/
def watchFrom (s : Settings) (p : Path) (last : Seconds) (changes : List Change) (w : World) :
    Trace :=
  match (look s p last : StateM World _).run w with
  | (.error f, w) => ⟨[], .failed f, w⟩
  | (.ok last, w) =>
    match changes with
    | [] => ⟨[w], .finished 0, w⟩
    | change :: changes =>
      let t := watchFrom s p last changes (change w)
      { t with pauses := w :: t.pauses }

/-- A watch from its start. -/
def watch (s : Settings) (p : Path) (changes : List Change) (w : World) : Trace :=
  watchFrom s p startOfTime changes ((announce p : StateM World Unit).run w).2

/-- The program in a world, with the changes that happen in the pauses of a watch. -/
def run (argv : List String) (changes : List Change) (w : World) : Trace :=
  match (prepare argv : StateM World _).run w with
  | (.error ending, w) => ⟨[], ending, w⟩
  | (.ok s, w) =>
    match s.input, s.watch with
    | some p, true => watch s p changes w
    | _, _ =>
      let (ending, w) := (runOnce s : StateM World _).run w
      ⟨[], ending, w⟩

end MonkeyScan.Program
