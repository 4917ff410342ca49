import MonkeyScan.Program.Watch

/-!
The program on the real system. A change of a file is told by its content: each content that differs
from the one seen before is given the next point in time.
-/

namespace MonkeyScan.Console

open MonkeyScan.Files MonkeyScan.Program

/-- What was last seen of a file, and the point in time given to it; no content for a folder. -/
structure Sight where
  path : Path
  content : Option (List UInt8)
  time : Instant

/-- The real system, with what was seen of the files that are asked about. -/
abbrev Terminal := StateT (List Sight) IO

/-- The number of an error, which the system may give with either sign. -/
def errorNumber (number : UInt32) : Nat :=
  if number < 0x80000000 then number.toNat else (0 - number).toNat

/-- The cause that an error number and its words stand for. -/
def causeOfNumber (number : UInt32) (reason : String) : Cause :=
  match errorNumber number with
  | 2 => .missing
  | 20 => .notFolder
  | 17 => .alreadyThere
  | 21 => .isFolder
  | 36 => .tooLong
  | n => .other n reason

/-- The cause of a refusal. -/
def causeOf : IO.Error → Cause
  | .noFileOrDirectory _ _ _ => .missing
  | .noSuchThing _ number reason | .inappropriateType _ number reason
  | .permissionDenied _ number reason | .resourceExhausted _ number reason
  | .invalidArgument _ number reason => causeOfNumber number reason
  | .otherError number reason => causeOfNumber number reason
  | e => .other 5 (toString e)

/-- The answer to an action on a file. -/
def answered {α β : Type} (p : Path) (f : α → β) (action : IO α) : IO (Except FileError β) := do
  match ← action.toBaseIO with
  | .ok a => return .ok (f a)
  | .error e => return .error ⟨causeOf e, p⟩

/-- The bytes of a file. -/
def readFile (p : Path) : IO (Except FileError (List UInt8)) :=
  answered p ByteArray.toList (IO.FS.readBinFile p.text)

/-- The bytes up to the end of a stream, behind those read before. -/
partial def readAll (stream : IO.FS.Stream) (before : ByteArray) : IO ByteArray := do
  let chunk ← stream.read 65536
  if chunk.isEmpty then return before
  readAll stream (before ++ chunk)

/-- The point in time of a content of a file: that of the last sight if the content is the same. -/
def timeOf (p : Path) (content : Option (List UInt8)) : Terminal Instant := do
  let last := (← get).find? (·.path = p)
  match last with
  | some s =>
    if s.content = content then return s.time
    let others := (← get).filter (·.path ≠ p)
    set (⟨p, content, s.time + 1⟩ :: others)
    return s.time + 1
  | none =>
    modify (⟨p, content, 1⟩ :: ·)
    return 1

instance : Host Terminal where
  isFile p := do
    match ← readFile p with
    | .ok _ => return .ok true
    | .error e =>
      match e.cause with
      | .missing | .notFolder | .isFolder => return .ok false
      | .tooLong => return .error e
      | .alreadyThere | .other _ _ => return .ok true
  readFile p := readFile p
  writeFile p content := answered p id (IO.FS.writeBinFile p.text (ByteArray.mk content.toArray))
  modified? p := do
    match ← readFile p with
    | .ok content => return some (← timeOf p (some content)).seconds
    | .error e => if e.cause = .isFolder then return some (← timeOf p none).seconds else return none
  readInput := do return (← readAll (← IO.getStdin) .empty).toList
  say s := do
    let out ← IO.getStdout
    out.putStr s
    out.flush
  warn s := do
    let err ← IO.getStderr
    err.putStr s
    err.flush

/-- Looks without end; only a failure to write ends it. -/
partial def watchOn (s : Settings) (p : Path) (last : Seconds) : Terminal Ending := do
  match ← look s p last with
  | .error f => return .failed f
  | .ok last =>
    IO.sleep pauseMilliseconds.toUInt32
    watchOn s p last

/-- The program. -/
def program (argv : List String) : Terminal Ending := do
  match ← prepare argv with
  | .error ending => return ending
  | .ok s =>
    match s.input, s.watch with
    | some p, true =>
      announce p
      watchOn s p startOfTime
    | _, _ => runOnce s

end MonkeyScan.Console

/-- Runs the program with the arguments of the command line. -/
def main (argv : List String) : IO UInt32 := do
  let (ending, _) ← (MonkeyScan.Console.program argv).run []
  match ending with
  | .finished status | .dismissed status => return status.toUInt32
  | .failed f =>
    IO.eprintln f.message
    return 1
