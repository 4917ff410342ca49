import MonkeyScan.Files.Tree
import MonkeyScan.Text.Utf8
import MonkeyScan.Toml.Limit

/-!
What a program may ask of the system that it runs on: to read and write files, to read the standard
input, to write to the two standard streams. The program is written over any monad that answers
these questions, so that the same text runs on the real system and on the model of it. A path with
a null character is never handed to the system.
-/

namespace MonkeyScan.Program

/-- Why something could not be had from, or put into, a file. -/
inductive Failure where
  | file (e : Files.FileError)
  | text (f : Text.Utf8.Fault)
  /-- The path holds a null character. -/
  | nullInPath
  | toml (limit : Toml.Limit)
deriving DecidableEq

namespace Failure

/-- The words for a failure. -/
def message : Failure → String
  | file e => e.message
  | text f => f.message
  | nullInPath => "embedded null byte"
  | toml limit => limit.message

/-- Whether the program reports a failure to read its input. What it does not report ends it. -/
def isReported : Failure → Bool
  | file _ | text _ => true
  | nullInPath | toml _ => false

end Failure

/-- What can be asked of a system. -/
class Host (m : Type → Type) where
  /-- Whether a path leads to a file. -/
  isFile : Files.Path → m (Except Files.FileError Bool)
  /-- The bytes of a file. -/
  readFile : Files.Path → m (Except Files.FileError (List UInt8))
  /-- Writes a file, new or in the place of one. -/
  writeFile : Files.Path → List UInt8 → m (Except Files.FileError Unit)
  /-- When a file or folder was last changed; nothing if there is none. -/
  modified? : Files.Path → m (Option Files.Seconds)
  /-- The bytes of the standard input. -/
  readInput : m (List UInt8)
  /-- Writes to the standard output. -/
  say : String → m Unit
  /-- Writes to the standard error stream. -/
  warn : String → m Unit

section

variable {m : Type → Type} [Monad m] [Host m]

open MonkeyScan.Files

/-- Whether a path leads to a file; a path with a null character leads to none. -/
def findsFile (p : Path) : m (Except Failure Bool) := do
  if p.hasNull then return .ok false
  return (← Host.isFile p).mapError .file

/-- The bytes of a file. -/
def readBytes (p : Path) : m (Except Failure (List UInt8)) := do
  if p.hasNull then return .error .nullInPath
  return (← Host.readFile p).mapError .file

/-- Writes a file, new or in the place of one. -/
def writeBytes (p : Path) (content : List UInt8) : m (Except Failure Unit) := do
  if p.hasNull then return .error .nullInPath
  return (← Host.writeFile p content).mapError .file

/-- When a file or folder was last changed; nothing if there is none. -/
def lastChange (p : Path) : m (Except Failure (Option Seconds)) := do
  if p.hasNull then return .error .nullInPath
  return .ok (← Host.modified? p)

end

end MonkeyScan.Program
