import MonkeyScan.Files.Path
import MonkeyScan.Text.Decimal
import MonkeyScan.Text.Quoted

/-!
Why a file cannot be read or written.
-/

namespace MonkeyScan.Files

/-- The cause of a failure. -/
inductive Cause where
  /-- The path leads to nothing. -/
  | missing
  /-- The path leads through something that is not a folder. -/
  | notFolder
  /-- The path leads to a folder. -/
  | isFolder
  /-- The path is to be made and leads to something else. -/
  | alreadyThere
  /-- The path, or a name in it, is too long. -/
  | tooLong
  /-- Any other refusal of the system, with its number and its words. -/
  | other (number : Nat) (reason : String)
deriving DecidableEq

/-- A failure at a path. -/
structure FileError where
  cause : Cause
  path : Path
deriving DecidableEq

namespace Cause

/-- The number of a cause. -/
def number : Cause → Nat
  | missing => 2
  | notFolder => 20
  | isFolder => 21
  | alreadyThere => 17
  | tooLong => 36
  | other n _ => n

/-- The words for a cause. -/
def reason : Cause → String
  | missing => "No such file or directory"
  | notFolder => "Not a directory"
  | isFolder => "Is a directory"
  | alreadyThere => "File exists"
  | tooLong => "File name too long"
  | other _ r => r

end Cause

/-- The words for a cause: its number and the reason. -/
def Cause.message (c : Cause) : String :=
  "[Errno " ++ String.ofList (Text.digits c.number) ++ "] " ++ c.reason

/-- The words for a failure: the cause and the path. -/
def FileError.message (e : FileError) : String :=
  e.cause.message ++ ": " ++ Text.quote e.path.text

end MonkeyScan.Files
