import MonkeyScan.CommandLine.UsageError
import MonkeyScan.Text.DecimalDigit

/-!
What a single argument is: plain, an option, something that looks like an option, or the separator
behind which all is plain. An argument is an option if it is spelled in full, or in full up to an
equals sign, or as the start of one long spelling only, or as a short spelling with more behind it.
Failing that, an argument with a hyphen in front is still plain if it is a negative number or holds
a space.
-/

namespace MonkeyScan.CommandLine

/-- What an argument is. -/
inductive Item where
  | plain (s : String)
  | separator
  /-- It looks like an option and is none. -/
  | unknown (s : String)
  /-- An option, whether its spelling is a short one, and the value attached to it. -/
  | option (flag : Flag) (short : Bool) (attached : Option (List Char))
deriving DecidableEq

namespace Item

/-- The text before the first equals sign, and the text behind it if there is one. -/
def splitEquals (cs : List Char) : List Char × Option (List Char) :=
  match cs.dropWhile (· ≠ '=') with
  | [] => (cs, none)
  | _ :: value => (cs.takeWhile (· ≠ '='), some value)

/-- Whether digits of any script stand alone, or behind a point with or without more before it. A
line feed at the very end does not count. -/
def isNumeral (cs : List Char) : Bool :=
  let cs := if cs.getLast? = some '\n' then cs.dropLast else cs
  let behind := cs.dropWhile Text.isDecimalDigit
  match behind with
  | [] => !cs.isEmpty
  | '.' :: places => !places.isEmpty && places.all Text.isDecimalDigit
  | _ => false

/-- Whether an argument is a negative number. -/
def isNegativeNumber : List Char → Bool
  | '-' :: cs => isNumeral cs
  | _ => false

/-- The spellings that an argument may mean, with what is attached: the long ones that start with it
up to an equals sign, or the short one that it starts with. -/
def candidates (cs : List Char) : List (String × Item) :=
  match cs with
  | '-' :: '-' :: _ =>
    let (start, value) := splitEquals cs
    (Flag.spellings.filter fun (name, _) => start.isPrefixOf name.toList).map fun (name, flag) =>
      (name, .option flag false value)
  | a :: b :: value =>
    (Flag.spellings.filter fun (name, _) => name.toList = [a, b]).map fun (name, flag) =>
      (name, .option flag true (some value))
  | _ => []

/-- Whether a spelling has a single hyphen. -/
def isShort (cs : List Char) : Bool := cs.length = 2

/-- What an argument other than the separator is. -/
def ofArgument (s : String) : Except UsageError Item :=
  let cs := s.toList
  if cs.head? ≠ some '-' ∨ cs = ['-'] then .ok (.plain s)
  else match Flag.ofSpelling? cs with
    | some flag => .ok (.option flag (isShort cs) none)
    | none =>
      let (name, value) := splitEquals cs
      match value, Flag.ofSpelling? name with
      | some value, some flag => .ok (.option flag (isShort name) (some value))
      | _, _ => match candidates cs with
        | [(_, item)] => .ok item
        | [] => .ok (if isNegativeNumber cs || cs.contains ' ' then .plain s else .unknown s)
        | several => .error (.ambiguous s (several.map (·.1)))

/-- What each argument is. Behind the first separator all are plain. -/
def ofArguments : List String → Except UsageError (List Item)
  | [] => .ok []
  | s :: more =>
    if s = "--" then .ok (.separator :: more.map .plain)
    else do
      let item ← ofArgument s
      let items ← ofArguments more
      .ok (item :: items)

end Item

end MonkeyScan.CommandLine
