import MonkeyScan.Problem
import MonkeyScan.Text.Units

/-!
Diagnostics for an editor. Each illegal character of a document gives one, with a range that is
counted in UTF-16 units from the start of its line, lines counted from zero. A problem whose place
is outside the document has no range; the scan of a document gives none of those.
-/

namespace MonkeyScan.Editor

/-- A place in a document: the line, and the units before it on that line. -/
structure Place where
  line : Nat
  character : Nat
deriving DecidableEq

/-- The weight of a message. -/
inductive Severity where
  | error
  | warning
  | information
  | hint
deriving DecidableEq

/-- The number of a weight. -/
def Severity.number : Severity → Nat
  | error => 1
  | warning => 2
  | information => 3
  | hint => 4

/-- A message about a range of a document, with its weight and who it comes from. -/
structure Diagnostic where
  start : Place
  stop : Place
  message : String
  severity : Severity
  source : String
deriving DecidableEq

namespace Diagnostic

/-- Who the messages come from. -/
def sender : String := "monkeylex"

/-- The diagnostic of a problem in a document with the given lines. Every problem is an error. -/
def ofProblem? (lines : List (List Char)) (p : Problem) : Option Diagnostic := do
  guard (1 ≤ p.position.line ∧ 1 ≤ p.position.column)
  let line := (p.position.line - 1).toNat
  let column := (p.position.column - 1).toNat
  let text ← lines[line]?
  let c ← text[column]?
  let start := Text.unitCount (text.take column)
  some
    { start := ⟨line, start⟩
      stop := ⟨line, start + (Text.units c).length⟩
      message := p.message
      severity := .error
      source := sender }

/-- The diagnostics of a document. -/
def ofText? (text : String) : Option (List Diagnostic) :=
  (Problem.ofTokens (scan text) text).mapM (ofProblem? (Text.lines text.toList))

end Diagnostic

end MonkeyScan.Editor
