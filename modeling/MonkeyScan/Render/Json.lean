import MonkeyScan.Text.Decimal
import MonkeyScan.Text.Hex
import MonkeyScan.Text.Units

/-!
JSON documents, written over several lines with an indentation of two, in ASCII only. In a string
the double quote and the backslash stand behind a backslash, five control characters have a letter,
and every other character outside the range from space to tilde is written by its UTF-16 units.
-/

namespace MonkeyScan.Render

/-- A document, of the kinds that token lists need. -/
inductive Json where
  | string (s : String)
  | integer (n : Int)
  | array (items : List Json)
  | object (members : List (String × Json))

namespace Json

/-- A character as it stands in a string. -/
def escapedChar (c : Char) : List Char :=
  if c = '"' then ['\\', '"']
  else if c = '\\' then ['\\', '\\']
  else if c = '\n' then ['\\', 'n']
  else if c = '\r' then ['\\', 'r']
  else if c = '\t' then ['\\', 't']
  else if c.toNat = 0x8 then ['\\', 'b']
  else if c.toNat = 0xc then ['\\', 'f']
  else if 0x20 ≤ c.toNat ∧ c.toNat ≤ 0x7e then [c]
  else (Text.units c).flatMap fun u => '\\' :: 'u' :: Text.hexDigits 4 u

/-- A string between its quotes. -/
def stringText (s : String) : List Char := '"' :: s.toList.flatMap escapedChar ++ ['"']

/-- A line feed and the indentation of a depth. -/
def newLine (depth : Nat) : List Char := '\n' :: List.replicate (2 * depth) ' '

mutual

/-- A document whose first line stands at a depth. -/
def render (depth : Nat) : Json → List Char
  | string s => stringText s
  | integer n => Text.integer n
  | array [] => ['[', ']']
  | array (item :: more) =>
    '[' :: newLine (depth + 1) ++ item.render (depth + 1) ++ renderItems (depth + 1) more ++
      newLine depth ++ [']']
  | object [] => ['\x7b', '\x7d']
  | object (member :: more) =>
    '\x7b' :: newLine (depth + 1) ++ renderMember (depth + 1) member ++
      renderMembers (depth + 1) more ++ newLine depth ++ ['\x7d']

/-- The items behind the first. -/
def renderItems (depth : Nat) : List Json → List Char
  | [] => []
  | item :: more => ',' :: newLine depth ++ item.render depth ++ renderItems depth more

/-- A member: its name and its value. -/
def renderMember (depth : Nat) : String × Json → List Char
  | (name, value) => stringText name ++ [':', ' '] ++ value.render depth

/-- The members behind the first. -/
def renderMembers (depth : Nat) : List (String × Json) → List Char
  | [] => []
  | member :: more => ',' :: newLine depth ++ renderMember depth member ++ renderMembers depth more

end

/-- A document as text. -/
def text (j : Json) : String := String.ofList (j.render 0)

mutual

/-- The integers in a document. -/
def integers : Json → List Int
  | string _ => []
  | integer n => [n]
  | array items => itemIntegers items
  | object members => memberIntegers members

/-- The integers in items. -/
def itemIntegers : List Json → List Int
  | [] => []
  | item :: more => item.integers ++ itemIntegers more

/-- The integers in the values of members. -/
def memberIntegers : List (String × Json) → List Int
  | [] => []
  | (_, value) :: more => value.integers ++ memberIntegers more

end

end Json

end MonkeyScan.Render
