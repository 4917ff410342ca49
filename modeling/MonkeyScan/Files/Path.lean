/-!
Path names: an anchor (none, or the root in one of its two spellings) and the names behind it. Empty
names and single dots are dropped when a text is read, two dots are kept. A path is written with
single slashes, and as a dot if nothing else is left of it.
-/

namespace MonkeyScan.Files

/-- What a path starts from. Exactly two slashes in front are a spelling of their own. -/
inductive Anchor where
  | none
  | root
  | doubleRoot
deriving DecidableEq

/-- A path name. -/
structure Path where
  anchor : Anchor
  names : List String
deriving DecidableEq

namespace Path

/-- The pieces of a text between slashes. -/
def pieces : List Char → List (List Char)
  | [] => [[]]
  | c :: cs =>
    if c = '/' then [] :: pieces cs
    else match pieces cs with
      | [] => [[c]]
      | p :: ps => (c :: p) :: ps

/-- The anchor of a text: by the number of slashes in front. -/
def anchorOf (cs : List Char) : Anchor :=
  match (cs.takeWhile (· = '/')).length with
  | 0 => .none
  | 2 => .doubleRoot
  | _ => .root

/-- The path of a text. -/
def ofString (s : String) : Path :=
  ⟨anchorOf s.toList, ((pieces s.toList).filter fun p => p ≠ [] ∧ p ≠ ['.']).map String.ofList⟩

/-- The spelling of an anchor. -/
def Anchor.text : Anchor → String
  | .none => ""
  | .root => "/"
  | .doubleRoot => "//"

/-- The text of a path. -/
def text (p : Path) : String :=
  if p.anchor = .none ∧ p.names = [] then "." else Anchor.text p.anchor ++ "/".intercalate p.names

/-- The path of the folder that the last name stands in. Two dots count as a name like others. -/
def parent (p : Path) : Path := { p with names := p.names.dropLast }

/-- The path of a name in a folder. -/
def child (p : Path) (name : String) : Path := { p with names := p.names ++ [name] }

/-- Whether a name holds the null character, which ends names for the system. -/
def hasNull (p : Path) : Bool := p.names.any fun name => name.toList.contains (Char.ofNat 0)

end Path

end MonkeyScan.Files
