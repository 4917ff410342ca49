import MonkeyScan.Number.Binary64
import MonkeyScan.Toml.Moment

/-!
The values of a TOML document. A table is a list of names and values in which no name comes twice;
it can be changed along a path of names, and a step of the path may lead through the last table of
an array.
-/

namespace MonkeyScan.Toml

/-- A value. -/
inductive Value where
  | string (s : String)
  | integer (n : Int)
  | float (x : Number.Binary64)
  | boolean (b : Bool)
  | moment (m : Moment)
  | array (items : List Value)
  | table (members : List (String × Value))

/-- Names and their values. -/
abbrev Table := List (String × Value)

namespace Table

/-- The value of a name. -/
def get? (t : Table) (name : String) : Option Value := t.lookup name

/-- The table under a name, if it is one. -/
def table? (t : Table) (name : String) : Option Table :=
  match t.get? name with
  | some (.table u) => some u
  | _ => none

/-- The string under a name, if it is one. -/
def string? (t : Table) (name : String) : Option String :=
  match t.get? name with
  | some (.string s) => some s
  | _ => none

/-- The truth value under a name, if it is one. -/
def boolean? (t : Table) (name : String) : Option Bool :=
  match t.get? name with
  | some (.boolean b) => some b
  | _ => none

/-- The table with a value under a name: in its place, or at the end under a new name. -/
def put (name : String) (v : Value) : Table → Table
  | [] => [(name, v)]
  | (n, w) :: t => if n = name then (n, v) :: t else (n, w) :: put name v t

/-- Changes the table at a path and leaves all else. A name that is missing on the way gets an empty
table; an array stands for its last table where that is allowed; any other value refuses. -/
def within (throughArrays : Bool) (change : Table → Option Table) :
    List String → Table → Option Table
  | [], t => change t
  | name :: path, t =>
    match t.get? name with
    | none => do
      let inner ← within throughArrays change path []
      some (t.put name (.table inner))
    | some (.table inner) => do
      let inner ← within throughArrays change path inner
      some (t.put name (.table inner))
    | some (.array items) =>
      if throughArrays then
        match items.getLast? with
        | some (.table inner) => do
          let inner ← within throughArrays change path inner
          some (t.put name (.array (items.dropLast ++ [.table inner])))
        | _ => none
      else none
    | some _ => none

/-- Adds a value under a new name. -/
def add? (name : String) (v : Value) (t : Table) : Option Table :=
  if (t.get? name).isSome then none else some (t.put name v)

/-- Adds an empty table at the end of an array, which is made if the name is new. -/
def extend? (name : String) (t : Table) : Option Table :=
  match t.get? name with
  | none => some (t.put name (.array [.table []]))
  | some (.array items) => some (t.put name (.array (items ++ [.table []])))
  | some _ => none

end Table

end MonkeyScan.Toml
