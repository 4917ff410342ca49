import MonkeyScan.Toml.Value

/-!
A document under construction: the table so far, the header that keys are added under, and marks
that keep what is finished from being changed. A table that a header has declared cannot be declared
again; an array or inline table is frozen with everything below it. Tables that dotted keys lead
through count as declared from the next header on.
-/

namespace MonkeyScan.Toml

/-- The names from the outermost table inwards. -/
abbrev Key := List String

/-- What is remembered of a key. -/
inductive Mark where
  /-- Its table has been declared. -/
  | declared
  /-- Its value and all below it is finished. -/
  | frozen
deriving DecidableEq

/-- A document under construction. -/
structure Draft where
  table : Table
  /-- The key of the header that the statements stand under. -/
  header : Key
  marks : List (Key × Mark)
  /-- The keys that count as declared from the next header on. -/
  pending : List Key

namespace Draft

/-- The empty document. -/
def empty : Draft := ⟨[], [], [], []⟩

/-- Whether exactly this key has been declared. -/
def isDeclared (d : Draft) (key : Key) : Bool := (key, Mark.declared) ∈ d.marks

/-- Whether the value of some start of the key is finished. -/
def isFrozen (marks : List (Key × Mark)) (key : Key) : Bool :=
  marks.any fun (k, m) => m = .frozen && k.isPrefixOf key

/-- The draft at the start of a header. -/
def closePending (d : Draft) : Draft :=
  { d with marks := d.marks ++ d.pending.map (·, Mark.declared), pending := [] }

/-- A header: declares the table of a key and makes it if need be. -/
def openTable? (d : Draft) (key : Key) : Option Draft :=
  let d := d.closePending
  if d.isDeclared key || isFrozen d.marks key then none
  else do
    let table ← Table.within true some key d.table
    some { d with table, header := key, marks := (key, .declared) :: d.marks }

/-- A header with two brackets: adds a table to the array of a key, and forgets the marks below the
key, which were those of the table before. -/
def openItem? (d : Draft) (key : Key) : Option Draft :=
  let d := d.closePending
  if isFrozen d.marks key then none
  else do
    let name ← key.getLast?
    let table ← Table.within true (Table.extend? name) key.dropLast d.table
    let marks := d.marks.filter fun (k, _) => !key.isPrefixOf k
    some { d with table, header := key, marks := (key, .declared) :: marks }

/-- The starts of a key, shortest first, without the empty one and the key itself. -/
def properStarts : Key → List Key
  | [] | [_] => []
  | name :: key => [name] :: (properStarts key).map (name :: ·)

/-- Whether a value is an array or a table. -/
def isContainer : Value → Bool
  | .array _ | .table _ => true
  | _ => false

/-- A key and its value under the header. -/
def assign? (d : Draft) (key : Key) (v : Value) : Option Draft :=
  let through := (properStarts key).map (d.header ++ ·)
  let parent := d.header ++ key.dropLast
  if through.any d.isDeclared || isFrozen d.marks parent then none
  else do
    let name ← key.getLast?
    let table ← Table.within true (Table.add? name v) parent d.table
    let marks := if isContainer v then (d.header ++ key, .frozen) :: d.marks else d.marks
    some { d with table, marks, pending := d.pending ++ through }

end Draft

end MonkeyScan.Toml
