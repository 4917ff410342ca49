import MonkeyScan.Files.FileError
import MonkeyScan.Files.Instant

/-!
A tree of files and folders. An entry is found at a location, which is the row of names up to the
root, innermost first. A path is followed one name at a time from the working folder or the root,
and each step must start in a folder; a path that is too long, or holds such a name, is not
followed. Every change has a time, which the changed entry keeps. The main statements say that
writing and removing leave all other locations alone.
-/

namespace MonkeyScan.Files

/-- The names from an entry up to the root. -/
abbrev Location := List String

/-- What stands at a location, and when it was last changed. -/
inductive Entry where
  | file (content : List UInt8) (modified : Instant)
  | folder (modified : Instant)
deriving DecidableEq

namespace Entry

/-- When an entry was last changed. -/
def modified : Entry → Instant
  | file _ t => t
  | folder t => t

/-- The entry with another time of change. -/
def stamp (t : Instant) : Entry → Entry
  | file content _ => file content t
  | folder _ => folder t

end Entry

/-- The entries by their locations; the first one counts where a location comes twice. -/
structure Tree where
  entries : List (Location × Entry)
deriving DecidableEq

namespace Tree

/-- The entry at a location. -/
def find? (t : Tree) (loc : Location) : Option Entry := t.entries.lookup loc

/-- The tree with an entry at a location. -/
def put (t : Tree) (loc : Location) (e : Entry) : Tree :=
  ⟨(loc, e) :: t.entries.filter (·.1 ≠ loc)⟩

/-- The tree without a location and all below it. -/
def prune (t : Tree) (loc : Location) : Tree := ⟨t.entries.filter fun e => !loc.isSuffixOf e.1⟩

/-- The tree with another time of change at a location, if there is an entry. -/
def stamp (t : Tree) (loc : Location) (time : Instant) : Tree :=
  match t.find? loc with
  | some e => t.put loc (e.stamp time)
  | none => t

/-- The most bytes of a name. -/
def mostNameBytes : Nat := 255

/-- The most bytes of a path. -/
def mostPathBytes : Nat := 4095

/-- The location that names lead to. Two dots lead to the folder above, the root being its own. -/
def follow (t : Tree) : Location → List String → Except Cause Location
  | here, [] => .ok here
  | here, name :: names =>
    match t.find? here with
    | some (.folder _) =>
      if mostNameBytes < name.utf8ByteSize then .error .tooLong
      else t.follow (if name = ".." then here.tail else name :: here) names
    | some (.file _ _) => .error .notFolder
    | none => .error .missing

/-- The location that a path leads to from a working folder. -/
def locate (t : Tree) (base : Location) (p : Path) : Except Cause Location :=
  if mostPathBytes < p.text.utf8ByteSize then .error .tooLong
  else t.follow (if p.anchor = .none then base else []) p.names

/-- Whether a path leads to a file. A path that leads nowhere does not; one that is too long cannot
be asked about. -/
def isFile (t : Tree) (base : Location) (p : Path) : Except FileError Bool :=
  match t.locate base p with
  | .ok loc => match t.find? loc with
    | some (.file _ _) => .ok true
    | _ => .ok false
  | .error .missing | .error .notFolder => .ok false
  | .error cause => .error ⟨cause, p⟩

/-- When what a path leads to was last changed, if it leads to anything. -/
def modified? (t : Tree) (base : Location) (p : Path) : Option Instant :=
  match t.locate base p with
  | .ok loc => (t.find? loc).map Entry.modified
  | .error _ => none

/-- The bytes of the file that a path leads to. -/
def read (t : Tree) (base : Location) (p : Path) : Except FileError (List UInt8) :=
  match t.locate base p with
  | .error cause => .error ⟨cause, p⟩
  | .ok loc =>
    match t.find? loc with
    | some (.file content _) => .ok content
    | some (.folder _) => .error ⟨.isFolder, p⟩
    | none => .error ⟨.missing, p⟩

/-- Writes a file: into its place, or as a new entry of its folder, which changes with it. -/
def write (t : Tree) (base : Location) (p : Path) (content : List UInt8) (time : Instant) :
    Except FileError Tree :=
  match t.locate base p with
  | .error cause => .error ⟨cause, p⟩
  | .ok loc =>
    match t.find? loc with
    | some (.file _ _) => .ok (t.put loc (.file content time))
    | some (.folder _) => .error ⟨.isFolder, p⟩
    | none => .ok ((t.put loc (.file content time)).stamp loc.tail time)

/-- Makes the folders on the way to a location, outermost first. -/
def makeFolders (t : Tree) (loc : Location) (time : Instant) : Tree :=
  match loc with
  | [] => t
  | name :: above =>
    let t := t.makeFolders above time
    match t.find? (name :: above) with
    | some _ => t
    | none => (t.put (name :: above) (.folder time)).stamp above time

/-- Removes what stands at a location, with all below it, from its folder. -/
def remove (t : Tree) (loc : Location) (time : Instant) : Tree := (t.prune loc).stamp loc.tail time

theorem lookup_filter_ne {loc other : Location} (ne : other ≠ loc) (es : List (Location × Entry)) :
    (es.filter (·.1 ≠ loc)).lookup other = es.lookup other := by
  induction es with
  | nil => rfl
  | cons e es ih =>
    obtain ⟨l, e⟩ := e
    by_cases h : l = loc
    · have : (other == l) = false := by simpa [h] using ne
      simpa [h, List.lookup_cons, h ▸ this] using ih
    · simp only [List.filter_cons, ne_eq, h, not_false_eq_true, decide_true, if_true,
        List.lookup_cons]
      split
      · rfl
      · exact ih

@[simp] theorem find?_put_self (t : Tree) (loc : Location) (e : Entry) :
    (t.put loc e).find? loc = some e := by
  simp [find?, put]

theorem find?_put_of_ne {loc other : Location} (ne : other ≠ loc) (t : Tree) (e : Entry) :
    (t.put loc e).find? other = t.find? other := by
  have : (other == loc) = false := by simpa using ne
  simp only [find?, put, List.lookup_cons, this]
  exact lookup_filter_ne ne t.entries

theorem find?_stamp_of_ne {loc other : Location} (ne : other ≠ loc) (t : Tree) (time : Instant) :
    (t.stamp loc time).find? other = t.find? other := by
  unfold stamp
  split
  · exact find?_put_of_ne ne ..
  · rfl

end Tree

end MonkeyScan.Files
