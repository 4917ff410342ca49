import MonkeyScan.Program.Host

/-!
The model of a system: a tree of files with a working folder and a clock, the standard input, and
what has been written to the standard streams. Every write takes a new time from the clock, so that
no two writes have the same time. The lemmas say what each question does to the model; those about
reading say that it stays as it is.
-/

namespace MonkeyScan.Program

open MonkeyScan.Files

/-- A system. -/
structure World where
  tree : Tree
  base : Location
  clock : Instant
  input : List UInt8
  output : String
  errors : String
deriving DecidableEq

/-- What happens to a system from outside, in one go. -/
abbrev Change := World → World

namespace World

/-- The time between a change of the tree and the next one. -/
def tick : Instant := 1000000

/-- The world after a write of a file, if it can be done. -/
def writeFile (w : World) (p : Path) (content : List UInt8) : Except FileError World :=
  (w.tree.write w.base p content w.clock).map fun tree => { w with tree, clock := w.clock + tick }

instance : Host (StateM World) where
  isFile p := fun w => (w.tree.isFile w.base p, w)
  readFile p := fun w => (w.tree.read w.base p, w)
  writeFile p content := fun w =>
    match w.writeFile p content with
    | .ok w => (.ok (), w)
    | .error e => (.error e, w)
  modified? p := fun w => ((w.tree.modified? w.base p).map Instant.seconds, w)
  readInput := fun w => (w.input, w)
  say s := fun w => ((), { w with output := w.output ++ s })
  warn s := fun w => ((), { w with errors := w.errors ++ s })

@[simp] theorem run_isFile (p : Path) (w : World) :
    (Host.isFile p : StateM World _).run w = (w.tree.isFile w.base p, w) := rfl

@[simp] theorem run_readFile (p : Path) (w : World) :
    (Host.readFile p : StateM World _).run w = (w.tree.read w.base p, w) := rfl

@[simp] theorem run_warn (s : String) (w : World) :
    (Host.warn s : StateM World Unit).run w = ((), { w with errors := w.errors ++ s }) := rfl

theorem run_writeFile_ok {p : Path} {content : List UInt8} {w w' : World}
    (h : w.writeFile p content = .ok w') :
    (Host.writeFile p content : StateM World _).run w = (.ok (), w') := by
  show (match w.writeFile p content with
    | .ok w => (Except.ok (), w)
    | .error e => (Except.error e, w)) = _
  rw [h]

theorem run_writeFile_error {p : Path} {content : List UInt8} {w : World} {e : FileError}
    (h : w.writeFile p content = .error e) :
    (Host.writeFile p content : StateM World _).run w = (.error e, w) := by
  show (match w.writeFile p content with
    | .ok w => (Except.ok (), w)
    | .error e => (Except.error e, w)) = _
  rw [h]

/-! ### Changes from outside -/

/-- An empty working folder at the root of an otherwise empty tree. -/
def blank (clock : Instant) : World :=
  ⟨(Tree.mk [([], .folder clock)]).makeFolders ["work"] clock, ["work"], clock + tick, [], "", ""⟩

/-- The location of a name in the working folder. -/
def locationOf (w : World) (name : String) : Location :=
  (Path.ofString name).names.reverse ++ w.base

/-- The world with a file, and the folders on the way to it. -/
def place (w : World) (name : String) (content : List UInt8) : World :=
  let loc := w.locationOf name
  let tree := w.tree.makeFolders loc.tail w.clock
  let tree := match tree.find? loc with
    | some _ => tree.put loc (.file content w.clock)
    | none => (tree.put loc (.file content w.clock)).stamp loc.tail w.clock
  { w with tree, clock := w.clock + tick }

/-- The world with a folder, and the folders on the way to it. -/
def placeFolder (w : World) (name : String) : World :=
  { w with tree := w.tree.makeFolders (w.locationOf name) w.clock, clock := w.clock + tick }

/-- The world without a file or folder. -/
def remove (w : World) (name : String) : World :=
  { w with tree := w.tree.remove (w.locationOf name) w.clock, clock := w.clock + tick }

/-- The world with another time of change of a file or folder. -/
def stamp (w : World) (name : String) (time : Instant) : World :=
  { w with tree := w.tree.stamp (w.locationOf name) time }

/-- The files below the working folder, by their names in it. -/
def files (w : World) : List (String × List UInt8) :=
  w.tree.entries.filterMap fun (loc, e) =>
    match e with
    | .file content _ =>
      if w.base.isSuffixOf loc then
        some ("/".intercalate (loc.take (loc.length - w.base.length)).reverse, content)
      else none
    | .folder _ => none

end World

end MonkeyScan.Program
