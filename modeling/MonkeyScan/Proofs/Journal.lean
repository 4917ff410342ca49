import MonkeyScan.Proofs.Reporting

/-!
Which files a program asks for. A journal is kept beside the world, and every file whose bytes are
asked for is written down in it. A program is written over any system, so that the same text runs
with the journal and without; with it the program does what it does without (`Records`).
-/

namespace MonkeyScan.Program

open MonkeyScan.Files

/-- A system, and the files whose bytes it has been asked for. -/
structure Journal where
  world : World
  reads : List Path

namespace Journal

variable {α : Type}

/-- What is done to the world, with nothing to write down. -/
def lift (y : StateM World α) : StateM Journal α := fun j =>
  ((y.run j.world).1, { j with world := (y.run j.world).2 })

/-- Writes a file down. -/
def note (p : Path) : StateM Journal Unit := fun j => ((), { j with reads := j.reads ++ [p] })

instance : Host (StateM Journal) where
  isFile p := lift (Host.isFile p)
  readFile p := do
    note p
    lift (Host.readFile p)
  writeFile p content := lift (Host.writeFile p content)
  modified? p := lift (Host.modified? p)
  readInput := lift Host.readInput
  say s := lift (Host.say s)
  warn s := lift (Host.warn s)

end Journal

section

variable {α β : Type}

/-- From a world, a program with the journal comes to what it comes to without, and asks in turn for
the bytes of some files. -/
def Records (x : StateM Journal α) (y : StateM World α) (w : World) (asked : List Path) : Prop :=
  ∀ past, x.run ⟨w, past⟩ = ((y.run w).1, ⟨(y.run w).2, past ++ asked⟩)

theorem records_lift (y : StateM World α) (w : World) : Records (Journal.lift y) y w [] := by
  intro past
  rw [List.append_nil]
  rfl

theorem records_pure (a : α) (w : World) : Records (pure a) (pure a) w [] :=
  records_lift (pure a) w

theorem Records.bind {x : StateM Journal α} {y : StateM World α} {f : α → StateM Journal β}
    {g : α → StateM World β} {w : World} {asked asked' : List Path} (first : Records x y w asked)
    (second : Records (f (y.run w).1) (g (y.run w).1) (y.run w).2 asked') :
    Records (x >>= f) (y >>= g) w (asked ++ asked') := by
  intro past
  change (f (x.run ⟨w, past⟩).1).run (x.run ⟨w, past⟩).2 = _
  rw [first past, second (past ++ asked), List.append_assoc]
  rfl

end

theorem records_readFile (p : Path) (w : World) :
    Records (Host.readFile p) (Host.readFile p) w [p] := fun _ => rfl

section

variable {p : Path} {s : Settings}

theorem records_readBytes (clean : p.hasNull = false) (w : World) :
    Records (readBytes p) (readBytes p) w [p] := by
  unfold readBytes
  rw [clean, if_neg Bool.false_ne_true, if_neg Bool.false_ne_true]
  exact (records_readFile p w).bind (records_pure _ _)

theorem records_readScanned (input : s.input = some p) (clean : p.hasNull = false) (w : World) :
    Records (readScanned s) (readScanned s) w [p] := by
  unfold readScanned
  rw [input]
  refine (records_readBytes clean w).bind ?_
  cases ((readBytes p : StateM World _).run w).1 <;> exact records_pure _ _

/-- The input is asked for once to examine it. -/
theorem records_examine (input : s.input = some p) (clean : p.hasNull = false) (w : World) :
    Records (examine s) (examine s) w [p] := by
  refine (records_readScanned input clean w).bind ?_
  cases ((readScanned s : StateM World _).run w).1 with
  | error f => exact records_pure _ _
  | ok r =>
    dsimp only
    cases s.debug with
    | false => exact records_pure _ _
    | true => exact (records_lift _ _).bind (records_pure _ _)

theorem records_lastChange (p : Path) (w : World) :
    Records (lastChange p) (lastChange p) w [] := by
  unfold lastChange
  split
  · exact records_pure _ _
  · exact (records_lift _ _).bind (records_pure _ _)

theorem records_complain (message : String) (w : World) :
    Records (complain message) (complain message) w [] := records_lift _ _

theorem records_writeBytes (p : Path) (content : List UInt8) (w : World) :
    Records (writeBytes p content) (writeBytes p content) w [] := by
  unfold writeBytes
  split
  · exact records_pure _ _
  · exact (records_lift _ _).bind (records_pure _ _)

/-- No file is asked for to publish what is found. -/
theorem records_publish (s : Settings) (r : Scanned) (w : World) :
    Records (publish s r) (publish s r) w [] := by
  refine (records_lift _ w).bind ?_
  cases s.output with
  | none => exact (records_lift _ _).bind (records_pure _ _)
  | some p => exact records_writeBytes p _ _

end

end MonkeyScan.Program
