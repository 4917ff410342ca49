import MonkeyScan.Program.Watch

/-!
What a run writes to the error stream. Up to its settings a run only reads (`run_prepare`), and so
it does up to the scan of its input (`run_readScanned`). The table of the tokens comes first, if it
is asked for, then the report of the problems; the listing goes elsewhere, and whether it can be
written makes no difference here (`errors_runOnce`). Without a watch, one such pass is the whole run
(`final_run`).
-/

namespace MonkeyScan.Program

open MonkeyScan.Files

section

variable {α β : Type}

theorem run_bind (x : StateM World α) (f : α → StateM World β) (w : World) :
    (x >>= f).run w = (f (x.run w).1).run (x.run w).2 := rfl

/-- An action that leaves the world as it is. -/
def OnlyReads (x : StateM World α) : Prop := ∀ w, (x.run w).2 = w

theorem onlyReads_pure (a : α) : OnlyReads (pure a) := fun _ => rfl

theorem OnlyReads.run_bind {x : StateM World α} (h : OnlyReads x) (f : α → StateM World β)
    (w : World) : (x >>= f).run w = (f (x.run w).1).run w := by
  rw [Program.run_bind, h]

theorem OnlyReads.bind {x : StateM World α} {f : α → StateM World β} (hx : OnlyReads x)
    (hf : ∀ a, OnlyReads (f a)) : OnlyReads (x >>= f) := by
  intro w
  rw [hx.run_bind, hf]

end

/-! ## Reading -/

theorem onlyReads_findsFile (p : Path) : OnlyReads (findsFile p) := by
  intro w
  unfold findsFile
  split <;> rfl

theorem onlyReads_readBytes (p : Path) : OnlyReads (readBytes p) := by
  intro w
  unfold readBytes
  split <;> rfl

theorem onlyReads_load (p : Path) : OnlyReads (Config.load p) := by
  refine (onlyReads_findsFile p).bind fun found => ?_
  match found with
  | .error _ | .ok false => exact onlyReads_pure _
  | .ok true =>
    refine (onlyReads_readBytes p).bind fun bytes => ?_
    cases bytes <;> exact onlyReads_pure _

theorem onlyReads_resolve (a : CommandLine.Arguments) : OnlyReads (Settings.resolve a) := by
  refine (onlyReads_load _).bind fun config => ?_
  cases config <;> exact onlyReads_pure _

/-- A run that comes to its settings has written nothing so far. -/
theorem run_prepare {argv : List String} {w : World} {s : Settings}
    (h : ((prepare argv : StateM World _).run w).1 = .ok s) :
    (prepare argv : StateM World _).run w = (.ok s, w) := by
  unfold prepare at h ⊢
  cases parsed : CommandLine.parse argv with
  | error e =>
    rw [parsed] at h
    cases e <;> cases h
  | ok a =>
    rw [parsed] at h
    dsimp only at h ⊢
    rw [(onlyReads_resolve a).run_bind] at h ⊢
    cases answer : ((Settings.resolve a : StateM World _).run w).1 with
    | error e =>
      rw [answer] at h
      cases e <;> cases h
    | ok found =>
      rw [answer] at h
      obtain rfl : found = s := Except.ok.inj h
      rfl

/-- What the input is called in messages. -/
def Settings.inputName (s : Settings) : String := s.input.elim standardInput Path.text

/-- The bytes of the input in a world. -/
def Settings.inputBytes (s : Settings) (w : World) : Except Failure (List UInt8) :=
  match s.input with
  | none => .ok w.input
  | some p => ((readBytes p : StateM World _).run w).1

theorem run_readScanned (s : Settings) (w : World) :
    (readScanned s : StateM World _).run w =
      ((s.inputBytes w).bind (Scanned.ofBytes s.inputName), w) := by
  unfold readScanned Settings.inputBytes Settings.inputName
  cases s.input with
  | none => rfl
  | some p =>
    dsimp only
    rw [(onlyReads_readBytes p).run_bind]
    cases ((readBytes p : StateM World _).run w).1 <;> rfl

/-! ## Writing -/

/-- The table of the tokens, if it is asked for. -/
def Settings.tableOf (s : Settings) (ts : List Token) : String :=
  if s.debug then Render.table ts else ""

theorem run_examine_ok {s : Settings} {w : World} {r : Scanned}
    (h : (s.inputBytes w).bind (Scanned.ofBytes s.inputName) = .ok r) :
    (examine s : StateM World _).run w =
      (.ok r, { w with errors := w.errors ++ s.tableOf r.tokens }) := by
  unfold examine Settings.tableOf
  rw [run_bind, run_readScanned, h]
  cases s.debug with
  | false =>
    rw [if_neg Bool.false_ne_true, String.append_empty]
    rfl
  | true => rfl

/-- Whether a file can be written or not, the error stream does not show it. -/
theorem errors_writeBytes (p : Path) (content : List UInt8) (w : World) :
    ((writeBytes p content : StateM World _).run w).2.errors = w.errors := by
  unfold writeBytes
  split
  · rfl
  · rw [run_bind]
    cases written : w.writeFile p content with
    | error e => rw [World.run_writeFile_error written]; rfl
    | ok after =>
      rw [World.run_writeFile_ok written]
      unfold World.writeFile at written
      cases made : w.tree.write w.base p content w.clock with
      | error e => rw [made] at written; cases written
      | ok tree =>
        rw [made] at written
        obtain rfl := Except.ok.inj written
        rfl

theorem errors_publish (s : Settings) (r : Scanned) (w : World) :
    ((publish s r : StateM World _).run w).2.errors =
      w.errors ++ Problem.report r.problems r.file := by
  unfold publish
  rw [run_bind, World.run_warn]
  cases s.output with
  | none => rfl
  | some p => exact errors_writeBytes p _ _

/-- One pass over an input that can be scanned. -/
theorem errors_runOnce {s : Settings} {w : World} {r : Scanned}
    (h : (s.inputBytes w).bind (Scanned.ofBytes s.inputName) = .ok r) :
    ((runOnce s : StateM World _).run w).2.errors =
      w.errors ++ s.tableOf r.tokens ++ Problem.report r.problems r.file := by
  have errors := errors_publish s r { w with errors := w.errors ++ s.tableOf r.tokens }
  unfold runOnce
  rw [run_bind, run_examine_ok h]
  dsimp only
  rw [run_bind, ← errors]
  cases ((publish s r : StateM World _).run
    { w with errors := w.errors ++ s.tableOf r.tokens }).1 <;> rfl

/-- Without a watch a run is one pass, and nothing that happens outside falls into it. -/
theorem final_run {argv : List String} {changes : List Change} {w : World} {s : Settings}
    (prepared : ((prepare argv : StateM World _).run w).1 = .ok s) (once : s.watch = false) :
    (run argv changes w).final = ((runOnce s : StateM World _).run w).2 := by
  unfold run
  rw [run_prepare prepared]
  dsimp only
  rw [once]
  cases s.input <;> rfl

end MonkeyScan.Program
