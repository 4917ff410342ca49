import MonkeyScan.Proofs.Outcome
import MonkeyScan.Proofs.Polls

/-!
What the polls of a watch do with the input. A poll that asks for the input is one run of the
program without a watch, on the same files and under the same settings, with one more line at its
end when the input was scanned (`relays_of_asks`, `run_once`); an input that cannot be had leaves
all but the error stream as it was (`after_of_unscanned`). So between two scans that succeed nothing
happens to the output file. Main statement: `watch_repeats_run`.
-/

namespace MonkeyScan.Program

open MonkeyScan.Files

/-! ## A run without a watch -/

section

variable {argv : List String} {a : CommandLine.Arguments} {s : Settings} {w : World}

theorem prepare_of_settled (accepted : CommandLine.parse argv = .ok a)
    (settled : w.settings a = .ok s) : (prepare argv : StateM World _).run w = (.ok s, w) := by
  unfold World.settings at settled
  unfold prepare
  rw [accepted]
  dsimp only
  rw [(onlyReads_resolve a).run_bind, settled]
  rfl

/-- Without a watch a run is one pass under its settings. -/
theorem run_once (accepted : CommandLine.parse argv = .ok a) (once : a.watch = false)
    (settled : w.settings a = .ok s) (changes : List Change) :
    run argv changes w =
      ⟨[], ((runOnce s : StateM World _).run w).1, ((runOnce s : StateM World _).run w).2⟩ := by
  have unwatched : s.watch = false := (settings_eq_ok settled).2.2.1.trans once
  unfold run
  rw [prepare_of_settled accepted settled]
  dsimp only
  rw [unwatched]
  cases s.input <;> rfl

/-- A command line that wants no watch comes to the settings in the world, but for the watch. -/
def ComesTo (argv : List String) (w : World) (s : Settings) : Prop :=
  ∃ a, CommandLine.parse argv = .ok a ∧ a.watch = false ∧
    w.settings a = .ok { s with watch := false }

theorem ComesTo.final_eq (h : ComesTo argv w s) (changes : List Change) :
    (run argv changes w).final = ((runOnce s : StateM World _).run w).2 := by
  obtain ⟨a, accepted, once, settled⟩ := h
  rw [run_once accepted once settled]
  rfl

end

/-- A pass leaves the working folder. -/
theorem Pass.base_eq {s : Settings} {w : World} {ending : Ending} {final : World}
    (h : Pass s w ending final) : final.base = w.base := by
  cases h <;> rfl

/-! ## One poll -/

/-- There is a pause behind the poll. -/
def Poll.GoesOn (q : Poll) : Prop := ∃ next, q.answer = .ok next

instance (q : Poll) : Decidable q.GoesOn :=
  match answered : q.answer with
  | .ok next => isTrue ⟨next, answered⟩
  | .error _ => isFalse fun goesOn => by
    obtain ⟨_, other⟩ := goesOn
    cases answered.symm.trans other

/-- The scan of the input in a poll, if the poll asks for the input and can have it. -/
def Poll.scan? (s : Settings) (q : Poll) : Option Scanned :=
  if q.reads = [] then none else (s.scanned q.before).toOption

section

variable {s : Settings} {p : Path} {changes : List Change} {w : World} {i : Nat} {q : Poll}

theorem exists_poll_eq (input : s.input = some p) (here : (history s p changes w)[i]? = some q) :
    ∃ last, q = poll s p last q.before := by
  obtain ⟨w', rfl⟩ := poll_of_getElem? input here
  exact ⟨_, rfl⟩

/-- A poll that asks for no file leaves the world as it is. -/
theorem after_of_idle (input : s.input = some p) (here : (history s p changes w)[i]? = some q)
    (idle : q.reads = []) : q.after = q.before := by
  obtain ⟨last, found⟩ := exists_poll_eq input here
  obtain ⟨-, -, ⟨scans, -⟩ | ⟨same, -⟩⟩ := poll_cases input last q.before
  · rw [← found] at scans
    exact absurd (scans.1.symm.trans idle) (List.cons_ne_nil _ _)
  · rw [← found] at same
    exact same.2

/-- A poll that asks for the input does what one pass over it does. -/
theorem relays_of_asks (input : s.input = some p) (here : (history s p changes w)[i]? = some q)
    (asks : q.reads ≠ []) :
    ∃ time, q.before.told? p = some time ∧
      Relays s p q.before time ((runOnce s : StateM World _).run q.before).1
        ((runOnce s : StateM World _).run q.before).2 q.answer q.after := by
  obtain ⟨last, found⟩ := exists_poll_eq input here
  obtain ⟨run, -, ⟨-, time, told, other⟩ | ⟨idle, -⟩⟩ := poll_cases input last q.before
  · rw [← found] at run told
    have relays := relays_runOnce s told other
    rw [run] at relays
    exact ⟨time, told, relays⟩
  · rw [← found] at idle
    exact absurd idle.1 asks

/-- An input that cannot be had is reported, and the watch goes on. -/
theorem after_of_unscanned {f : Failure} (input : s.input = some p)
    (here : (history s p changes w)[i]? = some q) (asks : q.reads ≠ [])
    (failed : s.scanned q.before = .error f) :
    q.GoesOn ∧ q.after = ((runOnce s : StateM World _).run q.before).2 ∧
      q.after =
        { q.before with errors := q.before.errors ++ ("error: " ++ f.message ++ "\n") } := by
  obtain ⟨time, told, relays⟩ := relays_of_asks input here asks
  have pass := pass_runOnce s q.before
  -- the path of an input whose time is told holds no null character
  have askable : s.Askable := fun p' named =>
    Option.some.inj (input.symm.trans named) ▸ hasNull_of_told? told
  have reported := (isReported_iff_of_unscanned failed).2 askable
  generalize (runOnce s : StateM World _).run q.before = once at pass relays ⊢
  obtain ⟨-, ended, left⟩ | ⟨silent, -⟩ := pass.of_unscanned failed
  · rw [ended] at relays
    generalize answered : q.answer = answer at relays
    generalize q.after = after at relays ⊢
    cases relays with
    | unread => exact ⟨⟨time, answered⟩, rfl, left⟩
    | scanned scanned => rw [failed] at scanned; cases scanned
  · rw [reported] at silent
    cases silent

/-- An input that can be had is scanned. What is said of it is said; then its listing is delivered,
a line tells that it was scanned, and the watch goes on, or the listing has no place to go, and the
watch ends. -/
theorem after_of_scanned {r : Scanned} (input : s.input = some p)
    (here : (history s p changes w)[i]? = some q) (asks : q.reads ≠ [])
    (scanned : s.scanned q.before = .ok r) :
    (∀ out, s.output = some out → q.before.Writable out) ∧ q.GoesOn ∧
        (let once := ((runOnce s : StateM World _).run q.before).2
         q.after = { once with errors := once.errors ++ ("Lexed " ++ p.text ++ "\n") }) ∧
        q.after.errors = q.before.errors ++ s.remarks r ++ ("Lexed " ++ p.text ++ "\n") ∧
        Delivered (s.listingOf r) q.before q.after s.output ∨
      ∃ out, s.output = some out ∧ ¬ q.before.Writable out ∧ (∃ f, q.answer = .error f) ∧
        q.after = { q.before with errors := q.before.errors ++ s.remarks r } := by
  obtain ⟨time, -, relays⟩ := relays_of_asks input here asks
  have pass := pass_runOnce s q.before
  generalize (runOnce s : StateM World _).run q.before = once at pass relays ⊢
  obtain ⟨errors, ⟨ended, delivered, writable⟩ | ⟨out, f, target, unwritable, ended, left⟩⟩ :=
    pass.of_scanned scanned
  · rw [ended] at relays
    generalize answered : q.answer = answer at relays
    generalize q.after = after at relays ⊢
    cases relays with
    | unread failed => rw [scanned] at failed; cases failed
    | scanned =>
      refine .inl ⟨writable, ⟨time, answered⟩, rfl, ?_, ?_⟩
      · rw [errors]
      · cases target : s.output <;> rw [target] at delivered <;> exact delivered
  · rw [ended] at relays
    generalize answered : q.answer = answer at relays
    generalize q.after = after at relays ⊢
    cases relays with
    | failed => exact .inr ⟨out, target, unwritable, ⟨f, rfl⟩, left⟩

/-- A poll that does not scan the input leaves all files as they are. -/
theorem tree_of_scan?_eq_none (input : s.input = some p)
    (here : (history s p changes w)[i]? = some q) (unscanned : q.scan? s = none) :
    q.after.tree = q.before.tree ∧ q.after.base = q.before.base := by
  unfold Poll.scan? at unscanned
  by_cases idle : q.reads = []
  · rw [after_of_idle input here idle]
    exact ⟨rfl, rfl⟩
  · rw [if_neg idle] at unscanned
    cases failed : s.scanned q.before with
    | ok r => rw [failed] at unscanned; cases unscanned
    | error f =>
      rw [(after_of_unscanned input here idle failed).2.2]
      exact ⟨rfl, rfl⟩

theorem scan?_eq_some {r : Scanned} (h : q.scan? s = some r) :
    q.reads ≠ [] ∧ s.scanned q.before = .ok r := by
  unfold Poll.scan? at h
  split at h
  case isTrue => cases h
  case isFalse asks =>
    cases scanned : s.scanned q.before with
    | error f => rw [scanned] at h; cases h
    | ok r' =>
      rw [scanned] at h
      obtain rfl := Option.some.inj h
      exact ⟨asks, rfl⟩

/-- A poll that scans the input and goes on leaves the listing in the output file. -/
theorem read_of_scan? {r : Scanned} {out : Path} (input : s.input = some p)
    (here : (history s p changes w)[i]? = some q) (goesOn : q.GoesOn)
    (target : s.output = some out) (scan : q.scan? s = some r) :
    q.after.tree.read q.after.base out = .ok (Text.Utf8.encode (s.listingOf r)) := by
  obtain ⟨asks, scanned⟩ := scan?_eq_some scan
  obtain ⟨-, -, after, -, delivered⟩ | ⟨-, -, -, ⟨f, failed⟩, -⟩ :=
    after_of_scanned input here asks scanned
  · have base : q.after.base = q.before.base := by
      rw [after]
      exact (pass_runOnce s q.before).base_eq
    rw [target] at delivered
    rw [base]
    exact delivered.2.1
  · obtain ⟨next, answered⟩ := goesOn
    rw [failed] at answered
    cases answered

end

/-! ## Polls in a row -/

section

variable {s : Settings} {p : Path} {changes : List Change} {w : World} {i : Nat}

/-- What is seen of all polls in a row, in two ways, is seen of the poll at a place. -/
theorem exists_of_maps_eq {β γ : Type} {view : Poll → β} {view' : Poll → γ} {qs : List Poll}
    {vs : List β} {vs' : List γ} {v : β} {v' : γ} (views : qs.map view = vs)
    (views' : qs.map view' = vs') (seen : vs[i]? = some v) (seen' : vs'[i]? = some v') :
    ∃ q, qs[i]? = some q ∧ view q = v ∧ view' q = v' := by
  rw [← views, List.getElem?_map] at seen
  obtain ⟨q, here, eq⟩ := Option.map_eq_some_iff.1 seen
  rw [← views', List.getElem?_map, here] at seen'
  exact ⟨q, here, eq, Option.some.inj seen'⟩

/-- A poll with another behind it has gone on. -/
theorem goesOn_of_succ {last : Seconds} {q q' : Poll}
    (h : (polls s p last changes w)[i]? = some q)
    (h' : (polls s p last changes w)[i + 1]? = some q') : q.GoesOn := by
  induction i generalizing last changes w with
  | zero =>
    obtain ⟨change, rest, next, rfl, answered, eq⟩ := polls_eq_cons h'
    rw [eq] at h
    obtain rfl := Option.some.inj h
    exact ⟨next, answered⟩
  | succ i ih =>
    obtain ⟨change, rest, next, rfl, -, eq⟩ := polls_eq_cons h'
    rw [eq] at h h'
    exact ih h h'

/-- In the pauses up to a poll the file at a path is left as it is. -/
def LeftAlone (out : Path) (qs : List Poll) (i : Nat) : Prop :=
  ∀ (k : Nat) (q q' : Poll), k < i → qs[k]? = some q → qs[k + 1]? = some q' →
    q'.before.tree.read q'.before.base out = q.after.tree.read q.after.base out

/-- The scans of a row of polls. -/
def scansOf (s : Settings) (qs : List Poll) : List Scanned := qs.filterMap (Poll.scan? s)

theorem getLast?_scansOf_take {qs : List Poll} {q : Poll} (here : qs[i]? = some q) :
    (scansOf s (qs.take (i + 1))).getLast? =
      (q.scan? s).or (scansOf s (qs.take i)).getLast? := by
  rw [scansOf, scansOf, List.take_add_one, here, Option.toList_some, List.filterMap_append,
    List.getLast?_append]
  cases scan : q.scan? s <;> simp [scan]

/-- The output file keeps the listing of the last scan as long as only the watch writes it. -/
theorem read_of_getLast?_scansOf {out : Path} (input : s.input = some p)
    (target : s.output = some out) {q : Poll} (here : (history s p changes w)[i]? = some q)
    (goesOn : q.GoesOn) (alone : LeftAlone out (history s p changes w) i) {r : Scanned}
    (latest : (scansOf s ((history s p changes w).take (i + 1))).getLast? = some r) :
    q.after.tree.read q.after.base out = .ok (Text.Utf8.encode (s.listingOf r)) := by
  induction i generalizing q with
  | zero =>
    rw [getLast?_scansOf_take here] at latest
    exact read_of_scan? input here goesOn target (by simpa [scansOf] using latest)
  | succ i ih =>
    rw [getLast?_scansOf_take here, Option.or_eq_some_iff] at latest
    obtain scan | ⟨unscanned, latest⟩ := latest
    · exact read_of_scan? input here goesOn target scan
    · -- what the poll before has left is what this one leaves
      obtain ⟨q₀, before⟩ : ∃ q₀, (history s p changes w)[i]? = some q₀ :=
        ⟨_, List.getElem?_eq_getElem (Nat.lt_of_succ_lt (List.getElem?_eq_some_iff.1 here).1)⟩
      have kept := ih before (goesOn_of_succ before here)
        (fun k q q' lt => alone k q q' (Nat.lt_succ_of_lt lt)) latest
      obtain ⟨tree, base⟩ := tree_of_scan?_eq_none input here unscanned
      rw [tree, base, alone i q₀ q (Nat.lt_succ_self i) before here, kept]

end

/-- A poll of a watch that asks for its input is a run without a watch, under the same settings and
in the world that the poll meets. An input that can be had, with a place for its listing, gives the
listing, the table and the problems of that run, and a line behind them that tells of the scan. An
input that cannot be had is reported as in that run, and leaves the rest of the world as it was.
Either way the watch goes on. So at each pause an output file that only the watch writes holds the
listing of the last scan, whatever could not be had since then. -/
theorem watch_repeats_run {s : Settings} {p : Path} (input : s.input = some p)
    (changes : List Change) (w : World) :
    let qs := history s p changes w
    (watch s p changes w).pauses = qs.filterMap Poll.pause? ∧
      (∀ (i : Nat) (q : Poll), qs[i]? = some q → q.reads ≠ [] →
        (∀ f, s.scanned q.before = .error f →
          q.GoesOn ∧
          q.after =
            { q.before with errors := q.before.errors ++ ("error: " ++ f.message ++ "\n") } ∧
          ∀ argv elsewhere, ComesTo argv q.before s →
            q.after = (run argv elsewhere q.before).final) ∧
        ∀ r, s.scanned q.before = .ok r →
          (∀ out, s.output = some out → q.before.Writable out) →
          q.GoesOn ∧
          q.after.errors = q.before.errors ++ s.remarks r ++ ("Lexed " ++ p.text ++ "\n") ∧
          Delivered (s.listingOf r) q.before q.after s.output ∧
          ∀ argv elsewhere, ComesTo argv q.before s →
            let once := (run argv elsewhere q.before).final
            q.after = { once with errors := once.errors ++ ("Lexed " ++ p.text ++ "\n") }) ∧
      ∀ (i : Nat) (q : Poll) (out : Path) (r : Scanned), qs[i]? = some q → q.GoesOn →
        s.output = some out → LeftAlone out qs i →
        (scansOf s (qs.take (i + 1))).getLast? = some r →
        q.after.tree.read q.after.base out = .ok (Text.Utf8.encode (s.listingOf r)) := by
  intro qs
  refine ⟨pauses_watchFrom input startOfTime changes _,
    fun i q here asks => ⟨fun f failed => ?_, fun r scanned writable => ?_⟩,
    fun i q out r here goesOn target alone => read_of_getLast?_scansOf input target here goesOn alone⟩
  · obtain ⟨goesOn, once, after⟩ := after_of_unscanned input here asks failed
    refine ⟨goesOn, after, fun argv elsewhere comes => ?_⟩
    rw [comes.final_eq, once]
  · obtain ⟨-, goesOn, once, errors, delivered⟩ | ⟨out, target, unwritable, -⟩ :=
      after_of_scanned input here asks scanned
    · refine ⟨goesOn, errors, delivered, fun argv elsewhere comes => ?_⟩
      dsimp only
      rw [comes.final_eq]
      exact once
    · exact absurd (writable out target) unwritable

/-- The input is scanned, and then replaced by bytes that are no text: the listing stays. -/
theorem watch_keeps_listing :
    let p : Path := ⟨.none, ["m"]⟩
    let out : Path := ⟨.none, ["out"]⟩
    let s : Settings := ⟨some p, some out, .text, true, false, true, false⟩
    let w := (World.blank 0).place "m" (Text.Utf8.encode "1")
    let qs := history s p [(·.place "m" [0xff]), id] w
    s.input = some p ∧ qs.map Poll.reads = [[p], [p], []] ∧
      (∃ q : Poll, qs[0]? = some q ∧ ComesTo ["m", "-o", "out"] q.before s ∧
        let once := (run ["m", "-o", "out"] [] q.before).final
        q.after = { once with errors := once.errors ++ "Lexed m\n" }) ∧
      (∃ q : Poll, qs[1]? = some q ∧ q.after.errors = q.before.errors ++
        "error: 'utf-8' codec can't decode byte 0xff in position 0: invalid start byte\n") ∧
      ∃ q : Poll, qs[2]? = some q ∧ q.after.tree.read q.after.base out =
        .ok (Text.Utf8.encode "1:1 INTEGER '1'\n1:2 EOF ''\n") := by
  intro p out s w qs
  let listing := Text.Utf8.encode "1:1 INTEGER '1'\n1:2 EOF ''\n"
  let r : Scanned := .ofText "m" "1"
  let fault : Failure := .text ⟨0, 0xff, 1, .startByte⟩
  have reads : qs.map Poll.reads = [[p], [p], []] := by decide +kernel
  -- of each poll: the scan of its input, the output file before and after it, if it goes on
  let view (q : Poll) := (s.scanned q.before, q.before.tree.read q.before.base out,
    q.after.tree.read q.after.base out, decide q.GoesOn)
  have views : qs.map view =
      [(.ok r, .error ⟨.missing, out⟩, .ok listing, true),
        (.error fault, .ok listing, .ok listing, true),
        (.error fault, .ok listing, .ok listing, true)] := by
    decide +kernel
  obtain ⟨q₀, here₀, asks₀, view₀⟩ := exists_of_maps_eq (i := 0) reads views rfl rfl
  obtain ⟨q₁, here₁, asks₁, view₁⟩ := exists_of_maps_eq (i := 1) reads views rfl rfl
  obtain ⟨q₂, here₂, -, view₂⟩ := exists_of_maps_eq (i := 2) reads views rfl rfl
  simp only [view, Prod.mk.injEq] at view₀ view₁ view₂
  obtain ⟨scanned₀, -, left₀, -⟩ := view₀
  obtain ⟨failed₁, met₁, left₁, -⟩ := view₁
  obtain ⟨-, met₂, -, goesOn₂⟩ := view₂
  obtain ⟨-, each, last⟩ := watch_repeats_run (s := s) rfl [(·.place "m" [0xff]), id] w
  have kept : q₂.after.tree.read q₂.after.base out = .ok listing := by
    have alone : LeftAlone out qs 2 := by
      intro k q q' lt here next
      match k, lt with
      | 0, _ =>
        obtain rfl := Option.some.inj (here₀.symm.trans here)
        obtain rfl := Option.some.inj (here₁.symm.trans next)
        rw [left₀, met₁]
      | 1, _ =>
        obtain rfl := Option.some.inj (here₁.symm.trans here)
        obtain rfl := Option.some.inj (here₂.symm.trans next)
        rw [left₁, met₂]
    have rendered : Text.Utf8.encode (s.listingOf r) = listing := by decide +kernel
    rw [← rendered]
    exact last 2 q₂ out r here₂ (of_decide_eq_true goesOn₂) rfl alone (by decide +kernel)
  have unread : q₁.after.errors = q₁.before.errors ++
      "error: 'utf-8' codec can't decode byte 0xff in position 0: invalid start byte\n" := by
    obtain ⟨-, after, -⟩ := (each 1 q₁ here₁ (by rw [asks₁]; decide)).1 fault failed₁
    rw [after]
    exact congrArg (q₁.before.errors ++ ·) (by decide +kernel)
  -- the first poll meets the world as it is when the watch is announced
  obtain rfl := Option.some.inj ((head_polls ..).symm.trans here₀)
  have comes : ComesTo ["m", "-o", "out"] ((announce p : StateM World Unit).run w).2 s :=
    ⟨⟨⟨some (.text "out"), none, none, none, false, false, false⟩, "m"⟩, by decide +kernel, rfl,
      by decide +kernel⟩
  have writable : ((announce p : StateM World Unit).run w).2.Writable out := by decide +kernel
  obtain ⟨-, -, -, repeats⟩ := (each 0 _ here₀ (by rw [asks₀]; decide)).2 r scanned₀
    fun out' named => Option.some.inj named ▸ writable
  exact ⟨rfl, reads, ⟨_, here₀, comes, repeats _ [] comes⟩, ⟨q₁, here₁, unread⟩, q₂, here₂, kept⟩

end MonkeyScan.Program
