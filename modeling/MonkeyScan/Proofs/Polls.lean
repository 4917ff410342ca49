import MonkeyScan.Proofs.Journal
import MonkeyScan.Proofs.SinglePass

/-!
When a watch reads its input. A look asks for the input just when it is told another time of change
than it remembers, and the time that it is told, if any, is the one to remember next (`poll_cases`).
So along a whole watch the time remembered is the last one told (`poll_of_getElem?`), and the polls
that read the input are those that are told another (`scans_iff_told`). At first sight nothing has
been told; the start of time, which is remembered then, stands in for it, so that a file that was
last changed just then is overlooked (`overlooked_at_start_of_time`).
-/

namespace MonkeyScan.Program

open MonkeyScan.Files

/-- When a file or folder was last changed, as a program is told it. Nothing is told of a path with
a null character. -/
def World.told? (w : World) (p : Path) : Option Seconds :=
  if p.hasNull then none else (w.tree.modified? w.base p).map Instant.seconds

theorem run_lastChange (p : Path) (w : World) :
    (lastChange p : StateM World _).run w =
      (if p.hasNull then .error .nullInPath else .ok (w.told? p), w) := by
  unfold lastChange World.told?
  split <;> rfl

/-! ## One look -/

section

variable {s : Settings} {p : Path} {last time : Seconds} {w : World}

theorem hasNull_of_told? (told : w.told? p = some time) : p.hasNull = false := by
  unfold World.told? at told
  split at told
  case isTrue => cases told
  case isFalse clean => exact Bool.eq_false_iff.2 clean

theorem run_lastChange_of_told? (told : w.told? p = some time) :
    (lastChange p : StateM World _).run w = (.ok (some time), w) := by
  rw [run_lastChange, hasNull_of_told? told, if_neg Bool.false_ne_true, told]

/-- A look that is told nothing, or the time that it remembers, asks for no file. -/
theorem records_look_idle (s : Settings) (idle : ∀ time, w.told? p = some time → time = last) :
    Records (look s p last) (look s p last) w [] := by
  refine (records_lastChange p w).bind ?_
  rw [run_lastChange]
  cases p.hasNull with
  | true => exact records_pure _ _
  | false =>
    rw [if_neg Bool.false_ne_true]
    cases told : w.told? p with
    | none => exact records_pure _ _
    | some time =>
      dsimp only
      rw [if_pos (idle time told), if_pos (idle time told)]
      exact records_pure _ _

/-- A path with a null character cannot be asked about, which ends the watch. -/
theorem look_of_hasNull (s : Settings) (null : p.hasNull = true) :
    (look s p last : StateM World _).run w = (.error .nullInPath, w) := by
  unfold look
  rw [run_bind, run_lastChange, null]
  rfl

/-- A look that is told nothing, or the time that it remembers, leaves the world as it is, and
remembers what it remembered. -/
theorem look_of_clean (s : Settings) (clean : p.hasNull = false)
    (idle : ∀ time, w.told? p = some time → time = last) :
    (look s p last : StateM World _).run w = (.ok last, w) := by
  unfold look
  rw [run_bind, run_lastChange, clean, if_neg Bool.false_ne_true]
  cases told : w.told? p with
  | none => rfl
  | some time =>
    dsimp only
    rw [if_pos (idle time told)]
    rfl

theorem look_idle (s : Settings) (idle : ∀ time, w.told? p = some time → time = last) :
    ∃ answer, (look s p last : StateM World _).run w = (answer, w) ∧
      ∀ next, answer = .ok next → next = last := by
  cases null : p.hasNull with
  | true => exact ⟨_, look_of_hasNull s null, nofun⟩
  | false =>
    exact ⟨_, look_of_clean s null idle, fun next answered => (Except.ok.inj answered).symm⟩

/-- A look that is told another time than it remembers asks for the input, and asks for it once. -/
theorem records_look_changed (input : s.input = some p) (told : w.told? p = some time)
    (other : time ≠ last) : Records (look s p last) (look s p last) w [p] := by
  refine (records_lastChange p w).bind ?_
  rw [run_lastChange_of_told? told]
  dsimp only
  rw [if_neg other, if_neg other]
  refine (records_examine input (hasNull_of_told? told) w).bind ?_
  cases ((examine s : StateM World _).run w).1 with
  | error f =>
    dsimp only
    split
    · exact (records_complain _ _).bind (records_pure _ _)
    · exact records_pure _ _
  | ok r =>
    refine (records_publish s r _).bind ?_
    cases ((publish s r : StateM World _).run ((examine s : StateM World _).run w).2).1 with
    | error f => exact records_pure _ _
    | ok _ => exact (records_lift _ _).bind (records_pure _ _)

/-- How a look passes on what a pass over its input comes to: a failure ends it, and else a line
tells that the input was scanned, if it was. -/
inductive Relays (s : Settings) (p : Path) (w : World) (time : Seconds) :
    Ending → World → Except Failure Seconds → World → Prop
  | failed {f : Failure} {final : World} : Relays s p w time (.failed f) final (.error f) final
  | unread {f : Failure} {status : Nat} {final : World} : s.scanned w = .error f →
      Relays s p w time (.finished status) final (.ok time) final
  | scanned {r : Scanned} {status : Nat} {final : World} : s.scanned w = .ok r →
      Relays s p w time (.finished status) final (.ok time)
        { final with errors := final.errors ++ ("Lexed " ++ p.text ++ "\n") }

/-- A look that is told another time than it remembers does what one pass over the input does. -/
theorem relays_runOnce (s : Settings) (told : w.told? p = some time) (other : time ≠ last) :
    Relays s p w time ((runOnce s : StateM World _).run w).1 ((runOnce s : StateM World _).run w).2
      ((look s p last : StateM World _).run w).1 ((look s p last : StateM World _).run w).2 := by
  unfold runOnce look
  rw [run_bind (lastChange p), run_lastChange_of_told? told]
  dsimp only
  rw [if_neg other, run_bind (examine s), run_bind (examine s)]
  -- from here on the look and the pass are the same program up to the line at its end
  cases scanned : s.scanned w with
  | error f =>
    rw [run_examine_error scanned]
    dsimp only
    cases f.isReported with
    | true => exact .unread scanned
    | false => exact .failed
  | ok r =>
    rw [run_examine_ok scanned]
    dsimp only
    rw [run_bind (publish s r), run_bind (publish s r)]
    generalize (publish s r : StateM World _).run _ = published
    obtain ⟨answer, final⟩ := published
    cases answer with
    | error f => exact .failed
    | ok _ => exact .scanned scanned

/-- A look that is told another time than it remembers is one pass over the input. -/
theorem look_changed (s : Settings) (told : w.told? p = some time) (other : time ≠ last) :
    ∃ ending final, Pass s w ending final ∧
      Relays s p w time ending final ((look s p last : StateM World _).run w).1
        ((look s p last : StateM World _).run w).2 :=
  ⟨_, _, pass_runOnce s w, relays_runOnce s told other⟩

/-- Whatever comes of the pass, the time told is the next to remember. -/
theorem Relays.next_eq {ending : Ending} {final after : World} {next : Seconds}
    (h : Relays s p w time ending final (.ok next) after) : next = time := by
  cases h <;> rfl

end

/-! ## Polls -/

/-- One poll of a watch: the world that it meets, the files whose bytes it asks for, its answer, and
the world that it leaves. -/
structure Poll where
  before : World
  reads : List Path
  answer : Except Failure Seconds
  after : World

/-- The world at the pause behind a poll, if there is one. -/
def Poll.pause? (q : Poll) : Option World :=
  match q.answer with
  | .ok _ => some q.after
  | .error _ => none

/-- The poll scans the input: it asks for it once, and does what one pass does. -/
def Poll.Scans (s : Settings) (p : Path) (q : Poll) : Prop :=
  q.reads = [p] ∧ ∃ time ending final, Pass s q.before ending final ∧
    Relays s p q.before time ending final q.answer q.after

/-- The poll asks for no file and leaves the world as it is. -/
def Poll.Idle (q : Poll) : Prop := q.reads = [] ∧ q.after = q.before

/-- A look as a poll, with a journal that is empty before it. -/
def poll (s : Settings) (p : Path) (last : Seconds) (w : World) : Poll :=
  let (answer, j) := (look s p last : StateM Journal _).run ⟨w, []⟩
  { before := w, reads := j.reads, answer, after := j.world }

/-- The polls of a watch, with the changes of the world in the pauses between them. -/
def polls (s : Settings) (p : Path) (last : Seconds) : List Change → World → List Poll
  | [], w => [poll s p last w]
  | change :: changes, w =>
    let q := poll s p last w
    match q.answer with
    | .ok next => q :: polls s p next changes (change q.after)
    | .error _ => [q]

/-- The polls of a watch from its start. -/
def history (s : Settings) (p : Path) (changes : List Change) (w : World) : List Poll :=
  polls s p startOfTime changes ((announce p : StateM World Unit).run w).2

section

variable {s : Settings} {p : Path}

theorem poll_eq_of_records {last : Seconds} {w : World} {asked : List Path}
    (recorded : Records (look s p last) (look s p last) w asked) :
    poll s p last w = ⟨w, asked, ((look s p last : StateM World _).run w).1,
      ((look s p last : StateM World _).run w).2⟩ := by
  unfold poll
  rw [recorded []]
  rfl

/-- What one poll does: it scans its input if it is told another time than the one remembered, and
else it is idle. The time to remember next is the one told, if one is told. -/
theorem poll_cases (input : s.input = some p) (last : Seconds) (w : World) :
    let q := poll s p last w
    (look s p last : StateM World _).run w = (q.answer, q.after) ∧
      (∀ next, q.answer = .ok next → next = (q.before.told? p).getD last) ∧
      (q.Scans s p ∧ (∃ time, q.before.told? p = some time ∧ time ≠ last) ∨
        q.Idle ∧ ∀ time, q.before.told? p = some time → time = last) := by
  intro q
  by_cases changed : ∃ time, w.told? p = some time ∧ time ≠ last
  · obtain ⟨time, told, other⟩ := changed
    obtain ⟨ending, final, pass, relays⟩ := look_changed s told other
    rw [show q = _ from poll_eq_of_records (records_look_changed input told other)]
    refine ⟨rfl, fun next answered => ?_,
      .inl ⟨⟨rfl, time, ending, final, pass, relays⟩, time, told, other⟩⟩
    dsimp only at answered ⊢
    rw [answered] at relays
    rw [told, relays.next_eq]
    rfl
  · have idle : ∀ time, w.told? p = some time → time = last := fun time told =>
      Decidable.byContradiction fun other => changed ⟨time, told, other⟩
    obtain ⟨answer, run, remembered⟩ := look_idle s idle
    rw [show q = _ from poll_eq_of_records (records_look_idle s idle), run]
    refine ⟨rfl, fun next answered => ?_, .inr ⟨⟨rfl, rfl⟩, idle⟩⟩
    rw [remembered next answered]
    dsimp only
    cases told : w.told? p with
    | none => rfl
    | some time => exact (idle time told).symm

theorem head_polls (s : Settings) (p : Path) (last : Seconds) (changes : List Change)
    (w : World) : (polls s p last changes w)[0]? = some (poll s p last w) := by
  cases changes with
  | nil => rfl
  | cons change changes =>
    rw [polls]
    split <;> rfl

/-- If there is a poll behind the first, the first has come to its end, and the others follow upon
the change behind it. -/
theorem polls_eq_cons {last : Seconds} {changes : List Change} {w : World} {i : Nat}
    {q : Poll} (h : (polls s p last changes w)[i + 1]? = some q) :
    ∃ change rest next, changes = change :: rest ∧ (poll s p last w).answer = .ok next ∧
      polls s p last changes w =
        poll s p last w :: polls s p next rest (change (poll s p last w).after) := by
  cases changes with
  | nil => cases h
  | cons change rest =>
    rw [polls] at h ⊢
    cases answered : (poll s p last w).answer with
    | error f => rw [answered] at h; cases h
    | ok next => exact ⟨change, rest, next, rfl, rfl, rfl⟩

/-- The polls are those of the watch: their worlds are the ones at its pauses. -/
theorem pauses_watchFrom (input : s.input = some p) (last : Seconds)
    (changes : List Change) (w : World) :
    (watchFrom s p last changes w).pauses = (polls s p last changes w).filterMap Poll.pause? := by
  have run := fun last w => (poll_cases input last w).1
  induction changes generalizing last w with
  | nil =>
    unfold watchFrom polls
    rw [run]
    cases answer : (poll s p last w).answer <;> simp [Poll.pause?, answer]
  | cons change changes ih =>
    unfold watchFrom polls
    rw [run]
    cases answer : (poll s p last w).answer with
    | error f => simp [Poll.pause?, answer]
    | ok next => simp [Poll.pause?, answer, ih]

/-- Each poll meets what the change behind the one before makes of the world. -/
theorem before_polls {last : Seconds} {changes : List Change} {w : World} {i : Nat}
    {q q' : Poll} (h : (polls s p last changes w)[i]? = some q)
    (h' : (polls s p last changes w)[i + 1]? = some q') :
    ∃ change, changes[i]? = some change ∧ q'.before = change q.after := by
  induction i generalizing last changes w with
  | zero =>
    obtain ⟨change, rest, next, rfl, -, eq⟩ := polls_eq_cons h'
    rw [eq] at h h'
    obtain rfl := Option.some.inj h
    obtain rfl := Option.some.inj ((head_polls ..).symm.trans h')
    exact ⟨change, rfl, rfl⟩
  | succ i ih =>
    obtain ⟨change, rest, next, rfl, -, eq⟩ := polls_eq_cons h'
    rw [eq] at h h'
    exact ih h h'

/-- The times that are told in polls. -/
def timesTold (p : Path) (qs : List Poll) : List Seconds := qs.filterMap fun q => q.before.told? p

/-- Along a watch the time remembered is the last one told, and at first the one it starts with. -/
theorem poll_of_getElem? (input : s.input = some p) {last : Seconds} {changes : List Change}
    {w : World} {i : Nat} {q : Poll} (h : (polls s p last changes w)[i]? = some q) :
    ∃ w', q = poll s p
      ((timesTold p ((polls s p last changes w).take i)).getLast?.getD last) w' := by
  induction i generalizing last changes w with
  | zero => exact ⟨w, Option.some.inj (h.symm.trans (head_polls ..))⟩
  | succ i ih =>
    obtain ⟨change, rest, next, -, answered, eq⟩ := polls_eq_cons h
    rw [eq] at h ⊢
    obtain ⟨w', found⟩ := ih h
    -- what the first poll hands on is forgotten as soon as a later one is told a time
    obtain rfl := (poll_cases input last w).2.1 next answered
    refine ⟨w', ?_⟩
    rw [found, List.take_succ_cons, timesTold, timesTold, List.filterMap_cons]
    cases (poll s p last w).before.told? p with
    | none => rfl
    | some time =>
      rw [List.getLast?_cons]
      rfl

end

/-- When a watch scans its input, poll by poll. It does so just when it is told a time of change
that is another than the last one told in an earlier poll; at first sight, when none was told
before, when it is not the start of time. It asks for the input once then, and in any other poll it
leaves the whole world as it is. The polls are those of the watch, with the changes of the pauses
between them. -/
theorem scans_iff_told {s : Settings} {p : Path} (input : s.input = some p)
    (changes : List Change) (w : World) :
    let qs := history s p changes w
    (watch s p changes w).pauses = qs.filterMap Poll.pause? ∧
      (∀ i q q', qs[i]? = some q → qs[i + 1]? = some q' →
        ∃ change, changes[i]? = some change ∧ q'.before = change q.after) ∧
      ∀ i q, qs[i]? = some q →
        let earlier := timesTold p (qs.take i)
        (q.Scans s p ↔ ∃ time, q.before.told? p = some time ∧
          (earlier = [] ∧ time ≠ startOfTime ∨
            ∃ last, earlier.getLast? = some last ∧ time ≠ last)) ∧
        (q.Scans s p ∨ q.Idle) := by
  intro qs
  refine ⟨pauses_watchFrom input startOfTime changes _, fun i q q' => before_polls, ?_⟩
  intro i q here earlier
  obtain ⟨w', (found : q = poll s p (earlier.getLast?.getD startOfTime) w')⟩ :=
    poll_of_getElem? input here
  obtain ⟨-, -, ways⟩ := poll_cases input (earlier.getLast?.getD startOfTime) w'
  rw [← found] at ways
  have other_iff : ∀ time, time ≠ earlier.getLast?.getD startOfTime ↔
      earlier = [] ∧ time ≠ startOfTime ∨ ∃ last, earlier.getLast? = some last ∧ time ≠ last := by
    intro time
    rw [← List.getLast?_eq_none_iff]
    cases earlier.getLast? <;> simp
  refine ⟨⟨fun scans => ?_, ?_⟩, ways.imp And.left And.left⟩
  · obtain ⟨-, time, told, other⟩ | ⟨idle, -⟩ := ways
    · exact ⟨time, told, (other_iff time).1 other⟩
    · exact absurd (scans.1.symm.trans idle.1) (List.cons_ne_nil _ _)
  · rintro ⟨time, told, other⟩
    obtain ⟨scans, -⟩ | ⟨-, same⟩ := ways
    · exact scans
    · exact absurd (same time told) ((other_iff time).2 other)

/-- A file appears, stays, is taken away, comes back with the same time, and gets another. -/
theorem idle_when_restored :
    let p : Path := ⟨.none, ["m"]⟩
    let s : Settings := ⟨some p, none, .text, true, false, true, false⟩
    let put : Change := fun w => (w.place "m" (Text.Utf8.encode "1")).stamp "m" 1
    let changes : List Change := [put, id, (·.remove "m"), put, (·.stamp "m" 2)]
    (history s p changes (World.blank 0)).map Poll.reads = [[], [p], [], [], [], [p]] ∧
      (∃ q, (history s p changes (World.blank 0))[1]? = some q ∧ q.Scans s p) ∧
      ∃ q, (history s p changes (World.blank 0))[4]? = some q ∧ q.Idle := by
  intro p s put changes
  have reads : (history s p changes (World.blank 0)).map Poll.reads =
      [[], [p], [], [], [], [p]] := by
    decide +kernel
  have polled : ∀ (i : Nat) (asked : List Path), [[], [p], [], [], [], [p]][i]? = some asked →
      ∃ q : Poll, (history s p changes (World.blank 0))[i]? = some q ∧ q.reads = asked := by
    intro i asked here
    rw [← reads, List.getElem?_map] at here
    exact Option.map_eq_some_iff.1 here
  have ways : ∀ (i : Nat) (q : Poll), (history s p changes (World.blank 0))[i]? = some q →
      q.Scans s p ∨ q.Idle := fun i q here =>
    ((scans_iff_told rfl changes (World.blank 0)).2.2 i q here).2
  obtain ⟨q, here, read⟩ := polled 1 [p] rfl
  obtain ⟨q', here', unread⟩ := polled 4 [] rfl
  refine ⟨reads, ⟨q, here, ?_⟩, q', here', ?_⟩
  · obtain scans | idle := ways 1 q here
    · exact scans
    · exact absurd (read.symm.trans idle.1) (List.cons_ne_nil _ _)
  · obtain scans | idle := ways 4 q' here'
    · exact absurd (scans.1.symm.trans unread) (List.cons_ne_nil _ _)
    · exact idle

/-- A file that is last changed at the start of time is overlooked at first sight. -/
theorem overlooked_at_start_of_time :
    ¬ ∀ s p changes w, s.input = some p → ∀ i q, (history s p changes w)[i]? = some q →
      (q.Scans s p ↔ ∃ time, q.before.told? p = some time ∧
        ∀ last, (timesTold p ((history s p changes w).take i)).getLast? = some last →
          time ≠ last) := by
  intro all
  let p : Path := ⟨.none, ["m"]⟩
  let s : Settings := ⟨some p, none, .text, true, false, true, false⟩
  let w := ((World.blank 0).place "m" (Text.Utf8.encode "1")).stamp "m" 0
  obtain ⟨q, here⟩ : ∃ q, (history s p [] w)[0]? = some q := ⟨_, head_polls ..⟩
  have told : ((history s p [] w)[0]?).map (·.before.told? p) = some (some startOfTime) := by
    decide +kernel
  have unread : ((history s p [] w)[0]?).map Poll.reads = some [] := by decide +kernel
  rw [here] at told unread
  have scans := (all s p [] w rfl 0 q here).2 ⟨startOfTime, Option.some.inj told, nofun⟩
  exact absurd (scans.1.symm.trans (Option.some.inj unread)) (List.cons_ne_nil _ _)

end MonkeyScan.Program
