import MonkeyScan.Proofs.Rescans

/-!
What ends a watch. A poll goes on to the next pause whatever cannot be asked about, read or decoded,
unless the path of the input holds a null character; but it ends the watch when there is a listing
and no place for it (`goesOn_iff`). So a watch ends in one of two ways: it is interrupted in its
last pause, or its last poll does not go on (`ending_watchFrom`). Main statement:
`interrupted_or_unwritable`.
-/

namespace MonkeyScan.Program

open MonkeyScan.Files

section

variable {argv : List String} {a : CommandLine.Arguments} {s : Settings} {p : Path} {w : World}

/-- With settings that want a watch, a run is the watch. -/
theorem run_watched (accepted : CommandLine.parse argv = .ok a) (watched : a.watch = true)
    (settled : w.settings a = .ok s) (input : s.input = some p) (changes : List Change) :
    run argv changes w = watch s p changes w := by
  have wanted : s.watch = true := (settings_eq_ok settled).2.2.1.trans watched
  unfold run
  rw [prepare_of_settled accepted settled]
  dsimp only
  rw [input, wanted]

/-- When a poll goes on: when the input can be asked about, and a listing has a place to go. -/
theorem goesOn_iff (input : s.input = some p) {changes : List Change} {i : Nat} {q : Poll}
    (here : (history s p changes w)[i]? = some q) :
    q.GoesOn ↔ p.hasNull = false ∧ ∀ r out, q.reads ≠ [] → s.scanned q.before = .ok r →
      s.output = some out → q.before.Writable out := by
  obtain ⟨last, found⟩ := exists_poll_eq input here
  obtain ⟨run, -, ways⟩ := poll_cases input last q.before
  rw [← found] at run ways
  cases null : p.hasNull with
  | true =>
    rw [look_of_hasNull s null] at run
    refine ⟨fun ⟨next, answered⟩ => ?_, nofun⟩
    rw [answered] at run
    cases run
  | false =>
    obtain ⟨scans, -⟩ | ⟨idle, same⟩ := ways
    · have asks : q.reads ≠ [] := scans.1.symm ▸ List.cons_ne_nil _ _
      cases scanned : s.scanned q.before with
      | error f =>
        exact ⟨fun _ => ⟨rfl, nofun⟩, fun _ => (after_of_unscanned input here asks scanned).1⟩
      | ok r =>
        obtain ⟨writable, goesOn, -⟩ | ⟨out, target, unwritable, ⟨f, failed⟩, -⟩ :=
          after_of_scanned input here asks scanned
        · exact ⟨fun _ => ⟨rfl, fun _ out _ _ => writable out⟩, fun _ => goesOn⟩
        · refine ⟨fun ⟨next, answered⟩ => ?_, fun ⟨_, writable⟩ => ?_⟩
          · rw [failed] at answered
            cases answered
          · exact absurd (writable r out asks rfl target) unwritable
    · rw [look_of_clean s null same] at run
      exact ⟨fun _ => ⟨rfl, fun _ _ asks => absurd idle.1 asks⟩,
        fun _ => ⟨last, (congrArg Prod.fst run).symm⟩⟩

/-- A watch ends when it is interrupted, or when its last poll fails. -/
theorem ending_watchFrom (input : s.input = some p) (last : Seconds) (changes : List Change)
    (w : World) :
    let t := watchFrom s p last changes w
    let qs := polls s p last changes w
    t.ending = .finished 0 ∧ qs.length = changes.length + 1 ∧ (∀ q ∈ qs, q.GoesOn) ∨
      ∃ q f, qs.getLast? = some q ∧ q.answer = .error f ∧ t.ending = .failed f := by
  have run := fun last w => (poll_cases input last w).1
  induction changes generalizing last w with
  | nil =>
    unfold watchFrom polls
    rw [run]
    generalize poll s p last w = q
    obtain ⟨before, reads, answer, after⟩ := q
    cases answer with
    | error f => exact .inr ⟨_, f, rfl, rfl, rfl⟩
    | ok next => exact .inl ⟨rfl, rfl, fun q mem => List.mem_singleton.1 mem ▸ ⟨next, rfl⟩⟩
  | cons change changes ih =>
    unfold watchFrom polls
    rw [run]
    generalize poll s p last w = q
    obtain ⟨before, reads, answer, after⟩ := q
    cases answer with
    | error f => exact .inr ⟨_, f, rfl, rfl, rfl⟩
    | ok next =>
      dsimp only
      have inhabited : polls s p next changes (change after) ≠ [] :=
        List.ne_nil_of_mem (List.mem_of_getElem? (head_polls ..))
      rw [List.getLast?_cons_of_ne_nil inhabited]
      obtain ⟨ended, length, goOn⟩ | failed := ih next (change after)
      · refine .inl ⟨ended, congrArg Nat.succ length, fun q mem => ?_⟩
        obtain rfl | mem := List.mem_cons.1 mem
        · exact ⟨next, rfl⟩
        · exact goOn q mem
      · exact .inr failed

end

/-- A watch goes on from poll to poll until it is interrupted, and then its status is zero. What it
cannot ask about is passed over in silence, and what it cannot read or decode is reported; neither
ends it. It goes on from each poll but when the path of the input holds a null character, or when
the input was scanned and its listing has no place to go. Such a poll ends it as a failure, without
a report of what failed; nothing else ends it, whatever the world comes to in the pauses. -/
theorem interrupted_or_unwritable {argv : List String} {a : CommandLine.Arguments} {s : Settings}
    {w : World} (accepted : CommandLine.parse argv = .ok a) (watched : a.watch = true)
    (settled : w.settings a = .ok s) (changes : List Change) :
    ∃ p, s.input = some p ∧
      let t := run argv changes w
      let qs := history s p changes w
      t.pauses = qs.filterMap Poll.pause? ∧
      (∀ (i : Nat) (q : Poll), qs[i]? = some q →
        (q.GoesOn ↔ p.hasNull = false ∧ ∀ r out, q.reads ≠ [] → s.scanned q.before = .ok r →
          s.output = some out → q.before.Writable out) ∧
        (q.before.told? p = none → q.after = q.before) ∧
        (∀ f, q.reads ≠ [] → s.scanned q.before = .error f → q.after =
          { q.before with errors := q.before.errors ++ ("error: " ++ f.message ++ "\n") }) ∧
        ∀ r out, q.reads ≠ [] → s.scanned q.before = .ok r → s.output = some out →
          ¬ q.before.Writable out →
          q.after = { q.before with errors := q.before.errors ++ s.remarks r }) ∧
      (t.ending = .finished 0 ∧ qs.length = changes.length + 1 ∧ (∀ q ∈ qs, q.GoesOn) ∨
        ∃ q f, qs.getLast? = some q ∧ q.answer = .error f ∧ t.ending = .failed f) := by
  obtain ⟨-, -, wanted, -, unmissed⟩ := settings_eq_ok settled
  obtain ⟨p, input⟩ := Option.ne_none_iff_exists'.1 (unmissed (wanted.trans watched))
  refine ⟨p, input, ?_⟩
  dsimp only
  rw [run_watched accepted watched settled input]
  refine ⟨pauses_watchFrom input startOfTime changes _, fun i q here =>
    ⟨goesOn_iff input here, fun untold => ?_, fun f asks failed => ?_,
      fun r out asks scanned target unwritable => ?_⟩,
    ending_watchFrom input startOfTime changes _⟩
  · by_cases idle : q.reads = []
    · exact after_of_idle input here idle
    · obtain ⟨time, told, -⟩ := relays_of_asks input here idle
      rw [untold] at told
      cases told
  · exact (after_of_unscanned input here asks failed).2.2
  · obtain ⟨writable, -⟩ | ⟨-, -, -, -, after⟩ := after_of_scanned input here asks scanned
    · exact absurd (writable out target) unwritable
    · exact after

/-- A folder in the place of the input is survived, a folder in the place of the output is not. -/
theorem ended_by_folder :
    let argv := ["m", "--watch", "-o", "out"]
    let w := (World.blank 0).place "m" (Text.Utf8.encode "1")
    let a : CommandLine.Arguments :=
      ⟨⟨some (.text "out"), none, none, none, false, true, false⟩, "m"⟩
    let out : Path := ⟨.none, ["out"]⟩
    let s : Settings := ⟨some ⟨.none, ["m"]⟩, some out, .text, true, false, true, false⟩
    let changes : List Change := [fun w => (w.remove "m").placeFolder "m", fun w =>
      (((w.remove "m").place "m" (Text.Utf8.encode "2")).remove "out").placeFolder "out"]
    let qs := history s ⟨.none, ["m"]⟩ changes w
    CommandLine.parse argv = .ok a ∧ a.watch = true ∧ w.settings a = .ok s ∧
      (∃ q : Poll, qs[1]? = some q ∧ q.GoesOn ∧
        q.after.errors = q.before.errors ++ "error: [Errno 21] Is a directory: 'm'\n") ∧
      (∃ q : Poll, qs[2]? = some q ∧ ¬ q.GoesOn ∧ q.after.errors = q.before.errors) ∧
      (run argv changes w).ending = .failed (.file ⟨.isFolder, out⟩) := by
  intro argv w a out s changes qs
  have accepted : CommandLine.parse argv = .ok a := by decide +kernel
  have settled : w.settings a = .ok s := by decide +kernel
  let unread : Failure := .file ⟨.isFolder, ⟨.none, ["m"]⟩⟩
  have reads : qs.map Poll.reads = [[⟨.none, ["m"]⟩], [⟨.none, ["m"]⟩], [⟨.none, ["m"]⟩]] := by
    decide +kernel
  -- of each poll: the scan of its input, and whether the output has a place
  let view (q : Poll) := (s.scanned q.before, decide (q.before.Writable out))
  have views : qs.map view =
      [(.ok (.ofText "m" "1"), true), (.error unread, true), (.ok (.ofText "m" "2"), false)] := by
    decide +kernel
  obtain ⟨q₁, here₁, asks₁, view₁⟩ := exists_of_maps_eq (i := 1) reads views rfl rfl
  obtain ⟨q₂, here₂, asks₂, view₂⟩ := exists_of_maps_eq (i := 2) reads views rfl rfl
  simp only [view, Prod.mk.injEq] at view₁ view₂
  obtain ⟨failed₁, -⟩ := view₁
  obtain ⟨scanned₂, placeless₂⟩ := view₂
  obtain ⟨p, input, -, each, -⟩ := interrupted_or_unwritable accepted rfl settled changes
  obtain rfl : ⟨.none, ["m"]⟩ = p := Option.some.inj input
  obtain ⟨goesOn₁, -, reported, -⟩ := each 1 q₁ here₁
  obtain ⟨goesOn₂, -, -, unreported⟩ := each 2 q₂ here₂
  have asks : q₂.reads ≠ [] := asks₂ ▸ List.cons_ne_nil _ _
  have unwritable : ¬ q₂.before.Writable out := of_decide_eq_false placeless₂
  refine ⟨accepted, rfl, settled, ⟨q₁, here₁, ?_, ?_⟩, ⟨q₂, here₂, ?_, ?_⟩, by decide +kernel⟩
  · refine goesOn₁.2 ⟨by decide +kernel, fun r out asks scanned => ?_⟩
    rw [failed₁] at scanned
    cases scanned
  · rw [reported unread (asks₁ ▸ List.cons_ne_nil _ _) failed₁]
    exact congrArg (q₁.before.errors ++ ·) (by decide +kernel)
  · exact fun goesOn => unwritable ((goesOn₂.1 goesOn).2 _ out asks scanned₂ rfl)
  · rw [unreported _ out asks scanned₂ rfl unwritable]
    exact (congrArg (q₂.before.errors ++ ·) (by decide +kernel)).trans (String.append_empty ..)

/-- The folder of the output file is missing: the watch ends before it can be interrupted. -/
theorem ended_by_missing_folder :
    ¬ ∀ argv w a s, CommandLine.parse argv = .ok a → a.watch = true → w.settings a = .ok s →
      (run argv [] w).ending = .finished 0 := by
  intro all
  have accepted : CommandLine.parse ["m", "--watch", "-o", "no/out"] =
      .ok ⟨⟨some (.text "no/out"), none, none, none, false, true, false⟩, "m"⟩ := by
    decide +kernel
  have settled : ((World.blank 0).place "m" (Text.Utf8.encode "1")).settings
      ⟨⟨some (.text "no/out"), none, none, none, false, true, false⟩, "m"⟩ =
      .ok ⟨some ⟨.none, ["m"]⟩, some ⟨.none, ["no", "out"]⟩, .text, true, false, true, false⟩ := by
    decide +kernel
  have ended : (run ["m", "--watch", "-o", "no/out"] []
      ((World.blank 0).place "m" (Text.Utf8.encode "1"))).ending =
      .failed (.file ⟨.missing, ⟨.none, ["no", "out"]⟩⟩) := by
    decide +kernel
  have finished := all _ _ _ _ accepted rfl settled
  rw [ended] at finished
  cases finished

end MonkeyScan.Program
