import MonkeyScan.Proofs.SinglePass
import MonkeyScan.Proofs.TwoReadings

/-!
Where the listing of a run goes, and that nothing else changes. A pass either delivers its listing,
all of it and in one place, or leaves the files and the standard output as they were
(`Pass.delivered_or_left`); on the way to its settings a run writes to the standard output only when
it is asked for help (`Prepared.left`). Main statement: `run_delivers_or_leaves`.
-/

namespace MonkeyScan.Program

open MonkeyScan.Files

/-- The location that the output option of a command line names. -/
def NamesOutput (argv : List String) (w : World) (loc : Location) : Prop :=
  ∃ a p, CommandLine.parse argv = .ok a ∧ Settings.path? a.output = some p ∧
    w.tree.locate w.base p = .ok loc

/-- From one world to another a listing is delivered: as the file at a path if there is one, else on
the standard output, and nowhere else. -/
def Delivered (listing : String) (w w' : World) : Option Path → Prop
  | none => w'.output = w.output ++ listing ∧ w'.tree = w.tree
  | some p =>
    w'.output = w.output ∧ w'.tree.read w.base p = .ok (Text.Utf8.encode listing) ∧
      w.tree.SameBut (fun loc => w.tree.locate w.base p = .ok loc) w'.tree

theorem Delivered.sameBut {listing : String} {w w' : World} {target : Option Path}
    (h : Delivered listing w w' target) :
    w.tree.SameBut (fun loc => ∃ p, target = some p ∧ w.tree.locate w.base p = .ok loc)
      w'.tree := by
  cases target with
  | none =>
    rw [h.2]
    exact Tree.sameBut_refl _ _
  | some p => exact h.2.2.mono fun loc found => ⟨p, rfl, found⟩

section

variable {s : Settings} {w : World}

/-- The input is scanned when its bytes can be had and are a text in UTF-8. -/
theorem scanned_eq_ok_iff {r : Scanned} :
    s.scanned w = .ok r ↔ ∃ bytes text, s.inputBytes w = .ok bytes ∧
      Text.Utf8.decode bytes = .ok text ∧ r = .ofText s.inputName (Text.uniform text) := by
  unfold Settings.scanned
  cases input : s.inputBytes w with
  | error f =>
    refine ⟨nofun, ?_⟩
    rintro ⟨bytes, text, h, -⟩
    cases h
  | ok bytes =>
    change Scanned.ofBytes s.inputName bytes = .ok r ↔ _
    unfold Scanned.ofBytes
    cases decoded : Text.Utf8.decode bytes with
    | error f =>
      refine ⟨nofun, ?_⟩
      rintro ⟨_, text, h, decoded', -⟩
      obtain rfl := Except.ok.inj h
      rw [decoded] at decoded'
      cases decoded'
    | ok text =>
      constructor
      · intro h
        exact ⟨bytes, text, rfl, decoded, (Except.ok.inj h).symm⟩
      · rintro ⟨_, text', h, decoded', rfl⟩
        obtain rfl := Except.ok.inj h
        obtain rfl := Except.ok.inj (decoded.symm.trans decoded')
        rfl

theorem status_eq (s : Settings) (r : Scanned) : s.status r = 0 ∨ s.status r = 1 := by
  unfold Settings.status
  split
  · exact .inr rfl
  · exact .inl rfl

section

variable {ending : Ending} {final : World}

/-- A pass over an input that is scanned says what there is to say of it and delivers its listing,
unless there is an output file that cannot be written. -/
theorem Pass.of_scanned {r : Scanned} (h : Pass s w ending final) (scanned : s.scanned w = .ok r) :
    final.errors = w.errors ++ s.remarks r ∧
      (ending = .finished (s.status r) ∧ Delivered (s.listingOf r) w final s.output ∧
          (∀ p, s.output = some p → w.Writable p) ∨
        ∃ p f, s.output = some p ∧ ¬ w.Writable p ∧ ending = .failed f ∧
          final = { w with errors := w.errors ++ s.remarks r }) := by
  cases h with
  | unread failed | unaskable failed => rw [scanned] at failed; cases failed
  | shown scanned' target =>
    obtain rfl := Except.ok.inj (scanned.symm.trans scanned')
    rw [target]
    exact ⟨rfl, .inl ⟨rfl, ⟨rfl, rfl⟩, nofun⟩⟩
  | written scanned' target writable made =>
    obtain rfl := Except.ok.inj (scanned.symm.trans scanned')
    obtain ⟨loc, found, content, same⟩ := Tree.sameBut_write made
    rw [target]
    refine ⟨rfl, .inl ⟨rfl, ⟨rfl, Tree.read_of_sameBut found content same,
      same.mono fun _ eq => eq ▸ found⟩, fun p named => ?_⟩⟩
    exact Option.some.inj named ▸ writable
  | unwritten scanned' target unwritable =>
    obtain rfl := Except.ok.inj (scanned.symm.trans scanned')
    exact ⟨rfl, .inr ⟨_, _, target, unwritable, rfl, rfl⟩⟩

/-- A pass over an input that cannot be had reports it, or fails with it, and does no more. -/
theorem Pass.of_unscanned {f : Failure} (h : Pass s w ending final)
    (failed : s.scanned w = .error f) :
    f.isReported = true ∧ ending = .finished 2 ∧
        final = { w with errors := w.errors ++ ("error: " ++ f.message ++ "\n") } ∨
      f.isReported = false ∧ ending = .failed f ∧ final = w := by
  cases h with
  | unread failed' reported =>
    obtain rfl := Except.error.inj (failed.symm.trans failed')
    exact .inl ⟨reported, rfl, rfl⟩
  | unaskable failed' silent =>
    obtain rfl := Except.error.inj (failed.symm.trans failed')
    exact .inr ⟨silent, rfl, rfl⟩
  | shown scanned | written scanned | unwritten scanned => rw [failed] at scanned; cases scanned

/-- One pass delivers the whole listing, or nothing. -/
theorem Pass.delivered_or_left (h : Pass s w ending final) :
    (∃ r, s.scanned w = .ok r ∧ ending = .finished (s.status r) ∧
        Delivered (s.listingOf r) w final s.output) ∨
      (ending = .finished 2 ∨ ∃ f, ending = .failed f) ∧ final.tree = w.tree ∧
        final.output = w.output := by
  cases scanned : s.scanned w with
  | ok r =>
    obtain ⟨ended, delivered, -⟩ | ⟨p, f, -, -, ended, rfl⟩ := (h.of_scanned scanned).2
    · exact .inl ⟨r, rfl, ended, delivered⟩
    · exact .inr ⟨.inr ⟨f, ended⟩, rfl, rfl⟩
  | error f =>
    obtain ⟨-, ended, rfl⟩ | ⟨-, ended, rfl⟩ := h.of_unscanned scanned
    · exact .inr ⟨.inl ended, rfl, rfl⟩
    · exact .inr ⟨.inr ⟨f, ended⟩, rfl, rfl⟩

end

theorem Prepared.left {argv : List String} {ending : Ending} {final : World}
    (h : Prepared argv w (.error ending) final) :
    (ending = .finished 2 ∨ (∃ n, ending = .dismissed n) ∨ ∃ f, ending = .failed f) ∧
      final.tree = w.tree ∧
      (final.output = w.output ∨ CommandLine.parse argv = .error .help ∧
        ending = .dismissed 0 ∧ final.output = w.output ++ CommandLine.help) := by
  cases h with
  | help asked => exact ⟨.inr (.inl ⟨_, rfl⟩), rfl, .inr ⟨asked, rfl, rfl⟩⟩
  | usage => exact ⟨.inr (.inl ⟨_, rfl⟩), rfl, .inl rfl⟩
  | unreadable => exact ⟨.inr (.inr ⟨_, rfl⟩), rfl, .inl rfl⟩
  | refused => exact ⟨.inl rfl, rfl, .inl rfl⟩

end

/-- A run without a watch delivers the whole listing of its input, as the input was before the run,
or it fails. The listing goes to the file that the output option names, if it names one, and else to
the standard output. A run that fails leaves all files as they were, and the standard output too
unless it was asked for help. Either way nothing is removed, and no file changes but the one that
the output option names. -/
theorem run_delivers_or_leaves {argv : List String} {w : World}
    (once : ∀ a, CommandLine.parse argv = .ok a → a.watch = false) (changes : List Change) :
    let t := run argv changes w
    ((t.ending = .finished 0 ∨ t.ending = .finished 1) ∧
        (∃ a s bytes text, CommandLine.parse argv = .ok a ∧ w.settings a = .ok s ∧
          s.inputBytes w = .ok bytes ∧ Text.Utf8.decode bytes = .ok text ∧
          Delivered (Render.listing s.format s.positions (scan (Text.uniform text))) w t.final
            (Settings.path? a.output)) ∨
      (t.ending = .finished 2 ∨ (∃ n, t.ending = .dismissed n) ∨ ∃ f, t.ending = .failed f) ∧
        t.final.tree = w.tree ∧
        (t.final.output = w.output ∨ CommandLine.parse argv = .error .help ∧
          t.ending = .dismissed 0 ∧ t.final.output = w.output ++ CommandLine.help)) ∧
      w.tree.SameBut (NamesOutput argv w) t.final.tree := by
  intro t
  obtain ⟨ending, final, prepared, ran⟩ | ⟨a, s, ending, final, parsed, found, pass, ran⟩ :=
    run_cases once changes w
  · -- without settings no output is in effect
    obtain ⟨failed, tree, output⟩ := prepared.left
    rw [show t = ⟨[], ending, final⟩ from ran]
    refine ⟨.inr ⟨failed, tree, output⟩, ?_⟩
    dsimp only
    rw [tree]
    exact Tree.sameBut_refl _ _
  · rw [show t = ⟨[], ending, final⟩ from ran]
    have target : s.output = Settings.path? a.output := (settings_eq_ok found).2.1
    rcases pass.delivered_or_left with ⟨r, scanned, rfl, delivered⟩ | ⟨failed, tree, output⟩
    · rw [target] at delivered
      refine ⟨.inl ⟨?_, ?_⟩, delivered.sameBut.mono fun loc ⟨p, named, leads⟩ =>
        ⟨a, p, parsed, named, leads⟩⟩
      · exact (status_eq s r).imp (congrArg Ending.finished) (congrArg Ending.finished)
      · obtain ⟨bytes, text, input, decoded, rfl⟩ := scanned_eq_ok_iff.1 scanned
        exact ⟨a, s, bytes, text, parsed, found, input, decoded, delivered⟩
    · refine ⟨.inr ⟨failed.imp id .inr, tree, .inl output⟩, ?_⟩
      dsimp only
      rw [tree]
      exact Tree.sameBut_refl _ _

/-- The output option may name the input itself: the listing is that of the input before the run. -/
theorem run_onto_input :
    let w := (World.blank 0).place "m" (Text.Utf8.encode "1")
    let t := run ["m", "-o", "m"] [] w
    (∀ a, CommandLine.parse ["m", "-o", "m"] = .ok a → a.watch = false) ∧
      t.ending = .finished 0 ∧
      (∃ a s bytes text, CommandLine.parse ["m", "-o", "m"] = .ok a ∧ w.settings a = .ok s ∧
        s.inputBytes w = .ok bytes ∧ Text.Utf8.decode bytes = .ok text ∧
        Delivered (Render.listing s.format s.positions (scan (Text.uniform text))) w t.final
          (Settings.path? a.output)) ∧
      t.final.tree.read w.base ⟨.none, ["m"]⟩ =
        .ok (Text.Utf8.encode "1:1 INTEGER '1'\n1:2 EOF ''\n") := by
  intro w t
  have once : ∀ a, CommandLine.parse ["m", "-o", "m"] = .ok a → a.watch = false := by
    intro a parsed
    have read : CommandLine.parse ["m", "-o", "m"] =
        .ok ⟨⟨some (.text "m"), none, none, none, false, false, false⟩, "m"⟩ := by decide +kernel
    obtain rfl := Except.ok.inj (read.symm.trans parsed)
    rfl
  have ended : t.ending = .finished 0 := by decide +kernel
  refine ⟨once, ended, ?_, by decide +kernel⟩
  rcases (run_delivers_or_leaves once [] (w := w)).1 with ⟨-, delivered⟩ | ⟨failed, -⟩
  · exact delivered
  · change t.ending = _ ∨ (∃ n, t.ending = _) ∨ ∃ f, t.ending = _ at failed
    rw [ended] at failed
    simp at failed

end MonkeyScan.Program
