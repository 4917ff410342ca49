import MonkeyScan.Proofs.Reporting
import MonkeyScan.Proofs.Writing

/-!
What a run without a watch can come to. On the way to its settings there are five ways (`Prepared`,
`prepared_prepare`), and from the settings on another five (`Pass`, `pass_runOnce`), each with how
the run ends and with the world behind it. Both are put together in `run_cases`.
-/

namespace MonkeyScan.Program

open MonkeyScan.Files

/-! ## The settings -/

/-- The settings of a command line in a world, with the configuration found there. -/
def World.settings (w : World) (a : CommandLine.Arguments) : Except SettingsError Settings :=
  ((Settings.resolve a : StateM World _).run w).1

/-- The ways in which a command line comes to its settings, or to an end without them. -/
inductive Prepared (argv : List String) (w : World) : Except Ending Settings → World → Prop
  | help : CommandLine.parse argv = .error .help →
      Prepared argv w (.error (.dismissed 0)) { w with output := w.output ++ CommandLine.help }
  | usage {e : CommandLine.UsageError} : CommandLine.parse argv = .error (.usage e) →
      Prepared argv w (.error (.dismissed 2)) { w with errors := w.errors ++ e.report }
  | unreadable {a : CommandLine.Arguments} {f : Failure} : CommandLine.parse argv = .ok a →
      w.settings a = .error (.unreadableConfig f) → Prepared argv w (.error (.failed f)) w
  | refused {a : CommandLine.Arguments} {e : SettingsError} : CommandLine.parse argv = .ok a →
      w.settings a = .error e →
      Prepared argv w (.error (.finished 2))
        { w with errors := w.errors ++ ("error: " ++ e.message ++ "\n") }
  | settled {a : CommandLine.Arguments} {s : Settings} : CommandLine.parse argv = .ok a →
      w.settings a = .ok s → Prepared argv w (.ok s) w

theorem prepared_prepare (argv : List String) (w : World) :
    Prepared argv w ((prepare argv : StateM World _).run w).1
      ((prepare argv : StateM World _).run w).2 := by
  unfold prepare
  cases parsed : CommandLine.parse argv with
  | error stop =>
    cases stop with
    | help => exact .help parsed
    | usage e => exact .usage parsed
  | ok a =>
    dsimp only
    rw [(onlyReads_resolve a).run_bind]
    cases found : ((Settings.resolve a : StateM World _).run w).1 with
    | ok s => exact .settled parsed found
    | error e =>
      cases e with
      | unreadableConfig f => exact .unreadable parsed found
      | malformedConfig | watchedInput | unknownFormat => exact .refused parsed found

/-- What settings keep of the command line that they come from. -/
theorem settings_eq_ok {w : World} {a : CommandLine.Arguments} {s : Settings}
    (h : w.settings a = .ok s) :
    s.input = Settings.inputOf a ∧ s.output = Settings.path? a.output ∧ s.watch = a.watch ∧
      s.debug = a.debug ∧ (s.watch = true → s.input ≠ none) := by
  unfold World.settings Settings.resolve at h
  rw [(onlyReads_load _).run_bind] at h
  cases config : ((Config.load (Settings.configPath a) : StateM World _).run w).1 with
  | error e => rw [config] at h; cases h
  | ok table =>
    rw [config] at h
    change Settings.merge a table = .ok s at h
    unfold Settings.merge at h
    split at h
    case isTrue => cases h
    case isFalse unwatched =>
      cases format : Settings.formatOf
          ((a.format <|> (Config.format? table).map CommandLine.OptionValue.text).getD
            (.text Format.text.name)) with
      | error e => rw [format] at h; cases h
      | ok f =>
        rw [format] at h
        obtain rfl := Except.ok.inj h
        exact ⟨rfl, rfl, rfl, rfl, fun watched missing => unwatched ⟨watched, missing⟩⟩

/-! ## One pass -/

/-- The scan of the input in a world, if it can be had. -/
def Settings.scanned (s : Settings) (w : World) : Except Failure Scanned :=
  (s.inputBytes w).bind (Scanned.ofBytes s.inputName)

/-- The listing of a scan under settings. -/
def Settings.listingOf (s : Settings) (r : Scanned) : String :=
  Render.listing s.format s.positions r.tokens

/-- What is said of a scan on the error stream: the table, then the problems. -/
def Settings.remarks (s : Settings) (r : Scanned) : String :=
  s.tableOf r.tokens ++ Problem.report r.problems r.file

/-- The status that a scan gives. -/
def Settings.status (s : Settings) (r : Scanned) : Nat :=
  if s.strict && !r.problems.isEmpty then 1 else 0

/-- A file can be written at the path. -/
def World.Writable (w : World) (p : Path) : Prop :=
  p.hasNull = false ∧ w.tree.Writable w.base p

instance (w : World) (p : Path) : Decidable (w.Writable p) :=
  inferInstanceAs (Decidable (_ ∧ _))

theorem run_writeBytes (p : Path) (content : List UInt8) (w : World) :
    (∃ tree, w.Writable p ∧ w.tree.write w.base p content w.clock = .ok tree ∧
        (writeBytes p content : StateM World _).run w =
          (.ok (), { w with tree, clock := w.clock + World.tick })) ∨
      ∃ f, ¬ w.Writable p ∧ (writeBytes p content : StateM World _).run w = (.error f, w) := by
  unfold writeBytes
  cases null : p.hasNull with
  | true => exact .inr ⟨.nullInPath, fun writable => absurd writable.1 (by simp [null]), rfl⟩
  | false =>
    rw [if_neg Bool.false_ne_true, run_bind]
    cases made : w.tree.write w.base p content w.clock with
    | ok tree =>
      have written : w.writeFile p content = .ok { w with tree, clock := w.clock + World.tick } := by
        rw [World.writeFile, made]
        rfl
      rw [World.run_writeFile_ok written]
      exact .inl ⟨tree, ⟨null, Tree.write_eq_ok_iff.1 ⟨tree, made⟩⟩, rfl, rfl⟩
    | error e =>
      have refused : w.writeFile p content = .error e := by
        rw [World.writeFile, made]
        rfl
      rw [World.run_writeFile_error refused]
      refine .inr ⟨.file e, fun writable => ?_, rfl⟩
      obtain ⟨tree, made'⟩ := Tree.write_eq_ok_iff.2 writable.2
      rw [made] at made'
      cases made'

/-- The ways in which one pass over the input ends. What is said of the scan comes before the
listing is written, so that it stands whether the listing can be written or not. -/
inductive Pass (s : Settings) (w : World) : Ending → World → Prop
  | unread {f : Failure} : s.scanned w = .error f → f.isReported = true →
      Pass s w (.finished 2) { w with errors := w.errors ++ ("error: " ++ f.message ++ "\n") }
  | unaskable {f : Failure} : s.scanned w = .error f → f.isReported = false → Pass s w (.failed f) w
  | shown {r : Scanned} : s.scanned w = .ok r → s.output = none →
      Pass s w (.finished (s.status r))
        { w with output := w.output ++ s.listingOf r, errors := w.errors ++ s.remarks r }
  | written {r : Scanned} {p : Path} {tree : Tree} : s.scanned w = .ok r → s.output = some p →
      w.Writable p →
      w.tree.write w.base p (Text.Utf8.encode (s.listingOf r)) w.clock = .ok tree →
      Pass s w (.finished (s.status r))
        { w with tree, clock := w.clock + World.tick, errors := w.errors ++ s.remarks r }
  | unwritten {r : Scanned} {p : Path} {f : Failure} : s.scanned w = .ok r → s.output = some p →
      ¬ w.Writable p → Pass s w (.failed f) { w with errors := w.errors ++ s.remarks r }

theorem run_examine_error {s : Settings} {w : World} {f : Failure} (h : s.scanned w = .error f) :
    (examine s : StateM World _).run w = (.error f, w) := by
  unfold examine
  rw [run_bind, run_readScanned]
  unfold Settings.scanned at h
  rw [h]
  rfl

theorem pass_runOnce (s : Settings) (w : World) :
    Pass s w ((runOnce s : StateM World _).run w).1 ((runOnce s : StateM World _).run w).2 := by
  unfold runOnce
  rw [run_bind]
  cases scanned : s.scanned w with
  | error f =>
    rw [run_examine_error scanned]
    dsimp only
    cases reported : f.isReported with
    | true => exact .unread scanned reported
    | false => exact .unaskable scanned reported
  | ok r =>
    rw [run_examine_ok scanned]
    dsimp only
    rw [run_bind]
    unfold publish
    rw [run_bind, World.run_warn]
    dsimp only
    -- the table and the problems, said one after the other, are the remarks
    rw [String.append_assoc]
    cases target : s.output with
    | none => exact .shown scanned target
    | some p =>
      dsimp only
      obtain ⟨tree, writable, made, run⟩ | ⟨f, unwritable, run⟩ :=
        run_writeBytes p (Text.Utf8.encode (s.listingOf r))
          { w with errors := w.errors ++ s.remarks r }
      · rw [Settings.listingOf, Settings.remarks] at run
        rw [run]
        exact .written scanned target writable made
      · rw [Settings.listingOf, Settings.remarks] at run
        rw [run]
        exact .unwritten scanned target unwritable

/-! ## The whole run -/

/-- A run ends on the way to its settings, or it is one pass, as long as nothing is to be
watched. -/
theorem run_cases {argv : List String}
    (once : ∀ a, CommandLine.parse argv = .ok a → a.watch = false) (changes : List Change)
    (w : World) :
    (∃ ending final, Prepared argv w (.error ending) final ∧
        run argv changes w = ⟨[], ending, final⟩) ∨
      ∃ a s ending final, CommandLine.parse argv = .ok a ∧ w.settings a = .ok s ∧
        Pass s w ending final ∧ run argv changes w = ⟨[], ending, final⟩ := by
  have ways := prepared_prepare argv w
  unfold run
  generalize (prepare argv : StateM World _).run w = prepared at ways
  obtain ⟨answer, after⟩ := prepared
  cases answer with
  | error ending => exact .inl ⟨ending, after, ways, rfl⟩
  | ok s =>
    right
    cases ways with
    | settled parsed found =>
      refine ⟨_, s, _, _, parsed, found, pass_runOnce s _, ?_⟩
      have unwatched : s.watch = false := (settings_eq_ok found).2.2.1.trans (once _ parsed)
      dsimp only
      rw [unwatched]
      cases s.input <;> rfl

end MonkeyScan.Program
