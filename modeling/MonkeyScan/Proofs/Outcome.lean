import MonkeyScan.Proofs.Delivery

/-!
What a run without a watch comes to, told by its input and its output. When the input can be read
and the output written, the status, the listing and the error stream are those of the text
(`run_of_readable`). An input that cannot be had is reported, with status two; an output that cannot
be written is not, and ends the run as a failure (`finished_iff_of_settled`).
-/

namespace MonkeyScan.Program

open MonkeyScan.Files Alphabet

section

variable {argv : List String} {a : CommandLine.Arguments} {s : Settings} {w : World}

/-- With settings that want no watch, a run is one pass. -/
theorem run_settled (accepted : CommandLine.parse argv = .ok a) (once : a.watch = false)
    (settled : w.settings a = .ok s) (changes : List Change) :
    ∃ ending final, Pass s w ending final ∧ run argv changes w = ⟨[], ending, final⟩ := by
  have once' : ∀ a', CommandLine.parse argv = .ok a' → a'.watch = false := by
    intro a' parsed
    obtain rfl := Except.ok.inj (accepted.symm.trans parsed)
    exact once
  obtain ⟨ending, final, prepared, -⟩ | ⟨a', s', ending, final, parsed, found, pass, ran⟩ :=
    run_cases once' changes w
  · cases prepared with
    | help asked => rw [accepted] at asked; cases asked
    | usage mistaken => rw [accepted] at mistaken; cases mistaken
    | unreadable parsed failed | refused parsed failed =>
      obtain rfl := Except.ok.inj (accepted.symm.trans parsed)
      rw [settled] at failed
      cases failed
  · obtain rfl := Except.ok.inj (accepted.symm.trans parsed)
    obtain rfl := Except.ok.inj (settled.symm.trans found)
    exact ⟨ending, final, pass, ran⟩

/-! ## Readable inputs -/

theorem inputName_of_settled (settled : w.settings a = .ok s) :
    s.inputName = if a.input = "-" then standardInput else (Path.ofString a.input).text := by
  unfold Settings.inputName
  rw [(settings_eq_ok settled).1, Settings.inputOf]
  split <;> rfl

theorem isEmpty_illegalFrom (p : Nat) (cs : List Char) :
    (illegalFrom p cs).isEmpty = !cs.any isIllegal := by
  rw [Bool.eq_iff_iff, List.isEmpty_iff, illegalFrom_eq_nil_iff, Bool.not_eq_true',
    List.any_eq_false]
  simp only [Bool.not_eq_true]

/-- The status of a scanned text under the strict setting is one just when a character is
illegal. -/
theorem status_ofText (s : Settings) (file source : String) :
    s.status (.ofText file source) =
      if s.strict && source.toList.any isIllegal then 1 else 0 := by
  unfold Settings.status Scanned.ofText
  rw [Problem.problems_eq, List.isEmpty_map, isEmpty_illegalFrom, Bool.not_not]

theorem remarks_ofText (s : Settings) (file source : String) :
    s.remarks (.ofText file source) =
      (if s.debug then Render.table (scan source) else "") ++
        String.join ((illegalFrom 0 source.toList).map fun e =>
          (Problem.atOffset source e).snippet file ++ "\n") := by
  unfold Settings.remarks Settings.tableOf Problem.report Scanned.ofText
  rw [Problem.problems_eq, List.map_map]
  rfl

end

/-- A run without a watch over an input that can be read, with an output that can be written. Its
status is one if it is strict and a character of the text is illegal, and else zero. The listing of
the text goes to the output file, if there is one, and else to the standard output. On the error
stream stand the table of the tokens, if it is asked for, and behind it a block for each illegal
character, under the name of the input and in the order of the text; and the illegal tokens of the
listing are the same characters at the same places. -/
theorem run_of_readable {argv : List String} {a : CommandLine.Arguments} {s : Settings} {w : World}
    {bytes : List UInt8} {text : String} (accepted : CommandLine.parse argv = .ok a)
    (once : a.watch = false) (settled : w.settings a = .ok s) (input : s.inputBytes w = .ok bytes)
    (decoded : Text.Utf8.decode bytes = .ok text)
    (writable : ∀ p, Settings.path? a.output = some p → w.Writable p)
    (changes : List Change) :
    let source := Text.uniform text
    let file := if a.input = "-" then "<stdin>" else (Path.ofString a.input).text
    let illegal := source.toList.zipIdx.filter fun e => isIllegal e.1
    let place (offset : Nat) : Position := .ofOffset source.toList offset
    let t := run argv changes w
    t.pauses = [] ∧
      t.ending = .finished (if s.strict && source.toList.any isIllegal then 1 else 0) ∧
      Delivered (Render.listing s.format s.positions (scan source)) w t.final
        (Settings.path? a.output) ∧
      t.final.errors = w.errors ++ ((if a.debug then Render.table (scan source) else "") ++
        String.join (illegal.map fun e =>
          Problem.snippet ⟨"illegal character " ++ Text.quote (String.singleton e.1), place e.2,
            source⟩ file ++ "\n")) ∧
      (scan source).filter (·.kind = .illegal) = illegal.map fun e =>
        ⟨.illegal, String.singleton e.1, ⟨place e.2, place (e.2 + 1)⟩⟩ := by
  intro source file illegal place t
  have scanned : s.scanned w = .ok (.ofText file source) := by
    refine scanned_eq_ok_iff.2 ⟨bytes, text, input, decoded, ?_⟩
    rw [inputName_of_settled settled]
    rfl
  obtain ⟨-, target, -, debug, -⟩ := settings_eq_ok settled
  -- the scanner's illegal tokens are the illegal characters that the problems are about
  have tokens : (scan source).filter (·.kind = .illegal) = illegal.map fun e =>
      ⟨.illegal, String.singleton e.1, ⟨place e.2, place (e.2 + 1)⟩⟩ := by
    rw [tokens_scan, Cursor.filter_tokens]
    rfl
  obtain ⟨ending, final, pass, ran⟩ := run_settled accepted once settled changes
  obtain ⟨errors, ⟨ended, delivered, -⟩ | ⟨p, f, named, unwritable, -⟩⟩ := pass.of_scanned scanned
  · rw [show t = ⟨[], ending, final⟩ from ran, ← debug, ← target]
    refine ⟨rfl, ?_, delivered, ?_, tokens⟩
    · rw [← status_ofText s file source]
      exact ended
    · exact errors.trans (congrArg (w.errors ++ ·) (remarks_ofText s file source))
  · exact absurd (writable p (target.symm.trans named)) unwritable

/-- The standard input with a configuration beside it, and a new output file. -/
theorem run_of_readable_strict :
    let w := { (World.blank 0).place "monkeylex.toml"
      (Text.Utf8.encode "[check]\nstrict = true\n") with input := Text.Utf8.encode "a\r\n@" }
    let argv := ["-", "-o", "out", "--debug"]
    let a : CommandLine.Arguments :=
      ⟨⟨some (.text "out"), none, none, none, false, false, true⟩, "-"⟩
    let s : Settings := ⟨none, some ⟨.none, ["out"]⟩, .text, true, true, false, true⟩
    CommandLine.parse argv = .ok a ∧ w.settings a = .ok s ∧
      s.inputBytes w = .ok (Text.Utf8.encode "a\r\n@") ∧ w.Writable ⟨.none, ["out"]⟩ ∧
      (run argv [] w).ending = .finished 1 ∧
      (run argv [] w).final.tree.read w.base ⟨.none, ["out"]⟩ =
        .ok (Text.Utf8.encode "1:1 IDENTIFIER 'a'\n2:1 ILLEGAL '@'\n2:2 EOF ''\n") ∧
      (run argv [] w).final.errors =
        "[0] IDENTIFIER 'a'          1:1-1:2 (0,1)\n" ++
        "[1] ILLEGAL    '@'          2:1-2:2 (2,3)\n" ++
        "[2] EOF        ''           2:2-2:2 (3,3)\n" ++
        "error: illegal character '@'\n  --> <stdin>:2:1\n  |\n2 | @\n  | ^\n" := by
  intro w argv a s
  have accepted : CommandLine.parse argv = .ok a := by decide +kernel
  have settled : w.settings a = .ok s := by decide +kernel
  have input : s.inputBytes w = .ok (Text.Utf8.encode "a\r\n@") := by decide +kernel
  have decoded : Text.Utf8.decode (Text.Utf8.encode "a\r\n@") = .ok "a\r\n@" := by decide +kernel
  have writable : w.Writable ⟨.none, ["out"]⟩ := by decide +kernel
  have target : Settings.path? a.output = some ⟨.none, ["out"]⟩ := by decide +kernel
  have each : ∀ p, Settings.path? a.output = some p → w.Writable p := by
    intro p named
    obtain rfl := Option.some.inj (target.symm.trans named)
    exact writable
  obtain ⟨-, ended, delivered, errors, -⟩ :=
    run_of_readable accepted rfl settled input decoded each []
  rw [target] at delivered
  refine ⟨accepted, settled, input, writable, ?_, ?_, ?_⟩
  · exact ended.trans (by decide +kernel)
  · exact delivered.2.1.trans (by decide +kernel)
  · exact errors.trans (by decide +kernel)

/-! ## Failures -/

/-- No null character is in the path of the input. -/
def Settings.Askable (s : Settings) : Prop := ∀ p, s.input = some p → p.hasNull = false

theorem ofBytes_error {file : String} {bytes : List UInt8} {f : Failure}
    (h : Scanned.ofBytes file bytes = .error f) : ∃ fault, f = .text fault := by
  unfold Scanned.ofBytes at h
  cases decoded : Text.Utf8.decode bytes with
  | error fault =>
    rw [decoded] at h
    exact ⟨fault, (Except.error.inj h).symm⟩
  | ok text => rw [decoded] at h; cases h

section

variable {s : Settings} {w : World}

/-- An input that cannot be had is reported, unless there is a null character in its path. -/
theorem isReported_iff_of_unscanned {f : Failure} (h : s.scanned w = .error f) :
    f.isReported = true ↔ s.Askable := by
  unfold Settings.scanned Settings.inputBytes at h
  cases input : s.input with
  | none =>
    rw [input] at h
    obtain ⟨fault, rfl⟩ := ofBytes_error h
    refine ⟨fun _ p named => ?_, fun _ => rfl⟩
    rw [input] at named
    cases named
  | some p =>
    have askable : s.Askable ↔ p.hasNull = false := by
      unfold Settings.Askable
      rw [input]
      exact ⟨fun clean => clean p rfl, fun clean q same => Option.some.inj same ▸ clean⟩
    rw [input] at h
    change (((readBytes p : StateM World _).run w).1).bind _ = _ at h
    unfold readBytes at h
    rw [askable]
    cases null : p.hasNull with
    | true =>
      rw [null, if_pos rfl] at h
      obtain rfl := Except.error.inj h
      exact ⟨nofun, nofun⟩
    | false =>
      rw [null, if_neg Bool.false_ne_true, run_bind, World.run_readFile] at h
      refine ⟨fun _ => rfl, fun _ => ?_⟩
      cases read : w.tree.read w.base p with
      | error e =>
        rw [read] at h
        obtain rfl := Except.error.inj h
        rfl
      | ok bytes =>
        rw [read] at h
        obtain ⟨fault, rfl⟩ := ofBytes_error h
        rfl

theorem askable_of_scanned {r : Scanned} (h : s.scanned w = .ok r) : s.Askable := by
  intro p input
  cases null : p.hasNull with
  | false => rfl
  | true =>
    unfold Settings.scanned Settings.inputBytes readBytes at h
    rw [input] at h
    dsimp only at h
    rw [if_pos null] at h
    cases h

variable {ending : Ending} {final : World}

/-- A pass comes to a status when its input can be asked for and its listing has a place to go. -/
theorem Pass.finished_iff (h : Pass s w ending final) :
    (∃ status, ending = .finished status) ↔
      s.Askable ∧ ∀ r p, s.scanned w = .ok r → s.output = some p → w.Writable p := by
  cases scanned : s.scanned w with
  | error f =>
    rw [← isReported_iff_of_unscanned scanned]
    obtain ⟨reported, ended, -⟩ | ⟨silent, ended, -⟩ := h.of_unscanned scanned
    · exact ⟨fun _ => ⟨reported, nofun⟩, fun _ => ⟨2, ended⟩⟩
    · rw [ended, silent]
      exact ⟨nofun, nofun⟩
  | ok r =>
    have askable := askable_of_scanned scanned
    obtain ⟨-, ⟨ended, -, writable⟩ | ⟨p, f, target, unwritable, ended, -⟩⟩ := h.of_scanned scanned
    · exact ⟨fun _ => ⟨askable, fun _ p _ => writable p⟩, fun _ => ⟨_, ended⟩⟩
    · rw [ended]
      refine ⟨nofun, ?_⟩
      rintro ⟨-, writable⟩
      exact absurd (writable r p rfl target) unwritable

theorem Pass.status_le (h : Pass s w ending final) {status : Nat}
    (ended : ending = .finished status) : status ≤ 2 := by
  rcases h.delivered_or_left with ⟨r, -, finished, -⟩ | ⟨finished | ⟨f, failed⟩, -⟩
  · have same := Ending.finished.inj (ended.symm.trans finished)
    rcases status_eq s r with low | low <;> omega
  · exact (Ending.finished.inj (ended.symm.trans finished)).le
  · rw [failed] at ended
    cases ended

end

/-- How a run without a watch fails once it has its settings. An input that cannot be read or is no
text in UTF-8 is reported, and the status is two; only a path with a null character is not, and ends
the run as a failure. An output file that cannot be written is not reported either: it ends the run
as a failure, when all is said of the input but the listing. So the run has a status, which is zero,
one or two, just when no null character is in the path of the input and the listing of an input that
can be had has a place to go. -/
theorem finished_iff_of_settled {argv : List String} {a : CommandLine.Arguments} {s : Settings}
    {w : World} (accepted : CommandLine.parse argv = .ok a) (once : a.watch = false)
    (settled : w.settings a = .ok s) (changes : List Change) :
    let t := run argv changes w
    (∀ f, s.scanned w = .error f → s.Askable →
        t.ending = .finished 2 ∧
          t.final = { w with errors := w.errors ++ ("error: " ++ f.message ++ "\n") }) ∧
      (∀ r p, s.scanned w = .ok r → s.output = some p → ¬ w.Writable p →
        (∃ f, t.ending = .failed f) ∧ t.final = { w with errors := w.errors ++ s.remarks r }) ∧
      ((∃ status, t.ending = .finished status) ↔
        s.Askable ∧ ∀ r p, s.scanned w = .ok r → s.output = some p → w.Writable p) ∧
      ∀ status, t.ending = .finished status → status ≤ 2 := by
  intro t
  obtain ⟨ending, final, pass, ran⟩ := run_settled accepted once settled changes
  rw [show t = ⟨[], ending, final⟩ from ran]
  refine ⟨fun f failed askable => ?_, fun r p scanned target unwritable => ?_, pass.finished_iff,
    fun _ => pass.status_le⟩
  · have reported := (isReported_iff_of_unscanned failed).2 askable
    obtain ⟨-, ended, left⟩ | ⟨silent, -⟩ := pass.of_unscanned failed
    · exact ⟨ended, left⟩
    · rw [reported] at silent
      cases silent
  · obtain ⟨-, ⟨-, -, writable⟩ | ⟨-, f, -, -, ended, left⟩⟩ := pass.of_scanned scanned
    · exact absurd (writable p target) unwritable
    · exact ⟨⟨f, ended⟩, left⟩

/-- The input is missing. -/
theorem finished_of_missing_input :
    let w := World.blank 0
    let a : CommandLine.Arguments := ⟨⟨none, none, none, none, false, false, false⟩, "m"⟩
    let s : Settings := ⟨some ⟨.none, ["m"]⟩, none, .text, true, false, false, false⟩
    CommandLine.parse ["m"] = .ok a ∧ w.settings a = .ok s ∧
      (run ["m"] [] w).ending = .finished 2 ∧
      (run ["m"] [] w).final.errors = "error: [Errno 2] No such file or directory: 'm'\n" := by
  intro w a s
  have accepted : CommandLine.parse ["m"] = .ok a := by decide +kernel
  have settled : w.settings a = .ok s := by decide +kernel
  have failed : s.scanned w = .error (.file ⟨.missing, ⟨.none, ["m"]⟩⟩) := by decide +kernel
  have askable : s.Askable := by
    intro p named
    obtain rfl := Option.some.inj named
    decide +kernel
  obtain ⟨ended, final⟩ := (finished_iff_of_settled accepted rfl settled []).1 _ failed askable
  refine ⟨accepted, settled, ended, ?_⟩
  rw [final]
  decide +kernel

/-- The folder of the output file is missing: the run ends without a status, and nothing says
why. -/
theorem run_without_status :
    ¬ ∀ argv w a s, CommandLine.parse argv = .ok a → a.watch = false → w.settings a = .ok s →
      ∃ status, status ≤ 2 ∧ (run argv [] w).ending = .finished status := by
  intro all
  have accepted : CommandLine.parse ["m", "-o", "no/out"] =
      .ok ⟨⟨some (.text "no/out"), none, none, none, false, false, false⟩, "m"⟩ := by
    decide +kernel
  have settled : ((World.blank 0).place "m" (Text.Utf8.encode "1")).settings
      ⟨⟨some (.text "no/out"), none, none, none, false, false, false⟩, "m"⟩ =
      .ok ⟨some ⟨.none, ["m"]⟩, some ⟨.none, ["no", "out"]⟩, .text, true, false, false, false⟩ := by
    decide +kernel
  have ended : (run ["m", "-o", "no/out"] []
      ((World.blank 0).place "m" (Text.Utf8.encode "1"))).ending =
      .failed (.file ⟨.missing, ⟨.none, ["no", "out"]⟩⟩) := by
    decide +kernel
  obtain ⟨status, -, finished⟩ := all _ _ _ _ accepted rfl settled
  rw [ended] at finished
  cases finished

end MonkeyScan.Program
