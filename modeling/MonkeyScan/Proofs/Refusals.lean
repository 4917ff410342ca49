import Mathlib.Control.Monad.Basic
import MonkeyScan.Proofs.Precedence

/-!
When a command line has no settings. The reasons are a configuration that is no document, a watch on
the standard input, and a format that nothing goes by (`exists_settings_eq_error_iff`). A run
answers them with a message and status two, unless the configuration cannot even be made out: then
it ends as a failure (`run_of_settings_eq_error`). Main statement: `refused_iff_of_accepted`.
-/

namespace MonkeyScan.Program

open MonkeyScan.Files CommandLine Settings

/-- The bytes are a TOML document in UTF-8. -/
def Config.IsDocument (bytes : List UInt8) : Prop :=
  ∃ text c, Text.Utf8.decode bytes = .ok text ∧ Toml.parse text = .ok c

/-- What there is at a path can be made out: the path can be asked about, and a file at its end is a
text in UTF-8 that stays within the limits of reading. -/
def World.Legible (w : World) (p : Path) : Prop :=
  ¬ w.Overlong p ∧ ∀ bytes, w.file? p = some bytes →
    ∃ text, Text.Utf8.decode bytes = .ok text ∧ ∀ limit, Toml.parse text ≠ .error (.beyond limit)

section

variable {a : Arguments} {c : Toml.Table} {w : World} {p : Path} {e : SettingsError}

theorem exists_merge_eq_error_iff :
    (∃ e, merge a c = .error e) ↔
      a.watch = true ∧ a.input = "-" ∨
        ∃ v, EffectiveFormat a c v ∧ v ≠ .text "text" ∧ v ≠ .text "json" := by
  have named (v : OptionValue) :
      (v ≠ .text "text" ∧ v ≠ .text "json") ↔ ∀ f : Format, v ≠ .text f.name :=
    ⟨fun none f => f.casesOn none.1 none.2, fun none => ⟨none .text, none .json⟩⟩
  obtain ⟨v, effective⟩ : ∃ v, EffectiveFormat a c v := ⟨_, effectiveFormat_iff.2 rfl⟩
  have only (u : OptionValue) : EffectiveFormat a c u ↔ u = v := by
    rw [effectiveFormat_iff, ← effectiveFormat_iff.1 effective, eq_comm]
  simp only [only, named, exists_eq_left, ← inputOf_eq_none_iff]
  rw [merge_eq effective]
  split
  case isTrue refused => exact ⟨fun _ => .inl refused, fun _ => ⟨_, rfl⟩⟩
  case isFalse allowed =>
    simp only [ne_eq, ← formatOf_eq_ok_iff, allowed, false_or]
    cases formatOf v <;> simp [Except.map]

theorem isDocument_of_configAt (found : ConfigAt w p (.ok c)) {bytes : List UInt8}
    (file : w.file? p = some bytes) : Config.IsDocument bytes := by
  cases found with
  | absent none => rw [none] at file; cases file
  | document file' decoded parsed =>
    obtain rfl := Option.some.inj (file'.symm.trans file)
    exact ⟨_, _, decoded, parsed⟩

theorem not_overlong_of_file? {bytes : List UInt8} (file : w.file? p = some bytes) :
    ¬ w.Overlong p := by
  rintro ⟨clean, long⟩
  unfold World.file? at file
  rw [if_neg (by simp [clean]), long] at file
  cases file

/-- A configuration that comes to an error is no document, or cannot be asked about. -/
theorem of_configAt_error (found : ConfigAt w p (.error e)) :
    w.Overlong p ∨ ∃ bytes, w.file? p = some bytes ∧ ¬ Config.IsDocument bytes := by
  cases found with
  | overlong long => exact .inl long
  | undecodable file decoded =>
    refine .inr ⟨_, file, ?_⟩
    rintro ⟨text, c, decoded', -⟩
    cases decoded.symm.trans decoded'
  | malformed file decoded parsed | beyond file decoded parsed =>
    refine .inr ⟨_, file, ?_⟩
    rintro ⟨text, c, decoded', parsed'⟩
    obtain rfl := Except.ok.inj (decoded.symm.trans decoded')
    cases parsed.symm.trans parsed'

theorem not_overlong_of_configAt (found : ConfigAt w p (.ok c)) : ¬ w.Overlong p := by
  cases found with
  | absent _ short => exact short
  | document file => exact not_overlong_of_file? file

theorem exists_settings_eq_error_iff :
    (∃ e, w.settings a = .error e) ↔
      w.Overlong (configPath a) ∨
        (∃ bytes, w.file? (configPath a) = some bytes ∧ ¬ Config.IsDocument bytes) ∨
        a.watch = true ∧ a.input = "-" ∨
        ∃ c v, ConfigAt w (configPath a) (.ok c) ∧ EffectiveFormat a c v ∧
          v ≠ .text "text" ∧ v ≠ .text "json" := by
  rw [settings_eq]
  have found := configAt_config w (configPath a)
  cases config : w.config (configPath a) with
  | error e =>
    rw [config] at found
    refine ⟨fun _ => ?_, fun _ => ⟨e, rfl⟩⟩
    exact (of_configAt_error found).imp id .inl
  | ok c =>
    rw [config] at found
    change (∃ e, merge a c = .error e) ↔ _
    rw [exists_merge_eq_error_iff]
    constructor
    · rintro (watched | ⟨v, effective, unknown⟩)
      · exact .inr (.inr (.inl watched))
      · exact .inr (.inr (.inr ⟨c, v, found, effective, unknown⟩))
    · rintro (long | ⟨bytes, file, none⟩ | watched | ⟨c', v, found', effective, unknown⟩)
      · exact absurd long (not_overlong_of_configAt found)
      · exact absurd (isDocument_of_configAt found file) none
      · exact .inl watched
      · obtain rfl := Except.ok.inj (found.config_eq.symm.trans found'.config_eq)
        exact .inr ⟨v, effective, unknown⟩

theorem ConfigAt.legible_iff {r : Except SettingsError Toml.Table} (found : ConfigAt w p r) :
    w.Legible p ↔ ∀ f, r ≠ .error (.unreadableConfig f) := by
  unfold World.Legible
  cases found with
  | absent none short =>
    refine ⟨fun _ => nofun, fun _ => ⟨short, fun bytes file => ?_⟩⟩
    cases none.symm.trans file
  | overlong long => exact ⟨fun legible => absurd long legible.1, fun other => absurd rfl (other _)⟩
  | undecodable file decoded =>
    refine ⟨fun legible => ?_, fun other => absurd rfl (other _)⟩
    obtain ⟨text, decoded', -⟩ := legible.2 _ file
    cases decoded.symm.trans decoded'
  | beyond file decoded parsed =>
    refine ⟨fun legible => ?_, fun other => absurd rfl (other _)⟩
    obtain ⟨text, decoded', within⟩ := legible.2 _ file
    obtain rfl := Except.ok.inj (decoded.symm.trans decoded')
    exact absurd parsed (within _)
  | document file decoded parsed | malformed file decoded parsed =>
    refine ⟨fun _ => nofun, fun _ => ⟨fun long => ?_, fun bytes file' => ?_⟩⟩
    · exact not_overlong_of_file? file long
    · obtain rfl := Option.some.inj (file.symm.trans file')
      refine ⟨_, decoded, fun limit beyond => ?_⟩
      cases parsed.symm.trans beyond

theorem merge_ne_unreadable (f : Failure) : merge a c ≠ .error (.unreadableConfig f) := by
  obtain ⟨v, effective⟩ : ∃ v, EffectiveFormat a c v := ⟨_, effectiveFormat_iff.2 rfl⟩
  rw [merge_eq effective]
  split
  case isTrue => exact nofun
  case isFalse =>
    unfold formatOf
    cases v with
    | blank => exact nofun
    | text s =>
      dsimp only
      cases Format.ofName? s <;> exact nofun

/-- Settings fail for want of a legible configuration, and for nothing else, as unreadable. -/
theorem legible_iff_of_settings_eq_error (refused : w.settings a = .error e) :
    w.Legible (configPath a) ↔ ∀ f, e ≠ .unreadableConfig f := by
  have found := configAt_config w (configPath a)
  rw [settings_eq] at refused
  rw [found.legible_iff]
  cases config : w.config (configPath a) with
  | error e' =>
    rw [config] at refused
    obtain rfl := Except.error.inj refused
    simp
  | ok c =>
    rw [config] at refused
    change merge a c = .error e at refused
    refine ⟨fun _ f same => ?_, fun _ => nofun⟩
    exact merge_ne_unreadable f (same ▸ refused)

end

/-- A run without settings ends at once. A mistake is answered with its words and status two, and
what is not one leaves the run as a failure. -/
theorem run_of_settings_eq_error {argv : List String} {a : Arguments} {w : World}
    {e : SettingsError} (accepted : CommandLine.parse argv = .ok a)
    (refused : w.settings a = .error e) (changes : List Change) :
    run argv changes w =
      match e with
      | .unreadableConfig f => ⟨[], .failed f, w⟩
      | e => ⟨[], .finished 2, { w with errors := w.errors ++ ("error: " ++ e.message ++ "\n") }⟩ := by
  have prepared : (prepare argv : StateM World _).run w =
      match e with
      | .unreadableConfig f => (.error (.failed f), w)
      | e => (.error (.finished 2),
          { w with errors := w.errors ++ ("error: " ++ e.message ++ "\n") }) := by
    unfold prepare
    rw [accepted]
    dsimp only
    rw [(onlyReads_resolve a).run_bind, show ((resolve a : StateM World _).run w).1 = .error e
      from refused]
    cases e <;> rfl
  unfold run
  rw [prepared]
  cases e <;> rfl

/-- When a command line that is accepted has no settings: the configuration file that it leads to is
no TOML document in UTF-8 or has a path too long to be asked about, or the standard input is to be
watched, or the format that command line and configuration come to is neither of the two. As long as
the configuration can be made out, each of these is a mistake that the run answers with its words on
the error stream, with status two, and with nothing else changed. A configuration that cannot be
made out is not answered: it ends the run as a failure, and nothing tells why. -/
theorem refused_iff_of_accepted {argv : List String} {a : Arguments} {w : World}
    (accepted : CommandLine.parse argv = .ok a) (changes : List Change) :
    ((∃ e, w.settings a = .error e) ↔
      w.Overlong (configPath a) ∨
        (∃ bytes, w.file? (configPath a) = some bytes ∧ ¬ Config.IsDocument bytes) ∨
        a.watch = true ∧ a.input = "-" ∨
        ∃ c v, ConfigAt w (configPath a) (.ok c) ∧ EffectiveFormat a c v ∧
          v ≠ .text "text" ∧ v ≠ .text "json") ∧
      ∀ e, w.settings a = .error e →
        (w.Legible (configPath a) →
          (∀ f, e ≠ .unreadableConfig f) ∧
            run argv changes w =
              ⟨[], .finished 2, { w with errors := w.errors ++ ("error: " ++ e.message ++ "\n") }⟩) ∧
          (¬ w.Legible (configPath a) →
            ∃ f, e = .unreadableConfig f ∧ run argv changes w = ⟨[], .failed f, w⟩) := by
  refine ⟨exists_settings_eq_error_iff, fun e refused => ?_⟩
  have ended := run_of_settings_eq_error accepted refused changes
  rw [legible_iff_of_settings_eq_error refused]
  cases e with
  | unreadableConfig f =>
    exact ⟨fun other => absurd rfl (other f), fun _ => ⟨f, rfl, ended⟩⟩
  | malformedConfig | watchedInput | unknownFormat =>
    exact ⟨fun _ => ⟨nofun, ended⟩, fun illegible => absurd nofun illegible⟩

/-- A header without its closing bracket. -/
theorem refused_of_open_header :
    let w := (World.blank 0).place "monkeylex.toml" (Text.Utf8.encode "[output\n")
    let a : Arguments := ⟨⟨none, none, none, none, false, false, false⟩, "m"⟩
    CommandLine.parse ["m"] = .ok a ∧ w.settings a = .error .malformedConfig ∧
      run ["m"] [] w = ⟨[], .finished 2, { w with errors := "error: invalid config file: <toml>\n" }⟩ := by
  intro w a
  have accepted : CommandLine.parse ["m"] = .ok a := by decide +kernel
  have refused : w.settings a = .error .malformedConfig := by decide +kernel
  have legible : w.Legible (configPath a) := by
    rw [legible_iff_of_settings_eq_error refused]
    exact nofun
  obtain ⟨-, answered⟩ := refused_iff_of_accepted accepted []
  exact ⟨accepted, refused, ((answered _ refused).1 legible).2⟩

/-- A byte that begins no character of a text is not answered. -/
theorem unanswered_encoding :
    ¬ ∀ argv w a e, CommandLine.parse argv = .ok a → w.settings a = .error e →
      (∀ f, e ≠ .unreadableConfig f) ∧ (run argv [] w).ending = .finished 2 := by
  intro all
  have accepted : CommandLine.parse ["m"] =
      .ok ⟨⟨none, none, none, none, false, false, false⟩, "m"⟩ := by
    decide +kernel
  have refused : ((World.blank 0).place "monkeylex.toml" [0xff]).settings
      ⟨⟨none, none, none, none, false, false, false⟩, "m"⟩ =
      .error (.unreadableConfig (.text ⟨0, 0xff, 1, .startByte⟩)) := by
    decide +kernel
  exact (all _ _ _ _ accepted refused).1 _ rfl

end MonkeyScan.Program
