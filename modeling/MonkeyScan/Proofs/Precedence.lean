import Mathlib.Control.Monad.Basic
import MonkeyScan.Proofs.Configuration

/-!
Where a setting comes from. It has three layers: the command line, the configuration, and a default,
and the first of them that has a value counts (`Chosen`). Of a configuration only three values are
looked at, each only if it is of its kind (`Config.Gives`); a configuration is as good as any other
that gives the same three (`Config.Alike`). Main statement: `settings_chosen`.
-/

namespace MonkeyScan

/-! ## Three layers -/

/-- The value of the first layer that has one: the one given, else one that the configuration holds,
else the default. -/
inductive Chosen {α : Type} (given : Option α) (holds : α → Prop) (default : α) : α → Prop
  | given {x : α} : given = some x → Chosen given holds default x
  | configured {x : α} : given = none → holds x → Chosen given holds default x
  | default : given = none → (∀ x, ¬ holds x) → Chosen given holds default default

/-- When the configuration holds at most one value, the choice is made by falling through. -/
theorem chosen_iff {α : Type} {given configured : Option α} {holds : α → Prop} {default x : α}
    (same : ∀ y, configured = some y ↔ holds y) :
    Chosen given holds default x ↔ (given <|> configured).getD default = x := by
  cases given with
  | some y =>
    refine ⟨fun chosen => ?_, fun first => .given (congrArg some first)⟩
    cases chosen with
    | given first => exact Option.some.inj first
    | configured none | default none => cases none
  | none =>
    cases configured with
    | some y =>
      refine ⟨fun chosen => ?_, fun second => .configured rfl ((same x).1 (congrArg some second))⟩
      cases chosen with
      | given first => cases first
      | configured _ said => exact Option.some.inj ((same x).2 said)
      | default _ silent => exact absurd ((same y).1 rfl) (silent y)
    | none =>
      have silent (y : α) : ¬ holds y := fun said => by cases (same y).2 said
      constructor
      · intro chosen
        cases chosen with
        | given first => cases first
        | configured _ said => exact absurd said (silent x)
        | default => rfl
      · rintro rfl
        exact .default rfl silent

/-! ## Configurations -/

namespace Toml.Table

variable {t u : Table} {name : String}

theorem table?_eq_some_iff : t.table? name = some u ↔ t.get? name = some (.table u) := by
  unfold table?
  split
  case h_1 there => rw [there, Option.some.injEq, Option.some.injEq, Value.table.injEq]
  case h_2 other => exact ⟨nofun, fun there => absurd there (other u)⟩

theorem string?_eq_some_iff {s : String} :
    t.string? name = some s ↔ t.get? name = some (.string s) := by
  unfold string?
  split
  case h_1 there => rw [there, Option.some.injEq, Option.some.injEq, Value.string.injEq]
  case h_2 other => exact ⟨nofun, fun there => absurd there (other s)⟩

theorem boolean?_eq_some_iff {b : Bool} :
    t.boolean? name = some b ↔ t.get? name = some (.boolean b) := by
  unfold boolean?
  split
  case h_1 there => rw [there, Option.some.injEq, Option.some.injEq, Value.boolean.injEq]
  case h_2 other => exact ⟨nofun, fun there => absurd there (other b)⟩

end Toml.Table

namespace Program

namespace Config

/-- A configuration has a table of a name, and in it a value. -/
def Gives (c : Toml.Table) (table name : String) (v : Toml.Value) : Prop :=
  ∃ t : Toml.Table, c.get? table = some (.table t) ∧ t.get? name = some v

/-- Two configurations give the same three values. A value of another kind is none, and so is any
value in the place of a table. -/
structure Alike (c c' : Toml.Table) : Prop where
  format : ∀ s, Gives c "output" "format" (.string s) ↔ Gives c' "output" "format" (.string s)
  positions : ∀ b,
    Gives c "output" "positions" (.boolean b) ↔ Gives c' "output" "positions" (.boolean b)
  strict : ∀ b, Gives c "check" "strict" (.boolean b) ↔ Gives c' "check" "strict" (.boolean b)

variable {c c' : Toml.Table}

theorem format?_eq_some_iff {s : String} :
    format? c = some s ↔ Gives c "output" "format" (.string s) := by
  simp only [format?, Gives, Option.bind_eq_some_iff, Toml.Table.table?_eq_some_iff,
    Toml.Table.string?_eq_some_iff]

theorem positions?_eq_some_iff {b : Bool} :
    positions? c = some b ↔ Gives c "output" "positions" (.boolean b) := by
  simp only [positions?, Gives, Option.bind_eq_some_iff, Toml.Table.table?_eq_some_iff,
    Toml.Table.boolean?_eq_some_iff]

theorem strict?_eq_some_iff {b : Bool} :
    strict? c = some b ↔ Gives c "check" "strict" (.boolean b) := by
  simp only [strict?, Gives, Option.bind_eq_some_iff, Toml.Table.table?_eq_some_iff,
    Toml.Table.boolean?_eq_some_iff]

end Config

/-! ## Settings -/

namespace Settings

open CommandLine

/-- The format that a command line and a configuration come to, as a value that is still to be
checked. -/
def EffectiveFormat (a : Arguments) (c : Toml.Table) : OptionValue → Prop :=
  Chosen a.format (fun v => ∃ s, v = .text s ∧ Config.Gives c "output" "format" (.string s))
    (.text "text")

variable {a : Arguments} {c c' : Toml.Table} {s : Settings}

theorem effectiveFormat_iff {v : OptionValue} :
    EffectiveFormat a c v ↔
      (a.format <|> (Config.format? c).map OptionValue.text).getD (.text Format.text.name) = v := by
  refine chosen_iff fun v => ?_
  simp only [Option.map_eq_some_iff, Config.format?_eq_some_iff]
  exact exists_congr fun s => by rw [and_comm, eq_comm]

theorem formatOf_eq_ok_iff {v : OptionValue} {f : Format} :
    formatOf v = .ok f ↔ v = .text f.name := by
  cases v with
  | blank => exact ⟨nofun, nofun⟩
  | text s =>
    rw [OptionValue.text.injEq, ← Format.ofName?_eq_some_iff]
    unfold formatOf
    dsimp only
    cases Format.ofName? s <;> simp

/-- The settings of a command line and a configuration with a format that can be had. -/
def ofFormat (a : Arguments) (c : Toml.Table) (f : Format) : Settings where
  input := inputOf a
  output := path? a.output
  format := f
  positions := (a.positions <|> Config.positions? c).getD true
  strict := a.strict || (Config.strict? c).getD false
  watch := a.watch
  debug := a.debug

/-- Merging goes wrong when the standard input is to be watched, and else only by the format. -/
theorem merge_eq {v : OptionValue} (effective : EffectiveFormat a c v) :
    merge a c =
      if a.watch ∧ inputOf a = none then .error .watchedInput
      else (formatOf v).map (ofFormat a c) := by
  unfold merge
  rw [effectiveFormat_iff.1 effective]
  split
  · rfl
  · cases formatOf v <;> rfl

theorem merge_eq_ok_iff {v : OptionValue} (effective : EffectiveFormat a c v) :
    merge a c = .ok s ↔
      ¬ (a.watch ∧ inputOf a = none) ∧ ∃ f : Format, v = .text f.name ∧ s = ofFormat a c f := by
  rw [merge_eq effective]
  split
  case isTrue refused => exact ⟨nofun, fun ⟨allowed, _⟩ => absurd refused allowed⟩
  case isFalse allowed =>
    simp only [allowed, not_false_eq_true, true_and, ← formatOf_eq_ok_iff]
    cases formatOf v <;> simp [Except.map, eq_comm]

/-- Only the three values of a configuration matter. -/
theorem merge_of_alike (alike : Config.Alike c c') : merge a c' = merge a c := by
  have format : Config.format? c' = Config.format? c := by
    ext s
    rw [Config.format?_eq_some_iff, Config.format?_eq_some_iff, alike.format]
  have positions : Config.positions? c' = Config.positions? c := by
    ext b
    rw [Config.positions?_eq_some_iff, Config.positions?_eq_some_iff, alike.positions]
  have strict : Config.strict? c' = Config.strict? c := by
    ext b
    rw [Config.strict?_eq_some_iff, Config.strict?_eq_some_iff, alike.strict]
  unfold merge
  rw [format, positions, strict]

theorem inputOf_eq_none_iff : inputOf a = none ↔ a.input = "-" := by
  unfold inputOf
  split <;> simp [*]

end Settings

open CommandLine Settings

/-- The settings of a command line, whose configuration is a table or is missing. Each of the three
settings that a configuration knows is taken from the command line if it is given there, else from
the configuration if it has a value of the right kind, and else is the default. So two
configurations that give the same three values come to the same settings or the same error,
whatever else they hold. A format of the command line stands whatever the configuration holds, and
an output or configuration file given as an empty text, or as nothing but a separator, is as good as
not given. -/
theorem settings_chosen {a : Arguments} {w : World} {c : Toml.Table}
    (found : ConfigAt w (configPath a) (.ok c)) :
    (∀ s, w.settings a = .ok s →
      EffectiveFormat a c (.text s.format.name) ∧
        Chosen a.positions (fun b => Config.Gives c "output" "positions" (.boolean b)) true
          s.positions ∧
        Chosen (if a.strict then some true else none)
          (fun b => Config.Gives c "check" "strict" (.boolean b)) false s.strict) ∧
      (∀ w' c', ConfigAt w' (configPath a) (.ok c') → Config.Alike c c' →
        w'.settings a = w.settings a) ∧
      (∀ f : Format, a.format = some (.text f.name) → (a.watch = true → a.input ≠ "-") →
        ∃ s, w.settings a = .ok s ∧ s.format = f) ∧
      ∀ v ∈ [OptionValue.text "", .blank],
        w.settings { a with output := some v } = w.settings { a with output := none } ∧
          w.settings { a with config := some v } = w.settings { a with config := none } := by
  have merged : w.settings a = merge a c := by
    rw [settings_eq, found.config_eq]
    rfl
  refine ⟨fun s settled => ?_, fun w' c' found' alike => ?_, fun f named allowed => ?_, ?_⟩
  · obtain ⟨v, effective⟩ : ∃ v, EffectiveFormat a c v := ⟨_, effectiveFormat_iff.2 rfl⟩
    obtain ⟨-, f, rfl, rfl⟩ := (merge_eq_ok_iff effective).1 (merged.symm.trans settled)
    refine ⟨effective, (chosen_iff fun b => Config.positions?_eq_some_iff).2 rfl,
      (chosen_iff fun b => Config.strict?_eq_some_iff).2 ?_⟩
    unfold ofFormat
    cases a.strict <;> rfl
  · rw [merged, settings_eq, found'.config_eq]
    exact merge_of_alike alike
  · refine ⟨ofFormat a c f, merged.trans ((merge_eq_ok_iff (.given named)).2 ⟨?_, f, rfl, rfl⟩), rfl⟩
    rintro ⟨watched, standard⟩
    exact allowed watched (inputOf_eq_none_iff.1 standard)
  · intro v empty
    simp only [List.mem_cons, List.not_mem_nil, or_false] at empty
    rcases empty with rfl | rfl <;> exact ⟨rfl, rfl⟩

/-- A number in the place of a table, an unknown format that the command line overrides, and a
number in the place of a truth value. -/
theorem settings_of_misfits :
    let text := "check = 1\n[output]\nformat = \"yaml\"\npositions = 0\n"
    let w := (World.blank 0).place "monkeylex.toml" (Text.Utf8.encode text)
    let a : Arguments := ⟨⟨none, some (.text "json"), none, none, false, false, false⟩, "m"⟩
    CommandLine.parse ["m", "--format", "json"] = .ok a ∧
      ∃ c, Toml.parse text = .ok c ∧ ConfigAt w (configPath a) (.ok c) ∧
        ∃ s, w.settings a = .ok s ∧ s.format = .json ∧ s.positions = true ∧ s.strict = false := by
  intro text w a
  have accepted : CommandLine.parse ["m", "--format", "json"] = .ok a := by decide +kernel
  obtain ⟨c, parsed⟩ : ∃ c, Toml.parse text = .ok c := by
    have there : (Toml.parse text).toOption.isSome = true := by decide +kernel
    revert there
    cases Toml.parse text with
    | ok c => exact fun _ => ⟨c, rfl⟩
    | error e => exact nofun
  have silent : (Toml.parse text).map (fun c => (Config.positions? c, Config.strict? c)) =
      .ok (none, none) := by
    decide +kernel
  rw [parsed] at silent
  obtain ⟨positions, strict⟩ := Prod.mk.inj (Except.ok.inj silent)
  have file : w.file? (configPath a) = some (Text.Utf8.encode text) := by decide +kernel
  have decoded : Text.Utf8.decode (Text.Utf8.encode text) = .ok text := by decide +kernel
  have found : ConfigAt w (configPath a) (.ok c) := .document file decoded parsed
  obtain ⟨chosen, -, overrides, -⟩ := settings_chosen found
  obtain ⟨s, settled, format⟩ := overrides .json rfl nofun
  obtain ⟨-, shown, failing⟩ := chosen s settled
  rw [chosen_iff fun b => Config.positions?_eq_some_iff, positions] at shown
  rw [chosen_iff fun b => Config.strict?_eq_some_iff, strict] at failing
  exact ⟨accepted, c, parsed, found, s, settled, format, shown.symm, failing.symm⟩

end Program

end MonkeyScan
