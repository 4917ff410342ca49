import MonkeyScan.Proofs.SinglePass

/-!
The configuration that a path leads to in a world. What there is at the path decides it: nothing, a
file that is a TOML document, or a file that is none (`ConfigAt`); each world has exactly one of
these at a path (`configAt_config`, `ConfigAt.config_eq`). A path that cannot be followed leads to
nothing, unless it is too long to be asked about (`locate_error`).
-/

namespace MonkeyScan

open MonkeyScan.Files

/-- Following names fails for three causes only. -/
theorem Files.Tree.follow_error {t : Tree} {here : Location} {names : List String} {cause : Cause}
    (h : t.follow here names = .error cause) :
    cause = .tooLong ∨ cause = .missing ∨ cause = .notFolder := by
  induction names generalizing here with
  | nil => cases h
  | cons name names ih =>
    unfold Tree.follow at h
    split at h
    case h_1 =>
      split at h
      case isTrue => exact .inl (Except.error.inj h).symm
      case isFalse => exact ih h
    case h_2 => exact .inr (.inr (Except.error.inj h).symm)
    case h_3 => exact .inr (.inl (Except.error.inj h).symm)

theorem Files.Tree.locate_error {t : Tree} {base : Location} {p : Path} {cause : Cause}
    (h : t.locate base p = .error cause) :
    cause = .tooLong ∨ cause = .missing ∨ cause = .notFolder := by
  unfold Tree.locate at h
  split at h
  case isTrue => exact .inl (Except.error.inj h).symm
  case isFalse => exact follow_error h

theorem Files.Tree.isFile_eq {t : Tree} {base loc : Location} {p : Path}
    (found : t.locate base p = .ok loc) : t.isFile base p = .ok (t.content? loc).isSome := by
  unfold Tree.isFile Tree.content?
  rw [found]
  dsimp only
  cases t.find? loc with
  | none => rfl
  | some e => cases e <;> rfl

namespace Program

namespace World

/-- The bytes of the file that a path leads to, if it leads to a file. -/
def file? (w : World) (p : Path) : Option (List UInt8) :=
  if p.hasNull then none
  else match w.tree.locate w.base p with
    | .ok loc => w.tree.content? loc
    | .error _ => none

/-- The path, or a name in it, is longer than can be asked about. -/
def Overlong (w : World) (p : Path) : Prop :=
  p.hasNull = false ∧ w.tree.locate w.base p = .error .tooLong

/-- The configuration that a path leads to. -/
def config (w : World) (p : Path) : Except SettingsError Toml.Table :=
  ((Config.load p : StateM World _).run w).1

end World

/-- What there is at a path, and the configuration that comes of it. -/
inductive ConfigAt (w : World) (p : Path) : Except SettingsError Toml.Table → Prop
  | absent : w.file? p = none → ¬ w.Overlong p → ConfigAt w p (.ok [])
  | document {bytes : List UInt8} {text : String} {c : Toml.Table} : w.file? p = some bytes →
      Text.Utf8.decode bytes = .ok text → Toml.parse text = .ok c → ConfigAt w p (.ok c)
  | malformed {bytes : List UInt8} {text : String} : w.file? p = some bytes →
      Text.Utf8.decode bytes = .ok text → Toml.parse text = .error .malformed →
      ConfigAt w p (.error .malformedConfig)
  | undecodable {bytes : List UInt8} {fault : Text.Utf8.Fault} : w.file? p = some bytes →
      Text.Utf8.decode bytes = .error fault →
      ConfigAt w p (.error (.unreadableConfig (.text fault)))
  | beyond {bytes : List UInt8} {text : String} {limit : Toml.Limit} : w.file? p = some bytes →
      Text.Utf8.decode bytes = .ok text → Toml.parse text = .error (.beyond limit) →
      ConfigAt w p (.error (.unreadableConfig (.toml limit)))
  | overlong : w.Overlong p → ConfigAt w p (.error (.unreadableConfig (.file ⟨.tooLong, p⟩)))

section

variable {w : World} {p : Path} {bytes : List UInt8}

theorem config_of_hasNull (h : p.hasNull = true) : w.config p = .ok [] := by
  unfold World.config Config.load findsFile
  rw [if_pos h]
  rfl

/-- A path that can be handed to the system is first asked about, then read. -/
theorem config_of_clean (h : p.hasNull = false) :
    w.config p =
      match w.tree.isFile w.base p, w.tree.read w.base p with
      | .error e, _ => .error (.unreadableConfig (.file e))
      | .ok false, _ => .ok []
      | .ok true, .error e => .error (.unreadableConfig (.file e))
      | .ok true, .ok bytes => Config.ofBytes bytes := by
  have clean : ¬ p.hasNull = true := by simp [h]
  unfold World.config Config.load findsFile readBytes
  rw [if_neg clean, if_neg clean]
  cases asked : w.tree.isFile w.base p with
  | error e =>
    rw [run_bind, run_bind, World.run_isFile, asked]
    rfl
  | ok there =>
    rw [run_bind, run_bind, World.run_isFile, asked]
    cases there with
    | false => rfl
    | true =>
      change ((_ >>= _ : StateM World _).run w).1 = _
      rw [run_bind, run_bind, World.run_readFile]
      cases w.tree.read w.base p <;> rfl

theorem config_of_overlong (h : w.Overlong p) :
    w.config p = .error (.unreadableConfig (.file ⟨.tooLong, p⟩)) := by
  rw [config_of_clean h.1, Tree.isFile, h.2]

theorem config_of_absent (h : w.file? p = none) (short : ¬ w.Overlong p) : w.config p = .ok [] := by
  cases null : p.hasNull with
  | true => exact config_of_hasNull null
  | false =>
    unfold World.file? at h
    rw [if_neg (by simp [null])] at h
    rw [config_of_clean null]
    cases found : w.tree.locate w.base p with
    | error cause =>
      rcases Tree.locate_error found with rfl | rfl | rfl
      · exact absurd ⟨null, found⟩ short
      all_goals rw [Tree.isFile, found]
    | ok loc =>
      rw [found] at h
      rw [Tree.isFile_eq found, show w.tree.content? loc = none from h]
      rfl

theorem config_of_file (h : w.file? p = some bytes) : w.config p = Config.ofBytes bytes := by
  unfold World.file? at h
  cases null : p.hasNull with
  | true =>
    rw [if_pos null] at h
    cases h
  | false =>
    rw [if_neg (by simp [null])] at h
    cases found : w.tree.locate w.base p with
    | error cause =>
      rw [found] at h
      cases h
    | ok loc =>
      rw [found] at h
      have there : w.tree.content? loc = some bytes := h
      rw [config_of_clean null, Tree.isFile_eq found, Tree.read_eq_ok found there, there]
      rfl

/-- Each world has a configuration at a path, or a reason why there is none. -/
theorem configAt_config (w : World) (p : Path) : ConfigAt w p (w.config p) := by
  cases file : w.file? p with
  | none =>
    by_cases long : w.Overlong p
    · rw [config_of_overlong long]
      exact .overlong long
    · rw [config_of_absent file long]
      exact .absent file long
  | some bytes =>
    rw [config_of_file file]
    unfold Config.ofBytes
    cases decoded : Text.Utf8.decode bytes with
    | error fault => exact .undecodable file decoded
    | ok text =>
      dsimp only
      cases parsed : Toml.parse text with
      | ok c => exact .document file decoded parsed
      | error refusal =>
        cases refusal with
        | malformed => exact .malformed file decoded parsed
        | beyond limit => exact .beyond file decoded parsed

theorem ConfigAt.config_eq {r : Except SettingsError Toml.Table} (h : ConfigAt w p r) :
    w.config p = r := by
  cases h with
  | absent file short => exact config_of_absent file short
  | overlong long => exact config_of_overlong long
  | undecodable file decoded => rw [config_of_file file, Config.ofBytes, decoded]
  | document file decoded parsed | malformed file decoded parsed | beyond file decoded parsed =>
    rw [config_of_file file, Config.ofBytes, decoded]
    dsimp only
    rw [parsed]

end

/-- The settings of a command line come from it and from the configuration that it leads to. -/
theorem settings_eq (w : World) (a : CommandLine.Arguments) :
    w.settings a = (w.config (Settings.configPath a)).bind (Settings.merge a) := by
  unfold World.settings Settings.resolve
  rw [(onlyReads_load _).run_bind]
  unfold World.config
  cases ((Config.load (Settings.configPath a) : StateM World _).run w).1 <;> rfl

end Program

end MonkeyScan
