import MonkeyScan.Proofs.Spellings
import Mathlib.Data.List.Induction

/-!
Command lines that are read back. A command line mentions options in any order and as often as it
likes, each spelled in one of several ways (`Spelled`), with the input anywhere among them, or at
the end behind a separator (`Renders`). Each mention is read as an option and has its own effect
only (`Spelled.reads`), and what a row of them comes to is what the last mention of each option says
(`foldl_mention`). Main statement: `parse_of_renders`.
-/

namespace MonkeyScan.CommandLine

open CommandLine.Flag CommandLine.Item

/-- An option as a command line mentions it. -/
inductive Mention where
  | output (path : String)
  | format (name : String)
  | config (path : String)
  | positions (shown : Bool)
  | strict
  | watch
  | debug
deriving DecidableEq

namespace Mention

def flag : Mention → Flag
  | output _ => .output
  | format _ => .format
  | config _ => .config
  | positions shown => .positions shown
  | strict => .strict
  | watch => .watch
  | debug => .debug

/-- The value that follows the name. -/
def value? : Mention → Option String
  | output value | format value | config value => some value
  | _ => none

/-- Whether positions are asked for, or asked to be left out. -/
def shown? : Mention → Option Bool
  | positions shown => some shown
  | _ => none

theorem takesValue_flag (m : Mention) : m.flag.takesValue = m.value?.isSome := by
  cases m <;> rfl

theorem flag_ne_help (m : Mention) : m.flag ≠ .help := by
  cases m <;> nofun

end Mention

/-- The value at the last mention of an option. -/
def lastValue (flag : Flag) (ms : List Mention) : Option OptionValue :=
  ((ms.filter (·.flag = flag)).filterMap Mention.value?).getLast?.map .text

namespace Choices

/-- What mentions of options say, one after the other: the last value of each option that has one,
the last that is said of positions, and of the others whether they are mentioned. -/
def ofMentions (ms : List Mention) : Choices where
  output := lastValue .output ms
  format := lastValue .format ms
  config := lastValue .config ms
  positions := (ms.filterMap Mention.shown?).getLast?
  strict := .strict ∈ ms
  watch := .watch ∈ ms
  debug := .debug ∈ ms

/-- One more mention. -/
def mention (c : Choices) (m : Mention) : Choices := c.choose (.text (m.value?.getD "")) m.flag

theorem foldl_mention (ms : List Mention) : ms.foldl mention none = ofMentions ms := by
  induction ms using List.reverseRecOn with
  | nil => rfl
  | append_singleton ms m ih =>
    rw [List.foldl_append, ih]
    cases m <;>
      simp [mention, choose, ofMentions, lastValue, Mention.flag, Mention.value?, Mention.shown?]

end Choices

/-- The ways in which a mention is spelled. An option with a value has it in an argument of its own,
behind an equals sign, or directly behind a short name. -/
inductive Spelled : Mention → List String → Prop where
  | switch {m : Mention} (name : String) (valueless : m.value? = none)
      (named : IsLongName m.flag name) : Spelled m [name]
  | apart {m : Mention} (name value : String) (valued : m.value? = some value)
      (named : IsLongName m.flag name ∨ IsShortName m.flag name) (word : IsWord value) :
      Spelled m [name, value]
  | equals {m : Mention} (name value : String) (valued : m.value? = some value)
      (named : IsLongName m.flag name ∨ IsShortName m.flag name) (separate : value ≠ "--") :
      Spelled m [name ++ "=" ++ value]
  | attached {m : Mention} (name value : String) (valued : m.value? = some value)
      (named : IsShortName m.flag name) (nonempty : value ≠ "")
      (start : value.toList.head? ≠ some '=') (separate : value ≠ "--") :
      Spelled m [name ++ value]

/-- Arguments that spell mentions one after the other. -/
inductive SpelledAll : List Mention → List String → Prop where
  | nil : SpelledAll [] []
  | cons {m : Mention} {ms : List Mention} {part argv : List String} (first : Spelled m part)
      (others : SpelledAll ms argv) : SpelledAll (m :: ms) (part ++ argv)

/-- A command line with these mentions and this input. Among the mentions the input must not look
like an option; behind a separator it may be anything. -/
inductive Renders : List Mention → String → List String → Prop where
  | among {before after : List Mention} {argv argv' : List String} {input : String}
      (word : IsWord input) (left : SpelledAll before argv) (right : SpelledAll after argv') :
      Renders (before ++ after) input (argv ++ input :: argv')
  | behind {ms : List Mention} {argv : List String} (input : String) (left : SpelledAll ms argv) :
      Renders ms input (argv ++ ["--", input])

namespace Progress

/-- More mentions. -/
def after (p : Progress) (ms : List Mention) : Progress :=
  { p with choices := ms.foldl Choices.mention p.choices }

section

variable {p : Progress} {m : Mention} {more : List Item} {short : Bool} {value s : String}

theorem after_of_value (valued : m.value? = some value) (separate : value ≠ "--") :
    p.choose m.flag value = p.after [m] := by
  rw [choose, OptionValue.ofText_of_ne separate]
  simp only [after, List.foldl_cons, List.foldl_nil, Choices.mention, valued, Option.getD_some]

theorem readAll_switch (valueless : m.value? = none) :
    p.readAll (.option m.flag short none :: more) = (p.after [m]).readAll more := by
  have takes : m.flag.takesValue = false := by rw [m.takesValue_flag, valueless]; rfl
  have switched : p.switchWith m.flag short (valueFollows more) none = .ok (p.after [m]) := by
    unfold switchWith switch
    rw [if_neg m.flag_ne_help]
    simp only [choose, after, List.foldl_cons, List.foldl_nil, Choices.mention, valueless]
    rfl
  rw [readAll.eq_def]
  dsimp only
  rw [takes, switched]
  rfl

theorem readAll_apart (valued : m.value? = some value) (separate : value ≠ "--") :
    p.readAll (.option m.flag short none :: .plain value :: more) = (p.after [m]).readAll more := by
  have takes : m.flag.takesValue = true := by rw [m.takesValue_flag, valued]; rfl
  rw [readAll, if_pos takes, after_of_value valued separate]

theorem readAll_attached (valued : m.value? = some value) (separate : value ≠ "--") :
    p.readAll (.option m.flag short (some value.toList) :: more) = (p.after [m]).readAll more := by
  have takes : m.flag.takesValue = true := by rw [m.takesValue_flag, valued]; rfl
  rw [readAll, if_pos takes, String.ofList_toList, after_of_value valued separate]

theorem readAll_plain (unset : p.input = none) (next : more.head? ≠ some .separator) :
    p.readAll (.plain s :: more) = readAll { p with input := some s } more := by
  rw [readAll, unset]
  rintro more' rfl
  exact next rfl

theorem readAll_separator (unset : p.input = none) :
    p.readAll (.separator :: .plain s :: more) = readAll { p with input := some s } more := by
  rw [readAll, unset]

end

end Progress

/-- Arguments that are read as items, whatever follows, and what mentions the items come to. -/
structure Reads (ms : List Mention) (part : List String) (items : List Item) : Prop where
  classified : ∀ rest more, ofArguments rest = .ok more →
    ofArguments (part ++ rest) = .ok (items ++ more)
  unseparated : .separator ∉ items
  effect : ∀ (p : Progress) (more : List Item),
    p.readAll (items ++ more) = (p.after ms).readAll more

theorem Spelled.reads {m : Mention} {part : List String} (h : Spelled m part) :
    ∃ items, Reads [m] part items := by
  cases h with
  | switch name valueless named =>
    exact ⟨[.option m.flag false none], fun rest more =>
      ofArguments_cons (ofArgument_of_long named), by simp,
      fun p more => Progress.readAll_switch valueless⟩
  | apart name value valued named word =>
    obtain ⟨short, read⟩ : ∃ short, ofArgument name = .ok (.option m.flag short none) :=
      named.elim (fun long => ⟨false, ofArgument_of_long long⟩)
        fun short => ⟨true, ofArgument_of_short short⟩
    exact ⟨[.option m.flag short none, .plain value], fun rest more behind =>
      ofArguments_cons read (ofArguments_cons (ofArgument_of_word word) behind), by simp,
      fun p more => Progress.readAll_apart valued word.ne_separator⟩
  | equals name value valued named separate =>
    obtain ⟨short, read⟩ : ∃ short, ofArgument (name ++ "=" ++ value) =
        .ok (.option m.flag short (some value.toList)) :=
      named.elim (fun long => ⟨false, ofArgument_of_long_equals long value⟩)
        fun short => ⟨true, ofArgument_of_short_equals short value⟩
    exact ⟨[.option m.flag short (some value.toList)], fun rest more => ofArguments_cons read,
      by simp, fun p more => Progress.readAll_attached valued separate⟩
  | attached name value valued named nonempty start separate =>
    exact ⟨[.option m.flag true (some value.toList)], fun rest more =>
      ofArguments_cons (ofArgument_of_short_attached named nonempty start), by simp,
      fun p more => Progress.readAll_attached valued separate⟩

theorem SpelledAll.reads {ms : List Mention} {argv : List String} (h : SpelledAll ms argv) :
    ∃ items, Reads ms argv items := by
  induction h with
  | nil => exact ⟨[], fun rest more => id, List.not_mem_nil, fun p more => rfl⟩
  | @cons m ms part argv first others ih =>
    obtain ⟨items, read⟩ := first.reads
    obtain ⟨items', reads⟩ := ih
    refine ⟨items ++ items', fun rest more behind => ?_, fun mem => ?_, fun p more => ?_⟩
    · rw [List.append_assoc, List.append_assoc]
      exact read.classified _ _ (reads.classified _ _ behind)
    · exact (List.mem_append.1 mem).elim read.unseparated reads.unseparated
    · rw [List.append_assoc, read.effect, reads.effect]
      rfl

/-- A command line gives back the input and what its mentions of options say, whichever way it is
rendered. -/
theorem parse_of_renders {ms : List Mention} {input : String} {argv : List String}
    (h : Renders ms input argv) : parse argv = .ok ⟨.ofMentions ms, input⟩ := by
  obtain ⟨items, classified, effect⟩ : ∃ items, ofArguments argv = .ok items ∧
      Progress.start.readAll items = .ok { Progress.start.after ms with input := some input } := by
    cases h with
    | @among before after argv argv' input word left right =>
      obtain ⟨items, reads⟩ := left.reads
      obtain ⟨items', reads'⟩ := right.reads
      have behind := reads'.classified [] [] rfl
      rw [List.append_nil, List.append_nil] at behind
      refine ⟨items ++ .plain input :: items',
        reads.classified _ _ (ofArguments_cons (ofArgument_of_word word) behind), ?_⟩
      -- a separator next to the input would be taken with it, but there is none
      rw [reads.effect, Progress.readAll_plain rfl fun first =>
        reads'.unseparated (List.mem_of_head? first)]
      have ended := reads'.effect { Progress.start.after before with input := some input } []
      rw [List.append_nil] at ended
      rw [ended, Progress.after, Progress.after, Progress.after, List.foldl_append]
      rfl
    | behind input left =>
      obtain ⟨items, reads⟩ := left.reads
      refine ⟨items ++ [.separator, .plain input], reads.classified _ _ rfl, ?_⟩
      rw [reads.effect, Progress.readAll_separator rfl]
      rfl
  have finished : Progress.finish { Progress.start.after ms with input := some input } =
      .ok ⟨.ofMentions ms, input⟩ := by
    rw [← Choices.foldl_mention ms]
    rfl
  unfold parse
  rw [classified]
  change (Progress.start.readAll items >>= fun p => p.finish.mapError .usage) = _
  rw [effect]
  exact congrArg (Except.mapError .usage) finished

/-- Mentions in every spelling, with the input in the middle and two of them overruled behind it. -/
theorem parse_of_mixed_rendering :
    let argv := ["--out=a=b", "-fjson", "--po", "m", "-o", "-", "--no", "--st"]
    let ms : List Mention := [.output "a=b", .format "json", .positions true, .output "-",
      .positions false, .strict]
    Renders ms "m" argv ∧
      parse argv = .ok ⟨⟨some (.text "-"), some (.text "json"), none, some false, true, false,
        false⟩, "m"⟩ := by
  intro argv ms
  have left : SpelledAll [.output "a=b", .format "json", .positions true]
      ["--out=a=b", "-fjson", "--po"] :=
    .cons (.equals "--out" "a=b" rfl (by decide +kernel) (by decide)) <|
    .cons (.attached "-f" "json" rfl (by decide +kernel) (by decide) (by decide) (by decide)) <|
    .cons (.switch "--po" rfl (by decide +kernel)) .nil
  have right : SpelledAll [.output "-", .positions false, .strict] ["-o", "-", "--no", "--st"] :=
    .cons (.apart "-o" "-" rfl (by decide +kernel) (by decide)) <|
    .cons (.switch "--no" rfl (by decide +kernel)) <|
    .cons (.switch "--st" rfl (by decide +kernel)) .nil
  have renders : Renders ms "m" argv := .among (by decide) left right
  exact ⟨renders, parse_of_renders renders⟩

end MonkeyScan.CommandLine
