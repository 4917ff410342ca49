import MonkeyScan.CommandLine.Arguments
import Mathlib.Data.List.TakeWhile

/-!
What the arguments of a command line are read as, one by one. A long spelling may be shortened, and
that it still means one option rests on the table: no two long spellings share the letter behind
their hyphens (`Flag.eq_of_start`). A value may follow an equals sign, or stand directly behind a
short spelling, and what it is made of does not matter.
-/

namespace MonkeyScan.CommandLine

namespace Flag

/-- A name with two hyphens: a spelling in full, or its start up to a letter behind the hyphens at
least. -/
def IsLongName (flag : Flag) (name : String) : Prop :=
  3 ≤ name.length ∧ ∃ e ∈ spellings, e.2 = flag ∧ name.toList <+: e.1.toList

instance (flag : Flag) (name : String) : Decidable (IsLongName flag name) :=
  inferInstanceAs (Decidable (_ ∧ _))

/-- A name with one hyphen and one letter. -/
def IsShortName (flag : Flag) (name : String) : Prop :=
  name.length = 2 ∧ (name, flag) ∈ spellings

instance (flag : Flag) (name : String) : Decidable (IsShortName flag name) :=
  inferInstanceAs (Decidable (_ ∧ _))

section

variable {flag other : Flag} {name full : String} {cs : List Char}

theorem ofSpelling?_of_mem (mem : (name, flag) ∈ spellings) :
    ofSpelling? name.toList = some flag := by
  have all : ∀ e ∈ spellings, spellings.lookup e.1 = some e.2 := by decide +kernel
  unfold ofSpelling?
  rw [String.ofList_toList]
  exact all _ mem

theorem mem_of_ofSpelling? (spelled : ofSpelling? cs = some flag) :
    (String.ofList cs, flag) ∈ spellings := by
  obtain ⟨before, behind, split, -⟩ := List.lookup_eq_some_iff.1 spelled
  rw [split]
  exact List.mem_append_right _ List.mem_cons_self

/-- A spelling starts with a hyphen, and it is a long one if another follows. -/
theorem hyphens_of_mem (mem : (name, flag) ∈ spellings) :
    ∃ c behind, name.toList = '-' :: c :: behind ∧ (c = '-' ↔ behind ≠ []) := by
  have all : ∀ e ∈ spellings, e.1.toList = '-' :: e.1.toList.tail ∧
      e.1.toList.tail = (e.1.toList.tail.headD ' ') :: e.1.toList.drop 2 ∧
      (e.1.toList.tail.headD ' ' = '-' ↔ e.1.toList.drop 2 ≠ []) := by
    decide +kernel
  obtain ⟨first, second, long⟩ := all _ mem
  exact ⟨_, _, first.trans (congrArg _ second), long⟩

theorem equals_not_mem_of_mem (mem : (name, flag) ∈ spellings) : '=' ∉ name.toList := by
  have all : ∀ e ∈ spellings, '=' ∉ e.1.toList := by decide +kernel
  exact all _ mem

/-- Two hyphens and a letter tell the spellings apart. -/
theorem eq_of_start (mem : (full, flag) ∈ spellings) (mem' : (name, other) ∈ spellings)
    (long : 3 ≤ cs.length) (start : cs <+: full.toList) (start' : cs <+: name.toList) :
    (name, other) = (full, flag) := by
  have all : ∀ e ∈ spellings, ∀ e' ∈ spellings, 3 ≤ e.1.toList.length →
      e.1.toList.take 3 = e'.1.toList.take 3 → e' = e := by
    decide +kernel
  refine all _ mem _ mem' (Nat.le_trans long start.length_le) ?_
  obtain ⟨more, split⟩ := start
  obtain ⟨more', split'⟩ := start'
  rw [← split, ← split', List.take_append_of_le_length long, List.take_append_of_le_length long]

theorem filter_eq_of_mem (mem : (name, flag) ∈ spellings) :
    spellings.filter (· = (name, flag)) = [(name, flag)] := by
  have all : ∀ e ∈ spellings, spellings.filter (· = e) = [e] := by decide +kernel
  exact all _ mem

namespace IsLongName

theorem hyphens (h : IsLongName flag name) :
    ∃ c behind, name.toList = '-' :: '-' :: c :: behind := by
  obtain ⟨long, ⟨full, _⟩, mem, rfl, more, split⟩ := h
  obtain ⟨c, behind, spelled, second⟩ := hyphens_of_mem mem
  rw [← String.length_toList] at long
  match shape : name.toList with
  | [] | [_] | [_, _] => rw [shape] at long; contradiction
  | a :: b :: c' :: behind' =>
    rw [shape, spelled] at split
    cases split
    exact ⟨c', behind', by rw [second.2 (List.cons_ne_nil _ _)]⟩

theorem equals_not_mem (h : IsLongName flag name) : '=' ∉ name.toList :=
  have ⟨_, _, mem, _, start⟩ := h
  fun within => equals_not_mem_of_mem mem (start.subset within)

/-- A shortened name that is a spelling in full is one of the same option. -/
theorem of_ofSpelling? (h : IsLongName flag name) (spelled : ofSpelling? name.toList = some other) :
    other = flag := by
  obtain ⟨long, ⟨full, _⟩, mem, rfl, start⟩ := h
  have mem' := mem_of_ofSpelling? spelled
  rw [String.ofList_toList] at mem'
  exact congrArg Prod.snd (eq_of_start mem mem' long start (List.prefix_refl _))

/-- Of all spellings a shortened name starts one. -/
theorem filter_eq (h : IsLongName flag name) :
    ∃ full, spellings.filter (fun (spelling, _) => name.toList.isPrefixOf spelling.toList) =
      [(full, flag)] := by
  obtain ⟨long, ⟨full, _⟩, mem, rfl, start⟩ := h
  refine ⟨full, (List.filter_congr fun e mem' => ?_).trans (filter_eq_of_mem mem)⟩
  rw [Bool.eq_iff_iff, List.isPrefixOf_iff_prefix, decide_eq_true_iff]
  refine ⟨eq_of_start mem mem' long start, ?_⟩
  rintro rfl
  exact start

end IsLongName

namespace IsShortName

theorem hyphen (h : IsShortName flag name) : ∃ c, name.toList = ['-', c] ∧ c ≠ '-' := by
  obtain ⟨short, mem⟩ := h
  obtain ⟨c, behind, spelled, second⟩ := hyphens_of_mem mem
  rw [← String.length_toList, spelled] at short
  obtain rfl : behind = [] := List.length_eq_zero_iff.1 (Nat.succ.inj (Nat.succ.inj short))
  exact ⟨c, spelled, fun hyphen => second.1 hyphen rfl⟩

theorem filter_eq (h : IsShortName flag name) :
    spellings.filter (fun (spelling, _) => spelling.toList = name.toList) = [(name, flag)] := by
  refine (List.filter_congr fun e mem => ?_).trans (filter_eq_of_mem h.2)
  rw [decide_eq_decide, String.toList_inj]
  refine ⟨fun same => ?_, congrArg Prod.fst⟩
  have spelled := ofSpelling?_of_mem (same ▸ mem : (name, e.2) ∈ spellings)
  rw [ofSpelling?_of_mem h.2] at spelled
  exact Prod.ext same (Option.some.inj spelled).symm

end IsShortName

theorem ofSpelling?_of_equals (within : '=' ∈ cs) : ofSpelling? cs = none := by
  rw [Option.eq_none_iff_forall_ne_some]
  intro flag spelled
  have absent := equals_not_mem_of_mem (mem_of_ofSpelling? spelled)
  rw [String.toList_ofList] at absent
  exact absent within

/-- A single hyphen and two more letters spell nothing in full. -/
theorem ofSpelling?_of_long {a b : Char} (single : a ≠ '-') :
    ofSpelling? ('-' :: a :: b :: cs) = none := by
  rw [Option.eq_none_iff_forall_ne_some]
  intro flag spelled
  obtain ⟨c, behind, split, second⟩ := hyphens_of_mem (mem_of_ofSpelling? spelled)
  rw [String.toList_ofList] at split
  cases split
  exact single (second.2 (List.cons_ne_nil _ _))

end

end Flag

namespace Item

open CommandLine.Flag

section

variable {flag : Flag} {name value s : String} {cs vs : List Char} {item : Item}

theorem splitEquals_of_not_mem (plain : '=' ∉ cs) : splitEquals cs = (cs, none) := by
  unfold splitEquals
  rw [List.dropWhile_eq_nil_iff.2]
  intro c mem
  exact decide_eq_true (ne_of_mem_of_not_mem mem plain)

theorem splitEquals_append (plain : '=' ∉ cs) (vs : List Char) :
    splitEquals (cs ++ '=' :: vs) = (cs, some vs) := by
  have before : ∀ c ∈ cs, decide (c ≠ '=') = true := fun c mem =>
    decide_eq_true (ne_of_mem_of_not_mem mem plain)
  unfold splitEquals
  rw [List.dropWhile_append_of_pos before, List.takeWhile_append_of_pos before]
  simp

theorem splitEquals_fst (cs : List Char) : (splitEquals cs).1 = cs.takeWhile (· ≠ '=') := by
  unfold splitEquals
  split
  · next all => exact (List.takeWhile_eq_self_iff.2 (List.dropWhile_eq_nil_iff.1 all)).symm
  · rfl

/-- A spelling in full. -/
theorem ofArgument_of_spelling (spelled : ofSpelling? s.toList = some flag) :
    ofArgument s = .ok (.option flag (isShort s.toList) none) := by
  obtain ⟨c, behind, split, -⟩ := hyphens_of_mem (mem_of_ofSpelling? spelled)
  rw [String.toList_ofList] at split
  unfold ofArgument
  dsimp only
  rw [spelled, split, if_neg (by simp)]

/-- A spelling in full, an equals sign and a value. -/
theorem ofArgument_of_equals (spelled : ofSpelling? name.toList = some flag)
    (split : s.toList = name.toList ++ '=' :: vs) :
    ofArgument s = .ok (.option flag (isShort name.toList) (some vs)) := by
  have mem := mem_of_ofSpelling? spelled
  rw [String.ofList_toList] at mem
  obtain ⟨c, behind, start, -⟩ := hyphens_of_mem mem
  have unspelled : ofSpelling? s.toList = none :=
    ofSpelling?_of_equals (split ▸ List.mem_append_right _ List.mem_cons_self)
  unfold ofArgument
  dsimp only
  rw [unspelled, split, splitEquals_append (equals_not_mem_of_mem mem) vs]
  dsimp only
  rw [spelled, start, if_neg (by simp)]

/-- An argument that may mean one spelling only. -/
theorem ofArgument_of_candidates {c : Char} (chars : s.toList = '-' :: c :: cs)
    (unspelled : ofSpelling? s.toList = none)
    (unspelled' : (splitEquals s.toList).2 = none ∨ ofSpelling? (splitEquals s.toList).1 = none)
    (only : candidates s.toList = [(name, item)]) : ofArgument s = .ok item := by
  unfold ofArgument
  dsimp only
  rw [unspelled, if_neg (by simp [chars])]
  cases split : splitEquals s.toList with
  | mk start value? =>
    rw [split] at unspelled'
    obtain rfl | unspelled' := unspelled'
    · simp only [only]
    · dsimp only at unspelled'
      simp only [unspelled', only]

theorem candidates_of_long (h : IsLongName flag name) {behind : List Char}
    {value? : Option (List Char)} (hyphens : cs = '-' :: '-' :: behind)
    (split : splitEquals cs = (name.toList, value?)) :
    ∃ full, candidates cs = [(full, .option flag false value?)] := by
  obtain ⟨full, only⟩ := h.filter_eq
  refine ⟨full, ?_⟩
  subst hyphens
  unfold candidates
  simp only [split, only, List.map_cons, List.map_nil]

theorem candidates_of_short (h : IsShortName flag name) {c : Char}
    (hyphen : name.toList = ['-', c]) (single : c ≠ '-') (vs : List Char) :
    candidates ('-' :: c :: vs) = [(name, .option flag true (some vs))] := by
  have only := h.filter_eq
  rw [hyphen] at only
  unfold candidates
  split
  · next same => exact absurd (List.cons.inj (List.cons.inj same).2).1 single
  · next same =>
    cases same
    rw [only]
    rfl
  · next none => exact absurd rfl (none _ _ _)

/-- A long name alone. -/
theorem ofArgument_of_long (h : IsLongName flag name) :
    ofArgument name = .ok (.option flag false none) := by
  obtain ⟨c, behind, hyphens⟩ := h.hyphens
  -- a name in full is looked up before a shortened one is searched for
  cases spelled : ofSpelling? name.toList with
  | some other =>
    rw [ofArgument_of_spelling spelled, h.of_ofSpelling? spelled, hyphens]
    rfl
  | none =>
    have split := splitEquals_of_not_mem h.equals_not_mem
    obtain ⟨full, only⟩ := candidates_of_long h hyphens split
    exact ofArgument_of_candidates hyphens spelled (.inl (congrArg Prod.snd split)) only

/-- A long name, an equals sign and a value. -/
theorem ofArgument_of_long_equals (h : IsLongName flag name) (value : String) :
    ofArgument (name ++ "=" ++ value) = .ok (.option flag false (some value.toList)) := by
  have chars : (name ++ "=" ++ value).toList = name.toList ++ '=' :: value.toList := by simp
  obtain ⟨c, behind, hyphens⟩ := h.hyphens
  cases spelled : ofSpelling? name.toList with
  | some other =>
    rw [ofArgument_of_equals spelled chars, h.of_ofSpelling? spelled, hyphens]
    rfl
  | none =>
    have split := splitEquals_append h.equals_not_mem value.toList
    rw [← chars] at split
    have hyphens' : (name ++ "=" ++ value).toList =
        '-' :: '-' :: c :: (behind ++ '=' :: value.toList) := by
      rw [chars, hyphens]; rfl
    obtain ⟨full, only⟩ := candidates_of_long h hyphens' split
    have unspelled : ofSpelling? (name ++ "=" ++ value).toList = none :=
      ofSpelling?_of_equals (chars ▸ List.mem_append_right _ List.mem_cons_self)
    exact ofArgument_of_candidates hyphens' unspelled (.inr (split ▸ spelled)) only

/-- A short name alone. -/
theorem ofArgument_of_short (h : IsShortName flag name) :
    ofArgument name = .ok (.option flag true none) := by
  rw [ofArgument_of_spelling (ofSpelling?_of_mem h.2), isShort, String.length_toList, h.1]
  rfl

/-- A short name, an equals sign and a value. -/
theorem ofArgument_of_short_equals (h : IsShortName flag name) (value : String) :
    ofArgument (name ++ "=" ++ value) = .ok (.option flag true (some value.toList)) := by
  have chars : (name ++ "=" ++ value).toList = name.toList ++ '=' :: value.toList := by simp
  rw [ofArgument_of_equals (ofSpelling?_of_mem h.2) chars, isShort, String.length_toList, h.1]
  rfl

/-- A short name with a value directly behind it. -/
theorem ofArgument_of_short_attached (h : IsShortName flag name) (nonempty : value ≠ "")
    (attached : value.toList.head? ≠ some '=') :
    ofArgument (name ++ value) = .ok (.option flag true (some value.toList)) := by
  obtain ⟨c, hyphen, single⟩ := h.hyphen
  match shape : value.toList with
  | [] => exact absurd (String.toList_eq_nil_iff.1 shape) nonempty
  | v :: vs =>
    have chars : (name ++ value).toList = '-' :: c :: v :: vs := by
      rw [String.toList_append, hyphen, shape]; rfl
    have only := candidates_of_short h hyphen single (v :: vs)
    rw [← chars] at only
    have unspelled : ofSpelling? (name ++ value).toList = none :=
      chars ▸ ofSpelling?_of_long single
    -- what stands before an equals sign in the value is too long to be the short name
    have letter : c ≠ '=' := fun equals =>
      equals_not_mem_of_mem h.2 (by rw [hyphen, equals]; simp)
    have start : v ≠ '=' := fun equals => attached (by rw [shape, equals, List.head?_cons])
    have before : (splitEquals (name ++ value).toList).1 =
        '-' :: c :: v :: vs.takeWhile (· ≠ '=') := by
      rw [splitEquals_fst, chars]
      simp [letter, start]
    have unspelled' := before ▸ ofSpelling?_of_long single
    exact ofArgument_of_candidates chars unspelled (.inr unspelled') only

/-- An argument without a hyphen in front, or a single hyphen. -/
def IsWord (s : String) : Prop := s = "-" ∨ s.toList.head? ≠ some '-'

instance (s : String) : Decidable (IsWord s) := inferInstanceAs (Decidable (_ ∨ _))

theorem IsWord.ne_separator (word : IsWord s) : s ≠ "--" := by
  rintro rfl
  exact word.elim (by decide) fun bare => bare rfl

theorem ofArgument_of_word (word : IsWord s) : ofArgument s = .ok (.plain s) := by
  unfold ofArgument
  obtain rfl | bare := word
  · rfl
  · exact if_pos (.inl bare)

/-- An argument that is read as anything is not the separator. -/
theorem ofArguments_cons {rest : List String} {items : List Item} (read : ofArgument s = .ok item)
    (reads : ofArguments rest = .ok items) : ofArguments (s :: rest) = .ok (item :: items) := by
  have separate : s ≠ "--" := by
    rintro rfl
    cases read
  rw [ofArguments, if_neg separate, read, reads]
  rfl

end

end Item

end MonkeyScan.CommandLine
