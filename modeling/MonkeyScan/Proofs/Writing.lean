import MonkeyScan.Program.World

/-!
Writing a file. A path can be written at when it leads somewhere, and not to a folder
(`write_eq_ok_iff`). What is written there is read back (`read_of_sameBut`). Of the rest of the tree
only the time of the folder around the file changes, and that only for a new file
(`sameBut_write`).
-/

namespace MonkeyScan.Files.Tree

/-- A folder stands at the location. -/
def IsFolder (t : Tree) (loc : Location) : Prop := ∃ time, t.find? loc = some (.folder time)

instance (t : Tree) (loc : Location) : Decidable (t.IsFolder loc) :=
  match found : t.find? loc with
  | some (.folder time) => isTrue ⟨time, found⟩
  | some (.file _ _) => isFalse fun ⟨_, folder⟩ => by cases found.symm.trans folder
  | none => isFalse fun ⟨_, folder⟩ => by cases found.symm.trans folder

/-- The content of the file at a location, if there is a file. -/
def content? (t : Tree) (loc : Location) : Option (List UInt8) :=
  match t.find? loc with
  | some (.file content _) => some content
  | _ => none

/-- A file can be written at the path: it leads somewhere, and not to a folder. -/
def Writable (t : Tree) (base : Location) (p : Path) : Prop :=
  ∃ loc, t.locate base p = .ok loc ∧ ¬ t.IsFolder loc

instance (t : Tree) (base : Location) (p : Path) : Decidable (t.Writable base p) :=
  match found : t.locate base p with
  | .ok loc => decidable_of_iff (¬ t.IsFolder loc)
      ⟨fun free => ⟨loc, found, free⟩, fun ⟨_, leads, free⟩ =>
        Except.ok.inj (found.symm.trans leads) ▸ free⟩
  | .error _ => isFalse fun ⟨_, leads, _⟩ => by cases found.symm.trans leads

/-- From one tree to another nothing changes but at some locations: a file elsewhere keeps its
content and a folder stays a folder, each with its time, but for the time of a folder around such a
location. Nothing is removed, and elsewhere nothing is new. -/
structure SameBut (changed : Location → Prop) (t t' : Tree) : Prop where
  content?_eq : ∀ loc, ¬ changed loc → t'.content? loc = t.content? loc
  find?_eq : ∀ loc, ¬ changed loc → (∀ name, ¬ changed (name :: loc)) → t'.find? loc = t.find? loc
  folder_iff : ∀ loc, t'.IsFolder loc ↔ t.IsFolder loc
  isSome_find? : ∀ loc, (t.find? loc).isSome → (t'.find? loc).isSome

theorem sameBut_refl (changed : Location → Prop) (t : Tree) : SameBut changed t t :=
  ⟨fun _ _ => rfl, fun _ _ _ => rfl, fun _ => Iff.rfl, fun _ there => there⟩

theorem SameBut.trans {changed : Location → Prop} {t t' t'' : Tree} (h : SameBut changed t t')
    (h' : SameBut changed t' t'') : SameBut changed t t'' where
  content?_eq loc apart := (h'.content?_eq loc apart).trans (h.content?_eq loc apart)
  find?_eq loc apart around := (h'.find?_eq loc apart around).trans (h.find?_eq loc apart around)
  folder_iff loc := (h'.folder_iff loc).trans (h.folder_iff loc)
  isSome_find? loc there := h'.isSome_find? loc (h.isSome_find? loc there)

theorem SameBut.mono {changed changed' : Location → Prop} {t t' : Tree}
    (h : SameBut changed t t') (within : ∀ loc, changed loc → changed' loc) :
    SameBut changed' t t' where
  content?_eq loc apart := h.content?_eq loc fun named => apart (within loc named)
  find?_eq loc apart around := h.find?_eq loc (fun named => apart (within loc named))
    fun name named => around name (within _ named)
  folder_iff := h.folder_iff
  isSome_find? := h.isSome_find?

theorem isFolder_iff_of_find?_eq {t t' : Tree} {loc : Location} (h : t'.find? loc = t.find? loc) :
    t'.IsFolder loc ↔ t.IsFolder loc := by
  unfold IsFolder
  rw [h]

theorem content?_eq_of_find?_eq {t t' : Tree} {loc : Location} (h : t'.find? loc = t.find? loc) :
    t'.content? loc = t.content? loc := by
  unfold content?
  rw [h]

/-! ### One entry -/

theorem content?_put_file (t : Tree) (loc : Location) (content : List UInt8) (time : Instant) :
    (t.put loc (.file content time)).content? loc = some content := by
  unfold content?
  rw [find?_put_self]

theorem isFolder_put_file {t : Tree} {loc : Location} (free : ¬ t.IsFolder loc)
    (content : List UInt8) (time : Instant) (other : Location) :
    (t.put loc (.file content time)).IsFolder other ↔ t.IsFolder other := by
  by_cases same : other = loc
  · subst same
    refine ⟨fun ⟨_, found⟩ => ?_, fun folder => absurd folder free⟩
    rw [find?_put_self] at found
    cases found
  · exact isFolder_iff_of_find?_eq (find?_put_of_ne same _ _)

/-- Another time of change is another entry of the same sort. -/
theorem find?_stamp (t : Tree) (loc : Location) (time : Instant) :
    (t.stamp loc time).find? loc = (t.find? loc).map (Entry.stamp time) := by
  unfold stamp
  cases found : t.find? loc with
  | none => exact found
  | some e => exact find?_put_self t loc _

theorem content?_stamp (t : Tree) (loc : Location) (time : Instant) (other : Location) :
    (t.stamp loc time).content? other = t.content? other := by
  by_cases same : other = loc
  · subst same
    unfold content?
    rw [find?_stamp]
    cases t.find? other with
    | none => rfl
    | some e => cases e <;> rfl
  · exact content?_eq_of_find?_eq (find?_stamp_of_ne same _ _)

theorem isFolder_stamp (t : Tree) (loc : Location) (time : Instant) (other : Location) :
    (t.stamp loc time).IsFolder other ↔ t.IsFolder other := by
  by_cases same : other = loc
  · subst same
    unfold IsFolder
    rw [find?_stamp]
    cases t.find? other with
    | none => simp
    | some e => cases e <;> simp [Entry.stamp]
  · exact isFolder_iff_of_find?_eq (find?_stamp_of_ne same _ _)

theorem sameBut_put_file {t : Tree} {loc : Location} (free : ¬ t.IsFolder loc)
    (content : List UInt8) (time : Instant) :
    SameBut (· = loc) t (t.put loc (.file content time)) where
  content?_eq other apart := content?_eq_of_find?_eq (find?_put_of_ne apart t _)
  find?_eq other apart _ := find?_put_of_ne apart t _
  folder_iff := isFolder_put_file free content time
  isSome_find? other there := by
    by_cases same : other = loc
    · rw [same, find?_put_self]
      rfl
    · rw [find?_put_of_ne same]
      exact there

/-- Another time for the folder around a location. -/
theorem sameBut_stamp_tail (t : Tree) (loc : Location) (time : Instant) :
    SameBut (· = loc) t (t.stamp loc.tail time) where
  content?_eq other _ := content?_stamp t loc.tail time other
  find?_eq other apart around := by
    refine find?_stamp_of_ne (fun same => ?_) t time
    -- the folder that gets the time is the one with the location in it
    subst same
    cases loc with
    | nil => exact apart rfl
    | cons name above => exact around name rfl
  folder_iff := isFolder_stamp t loc.tail time
  isSome_find? other there := by
    by_cases same : other = loc.tail
    · rw [same, find?_stamp, Option.isSome_map]
      exact same ▸ there
    · rw [find?_stamp_of_ne same]
      exact there

/-! ### Finding the place -/

/-- A path is followed through folders only, so that in a tree with the same folders it leads to the
same location. -/
theorem follow_of_folders {t t' : Tree} (folders : ∀ loc, t.IsFolder loc → t'.IsFolder loc)
    {here loc : Location} {names : List String} (found : t.follow here names = .ok loc) :
    t'.follow here names = .ok loc := by
  induction names generalizing here with
  | nil => exact found
  | cons name names ih =>
    unfold follow at found ⊢
    cases entry : t.find? here with
    | none => simp [entry] at found
    | some e =>
      cases e with
      | file content time => simp [entry] at found
      | folder time =>
        obtain ⟨time', entry'⟩ := folders here ⟨time, entry⟩
        rw [entry] at found
        rw [entry']
        dsimp only at found ⊢
        split at found
        case isTrue => cases found
        case isFalse short => rw [if_neg short]; exact ih found

theorem locate_of_folders {t t' : Tree} (folders : ∀ loc, t.IsFolder loc → t'.IsFolder loc)
    {base loc : Location} {p : Path} (found : t.locate base p = .ok loc) :
    t'.locate base p = .ok loc := by
  unfold locate at found ⊢
  split at found
  case isTrue => cases found
  case isFalse short => rw [if_neg short]; exact follow_of_folders folders found

theorem read_eq_ok {t : Tree} {base loc : Location} {p : Path} {content : List UInt8}
    (found : t.locate base p = .ok loc) (there : t.content? loc = some content) :
    t.read base p = .ok content := by
  unfold read
  rw [found]
  unfold content? at there
  dsimp only
  split at there
  case h_1 entry => rw [entry]; exact congrArg Except.ok (Option.some.inj there)
  case h_2 => cases there

/-! ### Writing -/

section

variable {t t' : Tree} {base : Location} {p : Path} {content : List UInt8} {time : Instant}

/-- What a write makes of a tree: a file at the location of the path, with a new time for the folder
around it if there was no file before. -/
theorem write_cases (h : t.write base p content time = .ok t') :
    ∃ loc, t.locate base p = .ok loc ∧ ¬ t.IsFolder loc ∧
      (t' = t.put loc (.file content time) ∨
        t' = (t.put loc (.file content time)).stamp loc.tail time) := by
  unfold write at h
  cases found : t.locate base p with
  | error cause => simp [found] at h
  | ok loc =>
    rw [found] at h
    dsimp only at h
    refine ⟨loc, rfl, ?_, ?_⟩
    · rintro ⟨_, folder⟩
      rw [folder] at h
      cases h
    · cases entry : t.find? loc with
      | none => rw [entry] at h; exact .inr (Except.ok.inj h).symm
      | some e =>
        rw [entry] at h
        cases e with
        | file => exact .inl (Except.ok.inj h).symm
        | folder => cases h

theorem write_eq_ok_iff :
    (∃ t', t.write base p content time = .ok t') ↔ t.Writable base p := by
  constructor
  · rintro ⟨t', h⟩
    obtain ⟨loc, found, free, -⟩ := write_cases h
    exact ⟨loc, found, free⟩
  · rintro ⟨loc, found, free⟩
    unfold write
    rw [found]
    dsimp only
    cases entry : t.find? loc with
    | none => exact ⟨_, rfl⟩
    | some e =>
      cases e with
      | file => exact ⟨_, rfl⟩
      | folder time => exact absurd ⟨time, entry⟩ free

/-- A file is written at the location that the path leads to, and nothing else changes. -/
theorem sameBut_write (h : t.write base p content time = .ok t') :
    ∃ loc, t.locate base p = .ok loc ∧ t'.content? loc = some content ∧
      SameBut (· = loc) t t' := by
  obtain ⟨loc, found, free, rfl | rfl⟩ := write_cases h
  · exact ⟨loc, found, content?_put_file .., sameBut_put_file free ..⟩
  · refine ⟨loc, found, ?_, (sameBut_put_file free ..).trans (sameBut_stamp_tail ..)⟩
    rw [content?_stamp, content?_put_file]

/-- What is written at the end of a path is read back there: the path still leads to it. -/
theorem read_of_sameBut {loc : Location} (found : t.locate base p = .ok loc)
    (there : t'.content? loc = some content) (same : SameBut (· = loc) t t') :
    t'.read base p = .ok content :=
  read_eq_ok (locate_of_folders (fun other => (same.folder_iff other).2) found) there

end

end MonkeyScan.Files.Tree
