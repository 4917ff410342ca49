import MonkeyScan.Editor.Workspace
import MonkeyScan.Proofs.Encoding
import MonkeyScan.Proofs.IllegalCharacters

/-!
What the diagnostics of a document point at. The range of a diagnostic counts UTF-16 units from the
start of its line; cut out of the units of that line, it is the illegal character and nothing else
(`covered?_atOffset`). A later character has a later range, and no two ranges overlap
(`before_atOffset`). Main statement: `publish_eq`.
-/

namespace MonkeyScan

open Alphabet

/-- An illegal character of a text stands at its offset, and it ends no line. -/
theorem Alphabet.getElem?_of_mem_illegalFrom {cs : List Char} {e : Char × Nat}
    (mem : e ∈ illegalFrom 0 cs) : cs[e.2]? = some e.1 ∧ e.1 ≠ '\n' := by
  rw [illegalFrom, List.mem_filter, List.mem_zipIdx_iff_getElem?] at mem
  obtain ⟨here, outside⟩ := mem
  refine ⟨here, fun feed => ?_⟩
  rw [feed, not_isIllegal_of_isBlank (by decide)] at outside
  exact Bool.noConfusion outside

/-- The illegal characters of a text come in the order of their offsets. -/
theorem Alphabet.pairwise_illegalFrom (p : Nat) (cs : List Char) :
    (illegalFrom p cs).Pairwise fun e f => e.2 < f.2 := by
  have rising : ((cs.zipIdx p).map Prod.snd).Pairwise (· < ·) := by
    rw [List.zipIdx_map_snd]
    exact List.pairwise_lt_range'
  exact (List.pairwise_map.1 rising).filter _

namespace Problem

/-- The problem of an illegal character at an offset of a text. -/
def atOffset (s : String) (e : Char × Nat) : Problem :=
  ⟨"illegal character " ++ Text.quote (String.singleton e.1), .ofOffset s.toList e.2, s⟩

theorem problems_eq (s : String) :
    ofTokens (scan s) s = (illegalFrom 0 s.toList).map (atOffset s) := by
  rw [ofTokens, tokens_scan, Cursor.filter_tokens, List.map_map]
  rfl

end Problem

namespace Editor

/-- One place comes before another when it is on an earlier line, or further left on one line. -/
def Place.Before (p q : Place) : Prop :=
  p.line < q.line ∨ p.line = q.line ∧ p.character < q.character

namespace Diagnostic

/-- The diagnostic of an illegal character at an offset of a text: on the line of the offset, behind
the units of what stands there on that line, and as wide as the character in units. -/
def atOffset (text : List Char) (e : Char × Nat) : Diagnostic :=
  let line := (text.take e.2).count '\n'
  let start := (Text.utf16 (Text.lastLine (text.take e.2))).length
  { start := ⟨line, start⟩
    stop := ⟨line, start + if 0xffff < e.1.toNat then 2 else 1⟩
    message := "illegal character " ++ Text.quote (String.singleton e.1)
    severity := .error
    source := sender }

/-- The units that the range of a diagnostic cuts out of its line. -/
def covered? (text : List Char) (d : Diagnostic) : Option (List Nat) :=
  (Text.lines text)[d.start.line]?.map fun line =>
    ((Text.utf16 line).take d.stop.character).drop d.start.character

section

variable {text : List Char} {c : Char} {i : Nat}

theorem length_units_eq (c : Char) :
    (Text.units c).length = if 0xffff < c.toNat then 2 else 1 := by
  rw [Text.length_units]
  split_ifs <;> first | rfl | omega

/-- A text at one of its characters: what is in front, the character, what is behind. -/
theorem take_append_cons (h : text[i]? = some c) :
    text.take i ++ c :: text.drop (i + 1) = text := by
  obtain ⟨inside, rfl⟩ := List.getElem?_eq_some_iff.1 h
  rw [← List.drop_eq_getElem_cons inside, List.take_append_drop]

/-- The line that a character other than a line feed stands on: behind what is in front of it there,
the character comes next. -/
theorem getElem?_lines_of_getElem? (h : text[i]? = some c) (other : c ≠ '\n') :
    (Text.lines text)[(text.take i).count '\n']? =
      some (Text.lastLine (text.take i) ++ c :: Text.firstLine (text.drop (i + 1))) := by
  have cut := Text.getElem?_lines_append (text.take i) (c :: text.drop (i + 1))
  rw [take_append_cons h] at cut
  rw [cut, Text.firstLine, List.takeWhile_cons_of_pos (by simpa using other)]
  rfl

/-- A problem has a range where the two look-ups find a line and a character on it. -/
theorem ofProblem?_eq {lines : List (List Char)} {p : Problem} {before behind : List Char}
    {line : Nat} (number : p.position.line = line + 1)
    (column : p.position.column = before.length + 1)
    (found : lines[line]? = some (before ++ c :: behind)) :
    ofProblem? lines p =
      some ⟨⟨line, Text.unitCount before⟩,
        ⟨line, Text.unitCount before + (Text.units c).length⟩, p.message, .error, sender⟩ := by
  have row : (p.position.line - 1).toNat = line := by omega
  have place : (p.position.column - 1).toNat = before.length := by omega
  have bounds : 1 ≤ p.position.line ∧ 1 ≤ p.position.column := by omega
  unfold ofProblem?
  dsimp only
  rw [row, place, found, guard, if_pos bounds]
  simp

/-- The problem of a character on a line has a range in its document. -/
theorem ofProblem?_atOffset {s : String} (h : s.toList[i]? = some c) (other : c ≠ '\n') :
    ofProblem? (Text.lines s.toList) (Problem.atOffset s (c, i)) =
      some (atOffset s.toList (c, i)) := by
  obtain ⟨inside, -⟩ := List.getElem?_eq_some_iff.1 h
  rw [ofProblem?_eq (Int.add_comm _ _) (Position.column_ofOffset (Nat.le_of_lt inside))
    (getElem?_lines_of_getElem? h other), atOffset, Text.length_utf16, length_units_eq]
  rfl

/-- Every document has diagnostics: those of its illegal characters. -/
theorem ofText?_eq (s : String) :
    ofText? s = some ((illegalFrom 0 s.toList).map (atOffset s.toList)) := by
  have found : ∀ e ∈ illegalFrom 0 s.toList,
      ofProblem? (Text.lines s.toList) (Problem.atOffset s e) = some (atOffset s.toList e) := by
    intro e mem
    obtain ⟨here, other⟩ := getElem?_of_mem_illegalFrom mem
    exact ofProblem?_atOffset here other
  rw [ofText?, Problem.problems_eq]
  generalize illegalFrom 0 s.toList = es at found
  induction es with
  | nil => rfl
  | cons e es ih =>
    rw [List.map_cons, List.mapM_cons, found e List.mem_cons_self,
      ih fun e mem => found e (List.mem_cons_of_mem _ mem)]
    rfl

/-- The range of a diagnostic covers the units of its character. -/
theorem covered?_atOffset (h : text[i]? = some c) (other : c ≠ '\n') :
    (atOffset text (c, i)).covered? text = some (Text.units c) := by
  rw [covered?, atOffset]
  dsimp only
  rw [getElem?_lines_of_getElem? h other, Option.map_some, ← length_units_eq]
  rw [Text.utf16_append, Text.utf16_cons, ← List.append_assoc, ← List.length_append, List.take_left,
    List.drop_left]

/-- The ranges of two characters are in the order of their offsets and do not overlap. -/
theorem before_atOffset {d : Char} {j : Nat} (h : text[i]? = some c) (other : c ≠ '\n')
    (lt : i < j) :
    (atOffset text (c, i)).start.Before (atOffset text (d, j)).start ∧
      ¬ (atOffset text (d, j)).start.Before (atOffset text (c, i)).stop := by
  obtain ⟨n, rfl⟩ := Nat.exists_eq_add_of_lt lt
  obtain ⟨inside, rfl⟩ := List.getElem?_eq_some_iff.1 h
  obtain ⟨mid, between⟩ : ∃ mid, text.take (i + n + 1) = text.take i ++ text[i] :: mid := by
    refine ⟨(text.drop (i + 1)).take n, ?_⟩
    rw [Nat.add_assoc, List.take_add, List.drop_eq_getElem_cons inside, List.take_succ_cons]
  unfold Place.Before atOffset
  dsimp only
  rw [between, List.count_append, List.count_cons_of_ne other]
  by_cases feed : '\n' ∈ mid
  · have counted := List.count_pos_iff.2 feed
    exact ⟨.inl (by omega), by omega⟩
  · have apart : '\n' ∉ text[i] :: mid := by
      rw [List.mem_cons, not_or]
      exact ⟨Ne.symm other, feed⟩
    rw [List.count_eq_zero.2 feed, Text.lastLine_append apart, Text.utf16_append, Text.utf16_cons,
      List.length_append, List.length_append, length_units_eq]
    refine ⟨.inr ⟨rfl, ?_⟩, ?_⟩
    · split_ifs <;> omega
    · omega

end

end Diagnostic

/-- What is published of a document, by its text. -/
theorem Store.publish_of_text? {σ : Type} [Store σ] {w : σ} {uri text : String}
    (stored : text? w uri = some text) :
    publish w uri = [⟨uri, (illegalFrom 0 text.toList).map (Diagnostic.atOffset text.toList)⟩] := by
  rw [publish, stored, Option.bind_some, Diagnostic.ofText?_eq]

/-- Whatever is open besides, in whatever store, a document with a text gets one notification, with
one diagnostic for each illegal character, in the order of the text: an error that names the
character. The range of a diagnostic starts on the line of its character, behind the units of what
stands in front of it on that line, and is two units wide for a character beyond the first plane and
one for others; what it covers of the units of its line reads as that character. The ranges are one
behind the other and do not overlap. -/
theorem publish_eq {σ : Type} [Store σ] (w : σ) (uri text : String)
    (stored : Store.text? w uri = some text) :
    let illegal := text.toList.zipIdx.filter fun e => isIllegal e.1
    let diagnostics := illegal.map (Diagnostic.atOffset text.toList)
    Store.publish w uri = [⟨uri, diagnostics⟩] ∧
      (∀ e ∈ illegal, ((Diagnostic.atOffset text.toList e).covered? text.toList).bind
        Text.ofUtf16? = some [e.1]) ∧
      (∀ e ∈ illegal, let d := Diagnostic.atOffset text.toList e
        d.severity = .error ∧ d.source = "monkeylex" ∧
          d.message = "illegal character " ++ Text.quote (String.singleton e.1)) ∧
      diagnostics.Pairwise fun d e => d.start.Before e.start ∧ ¬ e.start.Before d.stop := by
  intro illegal diagnostics
  refine ⟨Store.publish_of_text? stored, fun e mem => ?_, fun e _ => ⟨rfl, rfl, rfl⟩, ?_⟩
  · obtain ⟨here, other⟩ := getElem?_of_mem_illegalFrom mem
    have single : Text.units e.1 = Text.utf16 [e.1] := (List.append_nil _).symm
    rw [Diagnostic.covered?_atOffset here other, Option.bind_some, single, Text.ofUtf16?_utf16]
  · rw [List.pairwise_map]
    refine (pairwise_illegalFrom 0 text.toList).imp_of_mem fun {e f} mem _ lt => ?_
    obtain ⟨here, other⟩ := getElem?_of_mem_illegalFrom mem
    exact Diagnostic.before_atOffset here other lt

/-- Two illegal characters on the second line, the first one a pair of units, and one on the third
line behind a carriage return. -/
theorem publish_three_lines :
    let w := Store.store Workspace.empty "a" "let\n😀 é\n\r$"
    Store.text? w "a" = some "let\n😀 é\n\r$" ∧
      Store.publish w "a" = [⟨"a",
        [⟨⟨1, 0⟩, ⟨1, 2⟩, "illegal character '😀'", .error, "monkeylex"⟩,
          ⟨⟨1, 3⟩, ⟨1, 4⟩, "illegal character 'é'", .error, "monkeylex"⟩,
          ⟨⟨2, 1⟩, ⟨2, 2⟩, "illegal character '$'", .error, "monkeylex"⟩]⟩] := by
  intro w
  have stored : Store.text? w "a" = some "let\n😀 é\n\r$" := Store.text?_store_self _ _ _
  refine ⟨stored, (publish_eq w "a" _ stored).1.trans ?_⟩
  decide +kernel

end Editor

end MonkeyScan
