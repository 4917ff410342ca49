import MonkeyScan.Proofs.DiagnosticRanges
import MonkeyScan.Proofs.LineEnds
import MonkeyScan.Proofs.Reporting

/-!
One text read twice: as the input of a run, with uniform line ends, and as an open document, as it
is. Places correspond when the same part of the text is in front of them; from corresponding places
on, both readings have the same tokens at corresponding places (`corresponds_tokens`). Where all
carriage returns stand in pairs, corresponding places are the same line and column
(`Corresponds.alike`), so that the diagnostics of the document mark the problems that the run
reports (`marks_problems`). Main statement: `scan_uniform`.
-/

namespace MonkeyScan

open Text Grammar Program

namespace Position

/-- A place of a text with uniform line ends, and the place in the text itself that has the same
part of the text in front of it, up to where no pair is cut. -/
def Corresponds (text : List Char) (p q : Position) : Prop :=
  ∃ front rest, front ++ rest = text ∧ KeepsPairs front rest ∧
    p = .ofOffset (uniformLines text) (uniformLines front).length ∧ q = .ofOffset text front.length

/-- Two places are on the same line and in the same column, and the second one has one character
more in front of it for each pair. -/
structure Alike (text : List Char) (p q : Position) : Prop where
  line_eq : p.line = q.line
  column_eq : p.column = q.column
  offset_eq : q.offset = p.offset + pairCount (text.take q.offset.toNat)

section

variable {text : List Char} {p q : Position}

theorem corresponds_length (text : List Char) :
    Corresponds text (.ofOffset (uniformLines text) (uniformLines text).length)
      (.ofOffset text text.length) :=
  ⟨text, [], List.append_nil text, fun _ => by simp, rfl, rfl⟩

/-- Both places are within their texts, so that their columns count characters. -/
theorem Corresponds.column_eq (h : Corresponds text p q) :
    p.column = (lastLine ((uniformLines text).take p.offset.toNat)).length + 1 ∧
      q.column = (lastLine (text.take q.offset.toNat)).length + 1 := by
  obtain ⟨front, rest, rfl, keeps, rfl, rfl⟩ := h
  constructor
  · refine column_ofOffset ?_
    rw [uniformLines_append keeps, List.length_append]
    exact Nat.le_add_right _ _
  · refine column_ofOffset ?_
    rw [List.length_append]
    exact Nat.le_add_right _ _

/-- Where all carriage returns stand in pairs, the same characters are in front of both places on
their lines. -/
theorem Corresponds.lastLine_eq (h : Corresponds text p q) (paired : Paired text) :
    lastLine ((uniformLines text).take p.offset.toNat) = lastLine (text.take q.offset.toNat) := by
  obtain ⟨front, rest, rfl, keeps, rfl, rfl⟩ := h
  rw [offset_ofOffset, offset_ofOffset, Int.toNat_natCast, Int.toNat_natCast,
    take_uniformLines keeps, List.take_left, lastLine_uniformLines (paired.of_append keeps)]

theorem Corresponds.alike (h : Corresponds text p q) (paired : Paired text) : Alike text p q := by
  have columns := h.column_eq
  have last := h.lastLine_eq paired
  obtain ⟨front, rest, rfl, keeps, rfl, rfl⟩ := h
  constructor
  case line_eq =>
    rw [ofOffset, ofOffset, take_uniformLines keeps, List.take_left,
      count_uniformLines (paired.of_append keeps)]
  case column_eq => rw [columns.1, columns.2, last]
  case offset_eq =>
    have lengths := length_uniformLines front
    rw [offset_ofOffset, offset_ofOffset, Int.toNat_natCast, List.take_left]
    omega

end

end Position

/-- Two tokens are of one kind and have the same characters, and their places correspond. -/
structure Token.Corresponds (text : List Char) (t u : Token) : Prop where
  kind_eq : t.kind = u.kind
  literal_eq : t.literal = u.literal
  start : t.span.start.Corresponds text u.span.start
  stop : t.span.stop.Corresponds text u.span.stop

namespace Cursor

/-- From corresponding places on, the tokens correspond: what comes next in both texts are blanks
and the same lexeme, which holds no line end and is in neither text cut off. -/
theorem corresponds_tokens {text front rest : List Char} (split : front ++ rest = text)
    (keeps : KeepsPairs front rest) :
    List.Forall₂ (Token.Corresponds text)
      (onOffset (uniformLines text) (uniformLines front).length).tokens
      (onOffset text front.length).tokens := by
  obtain ⟨p, here⟩ : ∃ p, front.length = p := ⟨_, rfl⟩
  rw [here]
  induction p using tokens_induction generalizing front rest with
  | done p blanks =>
    subst split here
    have left := drop_uniformLines keeps
    rw [List.drop_left] at blanks ⊢
    rw [tokens_of_blanks (by rw [left]; exact isBlank_of_mem_uniformLines blanks), left,
      ← List.length_append, ← List.length_append, ← uniformLines_append keeps]
    have ended := Position.corresponds_length (front ++ rest)
    exact .cons ⟨rfl, rfl, ended, ended⟩ .nil
  | token p gap k l more found blanks lexeme maximal ih =>
    subst split here
    rw [List.drop_left] at found
    subst found
    have start := lexeme.keepsPairs (front ++ gap) more
    have stop := lexeme.keepsPairs_append (front ++ gap) more
    have next : (uniformLines (front ++ (gap ++ (l ++ more)))).drop (uniformLines front).length =
        uniformLines gap ++ (l ++ uniformLines more) := by
      rw [drop_uniformLines keeps, uniformLines_append (lexeme.keepsPairs gap more),
        lexeme.uniformLines_append]
    have lengthGap : (uniformLines front).length + (uniformLines gap).length =
        (uniformLines (front ++ gap)).length := by
      rw [uniformLines_append keeps.of_append, List.length_append]
    have lengthLexeme : (uniformLines (front ++ gap)).length + l.length =
        (uniformLines (front ++ gap ++ l)).length := by
      rw [lexeme.uniformLines_concat, List.length_append]
    rw [tokens_of_lexeme next (isBlank_of_mem_uniformLines blanks) lexeme maximal.uniformLines,
      lengthGap, lengthLexeme]
    refine .cons ⟨rfl, rfl, ?_, ?_⟩ (ih (by simp) stop ?_)
    · exact ⟨front ++ gap, l ++ more, by simp, start, rfl, by simp [Token.ofLexeme]⟩
    · exact ⟨front ++ gap ++ l, more, by simp, stop, by simp [Token.ofLexeme, lengthLexeme],
        by simp [Token.ofLexeme, Nat.add_assoc]⟩
    · rw [List.length_append, List.length_append]

end Cursor

/-- The text with uniform line ends. -/
def Text.uniform (t : String) : String := String.ofList (uniformLines t.toList)

theorem Text.toList_uniform (t : String) : (uniform t).toList = uniformLines t.toList :=
  String.toList_ofList

theorem corresponds_scan (t : String) :
    List.Forall₂ (Token.Corresponds t.toList) (scan (uniform t)) (scan t) := by
  have keeps : KeepsPairs [] t.toList := nofun
  rw [tokens_scan, tokens_scan, toList_uniform]
  exact Cursor.corresponds_tokens rfl keeps

/-! ## Illegal characters -/

namespace Alphabet

/-- Both readings of a text have the same illegal characters, at corresponding places. -/
theorem corresponds_illegalFrom (t : String) :
    List.Forall₂ (fun e f => e.1 = f.1 ∧
        (Position.ofOffset (uniform t).toList e.2).Corresponds t.toList (.ofOffset t.toList f.2))
      (illegalFrom 0 (uniform t).toList) (illegalFrom 0 t.toList) := by
  have tokens : List.Forall₂ (Token.Corresponds t.toList)
      ((scan (uniform t)).filter (·.kind = .illegal)) ((scan t).filter (·.kind = .illegal)) := by
    refine List.rel_filter (fun k l h => ?_) (corresponds_scan t)
    simp only [h.kind_eq]
  rw [tokens_scan, tokens_scan, Cursor.filter_tokens, Cursor.filter_tokens, List.drop_zero,
    List.drop_zero, List.forall₂_map_left_iff, List.forall₂_map_right_iff] at tokens
  refine tokens.imp fun e f h => ⟨?_, h.start⟩
  have same : [e.1] = [f.1] := String.ofList_injective h.literal_eq
  exact (List.cons.inj same).1

end Alphabet

/-- The number of characters of a text that take two UTF-16 units. -/
def Text.wideCount (cs : List Char) : Nat := cs.countP fun c => 0xffff < c.toNat

theorem Text.unitCount_eq (cs : List Char) : unitCount cs = cs.length + wideCount cs := by
  induction cs with
  | nil => rfl
  | cons c cs ih =>
    rw [unitCount_cons, ih, wideCount, wideCount, List.countP_cons, List.length_cons,
      Editor.Diagnostic.length_units_eq]
    by_cases wide : 0xffff < c.toNat
    · simp [wide]; omega
    · simp [wide]; omega

namespace Editor

/-- A diagnostic marks a problem: it says the same, on the line of the problem counted from zero,
and starts behind the units of what is in front of the problem on its line. -/
structure Diagnostic.Marks (d : Diagnostic) (p : Problem) : Prop where
  message_eq : d.message = p.message
  line_eq : (d.start.line : Int) = p.position.line - 1
  character_eq : (d.start.character : Int) = p.position.column - 1 +
    wideCount (lastLine (p.source.toList.take p.position.offset.toNat))

theorem marks_atOffset {s t : String} {c : Char} {i j : Nat}
    (line : (Position.ofOffset s.toList i).line = (Position.ofOffset t.toList j).line)
    (column : (Position.ofOffset s.toList i).column = (lastLine (s.toList.take i)).length + 1)
    (last : lastLine (s.toList.take i) = lastLine (t.toList.take j)) :
    (Diagnostic.atOffset t.toList (c, j)).Marks (Problem.atOffset s (c, i)) where
  message_eq := rfl
  line_eq := by
    show ((t.toList.take j).count '\n' : Int) = (Position.ofOffset s.toList i).line - 1
    rw [line, Position.ofOffset]
    dsimp only
    omega
  character_eq := by
    show ((utf16 (lastLine (t.toList.take j))).length : Int) =
      (Position.ofOffset s.toList i).column - 1 + wideCount (lastLine (s.toList.take i))
    rw [column, length_utf16, unitCount_eq, last]
    omega

theorem marks_problems {t : String} (paired : Paired t.toList) :
    List.Forall₂ (fun p d => Diagnostic.Marks d p)
      (Problem.ofTokens (scan (uniform t)) (uniform t))
      ((Alphabet.illegalFrom 0 t.toList).map (Diagnostic.atOffset t.toList)) := by
  rw [Problem.problems_eq, List.forall₂_map_left_iff, List.forall₂_map_right_iff]
  refine (Alphabet.corresponds_illegalFrom t).imp ?_
  rintro ⟨c, i⟩ ⟨d, j⟩ ⟨rfl, places⟩
  have columns := places.column_eq
  have last := places.lastLine_eq paired
  rw [← toList_uniform] at columns last
  exact marks_atOffset (places.alike paired).line_eq columns.1 last

end Editor

/-- A file that holds a text in UTF-8 is scanned with uniform line ends. -/
theorem Program.Scanned.ofBytes_encode (file t : String) :
    ofBytes file (Utf8.encode t) = .ok (ofText file (uniform t)) := by
  rw [ofBytes, Utf8.decode_encode]
  rfl

/-- A text is read twice: as the input of a run, with uniform line ends, and as an open document, as
it is. Both readings have tokens of the same kinds and characters, in the same order. A run without
a watch reports the problems of the text with uniform line ends, behind the table of its tokens if
that is asked for. Where every carriage return of the text has a line feed behind it, the tokens
also have the same lines and columns, the end of input included, and their offsets differ by the
pairs in front; and the diagnostics of the document mark the problems that the run reports, one for
each and in their order. -/
theorem scan_uniform (t : String) :
    (scan (uniform t)).map (fun k => (k.kind, k.literal)) =
        (scan t).map (fun k => (k.kind, k.literal)) ∧
      (∀ (s : Settings) w, s.inputBytes w = .ok (Utf8.encode t) →
        (readScanned s : StateM World _).run w = (.ok (.ofText s.inputName (uniform t)), w) ∧
        ∀ argv changes, ((prepare argv : StateM World _).run w).1 = .ok s → s.watch = false →
          (run argv changes w).final.errors = w.errors ++ s.tableOf (scan (uniform t)) ++
            Problem.report (Problem.ofTokens (scan (uniform t)) (uniform t)) s.inputName) ∧
      (Paired t.toList →
        List.Forall₂ (fun k l => Position.Alike t.toList k.span.start l.span.start ∧
          Position.Alike t.toList k.span.stop l.span.stop) (scan (uniform t)) (scan t) ∧
        ∀ (σ : Type) [Editor.Store σ] (w : σ) uri, Editor.Store.text? w uri = some t →
          ∃ ds, Editor.Store.publish w uri = [⟨uri, ds⟩] ∧
            List.Forall₂ (fun p d => Editor.Diagnostic.Marks d p)
              (Problem.ofTokens (scan (uniform t)) (uniform t)) ds) := by
  refine ⟨?_, ?_, fun paired => ⟨?_, ?_⟩⟩
  · rw [← List.forall₂_eq_eq_eq, List.forall₂_map_left_iff, List.forall₂_map_right_iff]
    exact (corresponds_scan t).imp fun k l h => by rw [h.kind_eq, h.literal_eq]
  · intro s w input
    have scanned : (s.inputBytes w).bind (Scanned.ofBytes s.inputName) =
        .ok (.ofText s.inputName (uniform t)) := by
      rw [input]
      exact Scanned.ofBytes_encode _ t
    refine ⟨by rw [run_readScanned, scanned], fun argv changes prepared once => ?_⟩
    rw [final_run prepared once, errors_runOnce scanned]
    rfl
  · exact (corresponds_scan t).imp fun k l h => ⟨h.start.alike paired, h.stop.alike paired⟩
  · intro σ _ w uri stored
    exact ⟨_, Editor.Store.publish_of_text? stored, Editor.marks_problems paired⟩

/-- A pair of line ends, and behind it two illegal characters on one line, of which the first one is
two units wide. -/
theorem scan_uniform_wide :
    let t := "a\r\n😀 é"
    let u := "a\n😀 é"
    let w := (World.blank 0).place "m" (Utf8.encode t)
    let s : Settings := ⟨some ⟨.none, ["m"]⟩, none, .text, true, false, false, false⟩
    Paired t.toList ∧ ((prepare ["m"] : StateM World _).run w).1 = .ok s ∧
      s.inputBytes w = .ok (Utf8.encode t) ∧
      (run ["m"] [] w).final.errors =
        "error: illegal character '😀'\n  --> m:2:1\n  |\n2 | 😀 é\n  | ^\n" ++
          "error: illegal character 'é'\n  --> m:2:3\n  |\n2 | 😀 é\n  |   ^\n" ∧
      ∃ ds, Editor.Store.publish (Editor.Store.store Editor.Workspace.empty "a" t) "a" =
          [⟨"a", ds⟩] ∧
        List.Forall₂ (fun p d => Editor.Diagnostic.Marks d p) (Problem.ofTokens (scan u) u) ds := by
  intro t u w s
  have same : uniform t = u := by decide
  have paired : Paired t.toList := by decide
  have prepared : ((prepare ["m"] : StateM World _).run w).1 = .ok s := by decide +kernel
  have input : s.inputBytes w = .ok (Utf8.encode t) := by decide +kernel
  obtain ⟨-, errors, places⟩ := scan_uniform t
  rw [same] at errors places
  have stored := Editor.Store.text?_store_self Editor.Workspace.empty "a" t
  refine ⟨paired, prepared, input, ?_, (places paired).2 _ _ _ stored⟩
  rw [(errors s w input).2 ["m"] [] prepared rfl]
  decide +kernel

end MonkeyScan
