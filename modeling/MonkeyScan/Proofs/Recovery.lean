import MonkeyScan.Proofs.IllegalCharacters

/-!
Illegal characters do no harm around them. A text is cleared by putting a space for each of its
illegal characters. Clearing moves no line feed, so that all places stay (`ofOffset_map_cleared`);
it changes no lexeme but the illegal ones, and where a lexeme is not cut off, it is not cut off in
the cleared text either (`Maximal.map_cleared`). Main statement: `scan_map_cleared`.
-/

namespace MonkeyScan

open Alphabet Grammar

/-- A place depends on where the line feeds of a text are, and on nothing else in it. -/
theorem Position.ofOffset_congr {text other : List Char}
    (feeds : ∀ i : Nat, text[i]? = some '\n' ↔ other[i]? = some '\n') (p : Nat) :
    ofOffset text p = ofOffset other p := by
  induction p with
  | zero => rfl
  | succ p ih =>
    ext1
    case line =>
      rw [line_ofOffset_succ, line_ofOffset_succ, ih]
      exact if_congr (feeds p) rfl rfl
    case column =>
      rw [column_ofOffset_succ, column_ofOffset_succ, ih]
      exact if_congr (feeds p) rfl rfl
    case offset => rfl

namespace Alphabet

/-- A space in place of an illegal character. -/
def cleared (c : Char) : Char := if isIllegal c then ' ' else c

theorem cleared_of_isIllegal {c : Char} (h : isIllegal c = true) : cleared c = ' ' := if_pos h

theorem cleared_of_not_isIllegal {c : Char} (h : isIllegal c = false) : cleared c = c :=
  if_neg (by simp [h])

theorem map_cleared_of_legal {cs : List Char} (h : ∀ c ∈ cs, isIllegal c = false) :
    cs.map cleared = cs :=
  (List.map_congr_left fun c mem => cleared_of_not_isIllegal (h c mem)).trans (List.map_id cs)

/-- Nothing but a space appears where it was not before. -/
theorem cleared_eq_iff {c d : Char} (legal : isIllegal d = false) (other : d ≠ ' ') :
    cleared c = d ↔ c = d := by
  by_cases illegal : isIllegal c = true
  · rw [cleared_of_isIllegal illegal]
    refine ⟨fun same => absurd same.symm other, ?_⟩
    rintro rfl
    rw [illegal] at legal
    exact Bool.noConfusion legal
  · rw [cleared_of_not_isIllegal (by simpa using illegal)]

/-- A character that is in no class of lexeme characters is in none when it is cleared. -/
theorem cleared_stops {f : Char → Bool} {c : Char} (space : f ' ' = false) (stop : f c = false) :
    f (cleared c) = false := by
  unfold cleared
  split
  · exact space
  · exact stop

end Alphabet

theorem Position.ofOffset_map_cleared (text : List Char) (p : Nat) :
    ofOffset (text.map cleared) p = ofOffset text p := by
  refine ofOffset_congr (fun i => ?_) p
  rw [List.getElem?_map, Option.map_eq_some_iff]
  simp [cleared_eq_iff (d := '\n') (by decide) (by decide)]

theorem Token.ofLexeme_map_cleared (text : List Char) (p : Nat) (k : TokenKind) (l : List Char) :
    ofLexeme (text.map cleared) p k l = ofLexeme text p k l := by
  rw [ofLexeme, ofLexeme, Position.ofOffset_map_cleared, Position.ofOffset_map_cleared]

/-- What does not go on with a lexeme does not go on with it when it is cleared. -/
theorem Grammar.Maximal.map_cleared {l rest : List Char} (h : Maximal l rest) :
    Maximal l (rest.map cleared) := by
  have stops {f : Char → Bool} (space : f ' ' = false) (stop : ∀ c ∈ rest.head?, f c = false) :
      ∀ c ∈ (rest.map cleared).head?, f c = false := by
    rw [List.head?_map]
    intro d mem
    obtain ⟨c, first, rfl⟩ := Option.map_eq_some_iff.1 mem
    exact cleared_stops space (stop c first)
  constructor
  case word => exact fun letters => stops (by decide) (h.word letters)
  case number => exact fun digits => stops (by decide) (h.number digits)
  case sign =>
    intro alone next
    rw [List.head?_map, Option.map_eq_some_iff] at next
    obtain ⟨c, first, equals⟩ := next
    rw [(cleared_eq_iff (by decide) (by decide)).1 equals] at first
    exact h.sign alone first

namespace Cursor

/-- From an offset on, a cleared text has the tokens of the text other than the illegal ones: along
the tokens of the text, an illegal one becomes part of the blanks in front of the next one, and any
other one stays. -/
theorem filter_legal_tokens (text : List Char) (p : Nat) :
    (onOffset text p).tokens.filter (·.kind ≠ .illegal) =
      (onOffset (text.map cleared) p).tokens := by
  induction p using tokens_induction with
  | done p blanks =>
    have same : (text.map cleared).drop p = text.drop p := by
      rw [← List.map_drop]
      exact map_cleared_of_legal fun c mem => not_isIllegal_of_isBlank (blanks c mem)
    rw [tokens_of_blanks (by rwa [same]), same, Position.ofOffset_map_cleared]
    rfl
  | token p gap k l more split blanks lexeme maximal ih =>
    have gap_eq : gap.map cleared = gap :=
      map_cleared_of_legal fun c mem => not_isIllegal_of_isBlank (blanks c mem)
    have split' : (text.map cleared).drop p = gap ++ (l.map cleared ++ more.map cleared) := by
      rw [← List.map_drop, split, List.map_append, List.map_append, gap_eq]
    by_cases illegal : k = .illegal
    · subst illegal
      obtain ⟨c, rfl, outside⟩ := lexeme.eq_singleton
      have gap' : ∀ d ∈ gap ++ [' '], isBlank d = true := by
        intro d mem
        rcases List.mem_append.1 mem with front | space
        · exact blanks d front
        · rw [List.mem_singleton.1 space]
          decide
      rw [List.map_singleton, cleared_of_isIllegal outside, ← List.append_assoc] at split'
      rw [tokens_of_gap split' gap', List.length_append, ← Nat.add_assoc,
        List.filter_cons_of_neg (by simp [Token.ofLexeme])]
      exact ih
    · rw [map_cleared_of_legal (lexeme.not_isIllegal illegal)] at split'
      rw [tokens_of_lexeme split' blanks lexeme maximal.map_cleared, Token.ofLexeme_map_cleared,
        List.filter_cons_of_pos (by simp [Token.ofLexeme, illegal]), ih]

end Cursor

/-- Where each illegal character of a text is replaced by a space, the scan is that of the text
without its illegal tokens: all other tokens, the end of input included, are of the same kinds, have
the same characters and stand at the same places, and there are no problems left. -/
theorem scan_map_cleared (s : String) :
    scan (s.map cleared) = (scan s).filter (·.kind ≠ .illegal) ∧
      Problem.ofTokens (scan (s.map cleared)) (s.map cleared) = [] := by
  have tokens : scan (s.map cleared) = (scan s).filter (·.kind ≠ .illegal) := by
    rw [tokens_scan, tokens_scan, String.toList_map, Cursor.filter_legal_tokens]
  refine ⟨tokens, ?_⟩
  have none : (scan (s.map cleared)).filter (·.kind = .illegal) = [] := by
    rw [tokens, List.filter_filter]
    simp
  rw [Problem.ofTokens, none]
  rfl

-- within a word, a number and an operator, and alone
example : scan ("a§b 1\x002 =$=\n?".map cleared) =
    (scan "a§b 1\x002 =$=\n?").filter (·.kind ≠ .illegal) := by
  decide +kernel

end MonkeyScan
