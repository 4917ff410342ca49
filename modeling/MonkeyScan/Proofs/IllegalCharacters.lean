import MonkeyScan.Problem
import MonkeyScan.Proofs.Munch

/-!
The illegal characters of a text. Whether a character is illegal is a matter of the character alone,
whatever stands around it: the illegal tokens of a scan are the illegal characters of the text, one
each and in their order (`filter_tokens`), and so are the problems reported (`ofTokens_scan`).
-/

namespace MonkeyScan

open Grammar

namespace Alphabet

/-- The illegal characters of a text with their offsets, the first offset being `p`. -/
def illegalFrom (p : Nat) (cs : List Char) : List (Char × Nat) :=
  (cs.zipIdx p).filter fun e => isIllegal e.1

theorem illegalFrom_append (p : Nat) (cs ds : List Char) :
    illegalFrom p (cs ++ ds) = illegalFrom p cs ++ illegalFrom (p + cs.length) ds := by
  unfold illegalFrom
  rw [List.zipIdx_append, List.filter_append]

theorem illegalFrom_eq_nil {cs : List Char} (h : ∀ c ∈ cs, isIllegal c = false) (p : Nat) :
    illegalFrom p cs = [] := by
  refine List.filter_eq_nil_iff.2 fun e mem => ?_
  rw [h e.1 (List.fst_mem_of_mem_zipIdx mem)]
  exact Bool.false_ne_true

theorem illegalFrom_eq_nil_iff {cs : List Char} {p : Nat} :
    illegalFrom p cs = [] ↔ ∀ c ∈ cs, isIllegal c = false := by
  refine ⟨fun none c mem => ?_, fun legal => illegalFrom_eq_nil legal p⟩
  rw [← List.zipIdx_map_fst p cs] at mem
  obtain ⟨e, here, rfl⟩ := List.mem_map.1 mem
  exact Bool.eq_false_iff.2 (List.filter_eq_nil_iff.1 none e here)

theorem illegalFrom_singleton {c : Char} (h : isIllegal c = true) (p : Nat) :
    illegalFrom p [c] = [(c, p)] :=
  List.filter_cons_of_pos h

theorem not_isIllegal_of_isBlank {c : Char} (h : isBlank c = true) : isIllegal c = false := by
  simp [isIllegal, h]

theorem isSymbol_iff_mem (c : Char) :
    isSymbol c = true ↔ c ∈ ['=', '+', '-', '!', '*', '/', '<', '>', ',', ';', '(', ')',
      '\x7b', '\x7d'] := by
  have listed : ['=', '+', '-', '!', '*', '/', '<', '>', ',', ';', '(', ')', '\x7b', '\x7d'] =
      TokenKind.symbols.map Prod.fst := rfl
  rw [isSymbol_iff, listed, List.mem_map]
  constructor
  · rintro ⟨k, mem⟩
    exact ⟨(c, k), mem, rfl⟩
  · rintro ⟨⟨_, k⟩, mem, rfl⟩
    exact ⟨k, mem⟩

theorem not_isIllegal_of_subset {cs : List Char}
    (h : cs ⊆ ['=', '+', '-', '!', '*', '/', '<', '>', ',', ';', '(', ')', '\x7b', '\x7d']) :
    ∀ c ∈ cs, isIllegal c = false := by
  intro c mem
  have symbol := (isSymbol_iff_mem c).2 (h mem)
  simp [isIllegal, symbol]

/-- The legal characters, one class after the other. -/
theorem isIllegal_iff_not (c : Char) :
    isIllegal c = true ↔
      ¬ ('a' ≤ c ∧ c ≤ 'z' ∨ 'A' ≤ c ∧ c ≤ 'Z' ∨ c = '_' ∨ '0' ≤ c ∧ c ≤ '9' ∨
        c ∈ [' ', '\t', '\n', '\r'] ∨
        c ∈ ['=', '+', '-', '!', '*', '/', '<', '>', ',', ';', '(', ')', '\x7b', '\x7d']) := by
  rw [isIllegal, Bool.not_eq_true', ← Bool.not_eq_true, ← isSymbol_iff_mem]
  refine not_congr ?_
  simp only [Bool.or_eq_true, isLetter, isDigit, isBlank, blanks, Bool.and_eq_true,
    decide_eq_true_eq, beq_iff_eq, List.contains_iff_mem, or_assoc]

/-- The characters outside the printable part of ASCII are illegal, all but three. -/
theorem isIllegal_of_not_printable {c : Char} (outside : c.toNat < 0x20 ∨ 0x7f ≤ c.toNat)
    (other : c ∉ ['\t', '\n', '\r']) : isIllegal c = true := by
  have within : ∀ e ∈ TokenKind.symbols, 0x20 ≤ e.1.toNat ∧ e.1.toNat < 0x7f := by decide
  refine (isIllegal_iff c).2 ⟨?_, ?_, ?_, ?_⟩ <;> rw [Bool.eq_false_iff]
  · intro letter
    rw [isLetter_iff] at letter
    omega
  · intro digit
    rw [isDigit_iff] at digit
    omega
  · intro blank
    rcases (isBlank_iff c).1 blank with rfl | rfl | rfl | rfl
    · exact absurd outside (by decide)
    all_goals exact other (by decide)
  · intro symbol
    obtain ⟨k, mem⟩ := (isSymbol_iff c).1 symbol
    have := within _ mem
    dsimp only at this
    omega

end Alphabet

open Alphabet

namespace Grammar

/-- A lexeme of another kind holds no illegal character. -/
theorem IsLexeme.not_isIllegal {k : TokenKind} {l : List Char} (h : IsLexeme k l)
    (other : k ≠ .illegal) : ∀ c ∈ l, isIllegal c = false := by
  cases h with
  | identifier _ letters =>
    intro c mem
    simp [isIllegal, letters c mem]
  | integer _ digits =>
    intro c mem
    simp [isIllegal, digits c mem]
  | illegal _ => exact absurd rfl other
  | letWord | functionWord => simp [isIllegal, isLetter]
  | _ => exact not_isIllegal_of_subset (by decide)

/-- A lexeme of the illegal kind is one illegal character. -/
theorem IsLexeme.eq_singleton {l : List Char} (h : IsLexeme .illegal l) :
    ∃ c, l = [c] ∧ isIllegal c = true := by
  cases h with
  | illegal outside => exact ⟨_, rfl, outside⟩

end Grammar

namespace Cursor

/-- The illegal tokens from an offset on are the illegal characters of what is left of the text. -/
theorem filter_tokens (text : List Char) (p : Nat) :
    (onOffset text p).tokens.filter (·.kind = .illegal) =
      (illegalFrom p (text.drop p)).map fun e => .ofLexeme text e.2 .illegal [e.1] := by
  induction p using tokens_induction with
  | done p blanks =>
    rw [illegalFrom_eq_nil (fun c mem => not_isIllegal_of_isBlank (blanks c mem))]
    rfl
  | token p gap k l more split blanks lexeme _ ih =>
    rw [split, illegalFrom_append, illegalFrom_append,
      illegalFrom_eq_nil (fun c mem => not_isIllegal_of_isBlank (blanks c mem)), List.nil_append,
      List.map_append]
    rw [drop_of_lexeme split] at ih
    by_cases illegal : k = .illegal
    · subst illegal
      obtain ⟨c, rfl, outside⟩ := lexeme.eq_singleton
      rw [List.filter_cons_of_pos (by rfl), illegalFrom_singleton outside, ih]
      rfl
    · rw [List.filter_cons_of_neg (by simp [Token.ofLexeme, illegal]),
        illegalFrom_eq_nil (lexeme.not_isIllegal illegal), ih]
      rfl

end Cursor

/-- The problems of a text are its illegal characters: one for each, in the order of the text, with
the character quoted in the message and the place of its offset. Illegal is every character that is
no letter, underscore, digit, blank or symbol, and so every character that is not printable ASCII
but for tab, line feed and carriage return. -/
theorem ofTokens_scan (s : String) :
    Problem.ofTokens (scan s) s =
      ((s.toList.zipIdx.filter fun e => isIllegal e.1).map fun e =>
        ⟨"illegal character " ++ Text.quote (String.singleton e.1), .ofOffset s.toList e.2, s⟩) ∧
      (∀ c, isIllegal c = true ↔
        ¬ ('a' ≤ c ∧ c ≤ 'z' ∨ 'A' ≤ c ∧ c ≤ 'Z' ∨ c = '_' ∨ '0' ≤ c ∧ c ≤ '9' ∨
          c ∈ [' ', '\t', '\n', '\r'] ∨
          c ∈ ['=', '+', '-', '!', '*', '/', '<', '>', ',', ';', '(', ')', '\x7b', '\x7d'])) ∧
      ∀ c, (c.toNat < 0x20 ∨ 0x7f ≤ c.toNat) → c ∉ ['\t', '\n', '\r'] → isIllegal c = true := by
  refine ⟨?_, isIllegal_iff_not, fun c => isIllegal_of_not_printable⟩
  have tokens := Cursor.filter_tokens s.toList 0
  rw [Problem.ofTokens, tokens_scan, tokens, List.map_map]
  rfl

end MonkeyScan
