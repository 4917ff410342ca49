import MonkeyScan.Proofs.CursorState

/-!
The tokens of a text as a cut of the text. `Munches` says, without a scanner, when a row of kinds,
literals and offsets cuts a text into blanks and maximal lexemes. The main statements: what the
tokens from an offset on look like, as an induction along them (`tokens_induction`), and that the
scan of a text is the one row of tokens that cuts it (`scan_munches`).
-/

namespace MonkeyScan

open Alphabet Grammar

/-- The token of a lexeme that stands at an offset of a text. -/
def Token.ofLexeme (text : List Char) (p : Nat) (k : TokenKind) (l : List Char) : Token :=
  ⟨k, String.ofList l, ⟨.ofOffset text p, .ofOffset text (p + l.length)⟩⟩

namespace Cursor

theorem tokens_eq (c : Cursor) :
    c.tokens = if c.next.1.kind = .eof then [c.next.1] else c.next.1 :: c.next.2.tokens := by
  unfold tokens
  rw [drain]
  split <;> rfl

theorem tokens_ne_nil (c : Cursor) : c.tokens ≠ [] := by
  rw [tokens_eq]
  split <;> exact List.cons_ne_nil _ _

/-- One token to come is the end of input, the last one. -/
theorem tokens_eq_concat_eof (c : Cursor) :
    ∃ ts e, c.tokens = ts ++ [e] ∧ e.kind = .eof ∧ ∀ t ∈ ts, t.kind ≠ .eof := by
  unfold tokens
  fun_induction drain c with
  | case1 c ended => exact ⟨[], _, rfl, ended, by simp⟩
  | case2 c other more ih =>
    obtain ⟨ts, e, behind, ended, others⟩ := ih
    refine ⟨c.next.1 :: ts, e, by rw [behind]; rfl, ended, fun t mem => ?_⟩
    rcases List.mem_cons.1 mem with rfl | mem
    · exact other
    · exact others t mem

theorem mem_tokens_of_mem_dropLast {c : Cursor} {t : Token} (mem : t ∈ c.tokens.dropLast) :
    t ∈ c.tokens ∧ t.kind ≠ .eof := by
  obtain ⟨ts, e, tokens, -, others⟩ := c.tokens_eq_concat_eof
  refine ⟨List.mem_of_mem_dropLast mem, ?_⟩
  rw [tokens, List.dropLast_concat] at mem
  exact others t mem

/-- Where only blanks are left, the one token left is the end of input, at the end of the text. -/
theorem tokens_of_blanks {text : List Char} {p : Nat}
    (blanks : ∀ c ∈ text.drop p, isBlank c = true) :
    (onOffset text p).tokens = [.endAt (.ofOffset text (p + (text.drop p).length))] := by
  rw [tokens_eq, next_of_blanks blanks]
  exact if_pos rfl

/-- A maximal lexeme behind blanks is the next token. -/
theorem tokens_of_lexeme {text gap l more : List Char} {p : Nat} {k : TokenKind}
    (split : text.drop p = gap ++ (l ++ more)) (blanks : ∀ c ∈ gap, isBlank c = true)
    (lexeme : IsLexeme k l) (maximal : Maximal l more) :
    (onOffset text p).tokens =
      .ofLexeme text (p + gap.length) k l ::
        (onOffset text (p + gap.length + l.length)).tokens := by
  rw [tokens_eq, next_of_lexeme split blanks lexeme maximal]
  exact if_neg lexeme.kind_ne_eof

/-- Blanks in front take no part in the next token. -/
theorem next_of_gap {text gap rest : List Char} {p : Nat} (split : text.drop p = gap ++ rest)
    (blanks : ∀ c ∈ gap, isBlank c = true) :
    (onOffset text p).next = (onOffset text (p + gap.length)).next := by
  have behind : text.drop (p + gap.length) = rest := by
    rw [← List.drop_drop, split, List.drop_left]
  rw [next, next, skipBlanks_onOffset, skipBlanks_onOffset, split, behind,
    List.takeWhile_append_of_pos blanks, List.length_append, Nat.add_assoc]

/-- Blanks in front take no part in the tokens. -/
theorem tokens_of_gap {text gap rest : List Char} {p : Nat} (split : text.drop p = gap ++ rest)
    (blanks : ∀ c ∈ gap, isBlank c = true) :
    (onOffset text p).tokens = (onOffset text (p + gap.length)).tokens := by
  rw [tokens_eq, next_of_gap split blanks, ← tokens_eq]

/-- Along the tokens from an offset on: either only blanks are left, or a maximal lexeme follows the
blanks and the tokens behind it follow its token. -/
theorem tokens_induction {text : List Char} {motive : Nat → List Token → Prop}
    (done : ∀ p, (∀ c ∈ text.drop p, isBlank c = true) →
      motive p [.endAt (.ofOffset text (p + (text.drop p).length))])
    (token : ∀ p gap k l more, text.drop p = gap ++ (l ++ more) →
      (∀ c ∈ gap, isBlank c = true) → IsLexeme k l → Maximal l more →
      motive (p + gap.length + l.length) (onOffset text (p + gap.length + l.length)).tokens →
      motive p (.ofLexeme text (p + gap.length) k l ::
        (onOffset text (p + gap.length + l.length)).tokens)) (p : Nat) :
    motive p (onOffset text p).tokens := by
  rcases blanks_or_lexeme (text.drop p) with
    blanks | ⟨gap, k, l, more, split, blanks, found, maximal⟩
  · rw [tokens_of_blanks blanks]
    exact done p blanks
  · have shorter : text.length - (p + gap.length + l.length) < text.length - p := by
      have := length_of_lexeme split found
      omega
    rw [tokens_of_lexeme split blanks found maximal]
    exact token p gap k l more split blanks found maximal (tokens_induction done token _)
termination_by text.length - p

end Cursor

/-! ## Cuts of a text -/

/-- What a token says about a text, but for lines and columns. -/
structure Outline where
  kind : TokenKind
  literal : String
  start : Int
  stop : Int
deriving DecidableEq

namespace Token

/-- The kind, the literal and the offsets of a token. -/
def outline (t : Token) : Outline := ⟨t.kind, t.literal, t.span.start.offset, t.span.stop.offset⟩

/-- Both ends of a token are the places of their offsets in a text. -/
def IsPlaced (text : List Char) (t : Token) : Prop :=
  t.span.start = .ofOffset text t.span.start.offset.toNat ∧
    t.span.stop = .ofOffset text t.span.stop.offset.toNat

theorem outline_ofLexeme (text : List Char) (p : Nat) (k : TokenKind) (l : List Char) :
    (ofLexeme text p k l).outline = ⟨k, String.ofList l, p, (p + l.length : Nat)⟩ := rfl

theorem outline_endAt (p : Position) : (endAt p).outline = ⟨.eof, "", p.offset, p.offset⟩ := rfl

/-- The token runs from one offset of a text to another, between two bounds. -/
def RunsWithin (text : List Char) (lo hi : Nat) (t : Token) : Prop :=
  ∃ a b, lo ≤ a ∧ a ≤ b ∧ b ≤ hi ∧ t.span = ⟨.ofOffset text a, .ofOffset text b⟩

theorem RunsWithin.mono {text : List Char} {lo lo' hi : Nat} {t : Token}
    (h : RunsWithin text lo hi t) (le : lo' ≤ lo) : RunsWithin text lo' hi t := by
  obtain ⟨a, b, ha, hab, hb, span⟩ := h
  exact ⟨a, b, by omega, hab, hb, span⟩

theorem RunsWithin.isPlaced {text : List Char} {lo hi : Nat} {t : Token}
    (h : RunsWithin text lo hi t) : t.IsPlaced text := by
  obtain ⟨a, b, -, -, -, span⟩ := h
  rw [IsPlaced, span]
  exact ⟨rfl, rfl⟩

/-- A token that is placed is determined by its outline. -/
theorem eq_of_outline_eq {text : List Char} {t u : Token} (ht : t.IsPlaced text)
    (hu : u.IsPlaced text) (h : t.outline = u.outline) : t = u := by
  obtain ⟨kind, literal, start, stop⟩ := Outline.mk.inj h
  ext1
  case kind => exact kind
  case literal => exact literal
  case span =>
    ext1
    case start => rw [ht.1, hu.1, start]
    case stop => rw [ht.2, hu.2, stop]

end Token

/-- From an offset on, a row of outlines cuts a text: blanks and a maximal lexeme of its kind in
turn, each at the offset where it stands, and at last, behind blanks, the end of input. -/
inductive Grammar.Munches : Nat → List Char → List Outline → Prop
  | done {p : Nat} {gap : List Char} : (∀ c ∈ gap, isBlank c = true) →
      Munches p gap [⟨.eof, "", (p + gap.length : Nat), (p + gap.length : Nat)⟩]
  | token {p : Nat} {gap l more : List Char} {k : TokenKind} {os : List Outline} :
      (∀ c ∈ gap, isBlank c = true) → IsLexeme k l → Maximal l more →
      Munches (p + gap.length + l.length) more os →
      Munches p (gap ++ (l ++ more))
        (⟨k, String.ofList l, (p + gap.length : Nat), (p + gap.length + l.length : Nat)⟩ :: os)

namespace Cursor

/-- The tokens from an offset on cut what is left of the text. -/
theorem munches_tokens (text : List Char) (p : Nat) :
    Munches p (text.drop p) ((onOffset text p).tokens.map Token.outline) := by
  induction p using tokens_induction with
  | done p blanks =>
    rw [List.map_singleton, Token.outline_endAt]
    exact .done blanks
  | token p gap k l more split blanks lexeme maximal ih =>
    rw [drop_of_lexeme split] at ih
    rw [split, List.map_cons, Token.outline_ofLexeme]
    exact .token blanks lexeme maximal ih

/-- There is no other cut. -/
theorem eq_of_munches {text cs : List Char} {p : Nat} {os : List Outline} (h : Munches p cs os)
    (here : text.drop p = cs) : os = (onOffset text p).tokens.map Token.outline := by
  induction h with
  | done blanks =>
    rw [← here] at blanks
    rw [tokens_of_blanks blanks, List.map_singleton, Token.outline_endAt, here]
    rfl
  | token blanks lexeme maximal _ ih =>
    rw [tokens_of_lexeme here blanks lexeme maximal, List.map_cons, Token.outline_ofLexeme,
      ih (drop_of_lexeme here)]

/-- Every token runs from one offset to another of what is left of the text. -/
theorem runsWithin_tokens {text : List Char} {p : Nat} (h : p ≤ text.length) :
    ∀ t ∈ (onOffset text p).tokens, t.RunsWithin text p text.length := by
  induction p using tokens_induction with
  | done p _ =>
    intro t mem
    rw [List.mem_singleton.1 mem, List.length_drop, Nat.add_sub_cancel' h]
    exact ⟨text.length, text.length, h, Nat.le_refl _, Nat.le_refl _, rfl⟩
  | token p gap k l more split _ lexeme _ ih =>
    obtain ⟨-, within⟩ := length_of_lexeme split lexeme
    intro t mem
    rcases List.mem_cons.1 mem with rfl | mem
    · exact ⟨p + gap.length, p + gap.length + l.length, by omega, by omega, within, rfl⟩
    · exact (ih within t mem).mono (by omega)

/-- Every token but the end of input is a maximal lexeme of the text, at the offset where it
stands. -/
theorem exists_lexeme_of_mem_tokens {text : List Char} {p : Nat} {t : Token}
    (mem : t ∈ (onOffset text p).tokens) (other : t.kind ≠ .eof) :
    ∃ q k l more, text.drop q = l ++ more ∧ IsLexeme k l ∧ Maximal l more ∧
      t = .ofLexeme text q k l := by
  induction p using tokens_induction with
  | done p _ =>
    rw [List.mem_singleton.1 mem] at other
    exact absurd rfl other
  | token p gap k l more split _ lexeme maximal ih =>
    rcases List.mem_cons.1 mem with rfl | mem
    · refine ⟨p + gap.length, k, l, more, ?_, lexeme, maximal, rfl⟩
      rw [← List.drop_drop, split, List.drop_left]
    · exact ih mem

/-- One token is the end of input, the last one, at the end of the text. -/
theorem tokens_eq_concat {text : List Char} {p : Nat} (h : p ≤ text.length) :
    ∃ ts, (onOffset text p).tokens = ts ++ [.endAt (.ofOffset text text.length)] ∧
      ∀ t ∈ ts, t.kind ≠ .eof := by
  induction p using tokens_induction with
  | done p _ =>
    refine ⟨[], ?_, by simp⟩
    rw [List.length_drop, Nat.add_sub_cancel' h, List.nil_append]
  | token p gap k l more split _ lexeme _ ih =>
    obtain ⟨us, behind, others⟩ := ih (length_of_lexeme split lexeme).2
    refine ⟨_ :: us, by rw [behind]; rfl, fun t mem => ?_⟩
    rcases List.mem_cons.1 mem with rfl | mem
    · exact lexeme.kind_ne_eof
    · exact others t mem

end Cursor

theorem tokens_scan (s : String) : scan s = (Cursor.onOffset s.toList 0).tokens := by
  rw [scan, Cursor.start_eq]

/-- Rows of placed tokens are alike when their outlines are. -/
theorem Token.eq_of_map_outline_eq {text : List Char} {ts us : List Token}
    (hts : ∀ t ∈ ts, t.IsPlaced text) (hus : ∀ u ∈ us, u.IsPlaced text)
    (h : ts.map outline = us.map outline) : ts = us := by
  induction ts generalizing us with
  | nil =>
    rw [List.map_nil] at h
    exact (List.map_eq_nil_iff.1 h.symm).symm
  | cons t ts ih =>
    obtain ⟨u, us, rfl, head, tail⟩ := List.map_eq_cons_iff.1 h.symm
    rw [eq_of_outline_eq (hts t List.mem_cons_self) (hus u List.mem_cons_self) head.symm,
      ih (fun t mem => hts t (List.mem_cons_of_mem _ mem))
        (fun u mem => hus u (List.mem_cons_of_mem _ mem)) tail.symm]

/-- The scan of a text is the one row of tokens that cuts the text into blanks and maximal lexemes:
no other row has such kinds, literals and offsets, and none but the scan has them with the lines and
columns of those offsets. The end of input comes once, at the end of the text. -/
theorem scan_munches (s : String) :
    (∀ os, Munches 0 s.toList os ↔ os = (scan s).map Token.outline) ∧
      (∀ ts : List Token, Munches 0 s.toList (ts.map Token.outline) ∧
        (∀ t ∈ ts, t.IsPlaced s.toList) ↔ ts = scan s) ∧
      ∃ ts, scan s = ts ++ [.endAt (.ofOffset s.toList s.length)] ∧ ∀ t ∈ ts, t.kind ≠ .eof := by
  have cut : ∀ os, Munches 0 s.toList os ↔ os = (scan s).map Token.outline := by
    intro os
    rw [tokens_scan]
    constructor
    · intro munches
      exact Cursor.eq_of_munches munches rfl
    · rintro rfl
      exact Cursor.munches_tokens s.toList 0
  have placed : ∀ t ∈ scan s, t.IsPlaced s.toList := by
    rw [tokens_scan]
    exact fun t mem => (Cursor.runsWithin_tokens (Nat.zero_le _) t mem).isPlaced
  refine ⟨cut, fun ts => ⟨?_, ?_⟩, ?_⟩
  · rintro ⟨munches, sits⟩
    exact Token.eq_of_map_outline_eq sits placed ((cut _).1 munches)
  · rintro rfl
    exact ⟨(cut _).2 rfl, placed⟩
  · rw [tokens_scan, ← String.length_toList]
    exact Cursor.tokens_eq_concat (Nat.zero_le _)

end MonkeyScan
