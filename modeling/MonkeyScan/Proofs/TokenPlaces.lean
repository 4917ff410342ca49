import MonkeyScan.Proofs.Munch

/-!
Where the tokens of a text stand. The ends of a token are the places of offsets within the text, so
they are lines and columns of the text cut into lines; a token other than the end of input stays on
its line; and the tokens follow each other without overlap. Main statement: `scan_places`.
-/

namespace MonkeyScan

open Grammar Position

namespace Token

/-- A token ends on the line where it starts, as many columns and offsets on as it has
characters. -/
def OnOneLine (t : Token) : Prop :=
  t.span.stop = ⟨t.span.start.line, t.span.start.column + t.literal.length,
    t.span.start.offset + t.literal.length⟩

/-- A token starts before another, by offset and by line and column, and ends before it starts. -/
structure Before (t u : Token) : Prop where
  offset_lt : t.span.start.offset < u.span.start.offset
  place_lt : t.span.start.Before u.span.start
  stop_le : t.span.stop.offset ≤ u.span.start.offset

/-- A lexeme holds no line feed, so its token stays on its line. -/
theorem onOneLine_ofLexeme {text l more : List Char} {p : Nat} {k : TokenKind}
    (split : text.drop p = l ++ more) (lexeme : IsLexeme k l) :
    (ofLexeme text p k l).OnOneLine := by
  have feed : '\n' ∉ (text.drop p).take l.length := by
    rw [split, List.take_left]
    exact lexeme.lineFeed_not_mem
  unfold OnOneLine
  dsimp only [ofLexeme]
  rw [String.length_ofList, ofOffset_add feed]

end Token

namespace Cursor

theorem onOneLine_tokens (text : List Char) (p : Nat) :
    ∀ t ∈ (onOffset text p).tokens, t.kind ≠ .eof → t.OnOneLine := by
  induction p using tokens_induction with
  | done p _ =>
    intro t mem other
    rw [List.mem_singleton.1 mem] at other
    exact absurd rfl other
  | token p gap k l more split _ lexeme _ ih =>
    intro t mem other
    rcases List.mem_cons.1 mem with rfl | mem
    · have here : text.drop (p + gap.length) = l ++ more := by
        rw [← List.drop_drop, split, List.drop_left]
      exact Token.onOneLine_ofLexeme here lexeme
    · exact ih t mem other

/-- The tokens follow each other: a lexeme takes at least one character, and what comes behind it
starts where it ends or later. -/
theorem pairwise_tokens {text : List Char} {p : Nat} (h : p ≤ text.length) :
    (onOffset text p).tokens.Pairwise Token.Before := by
  induction p using tokens_induction with
  | done p _ => exact List.pairwise_singleton _ _
  | token p gap k l more split _ lexeme _ ih =>
    obtain ⟨taken, within⟩ := length_of_lexeme split lexeme
    refine List.pairwise_cons.2 ⟨fun u mem => ?_, ih within⟩
    obtain ⟨a, b, ha, -, -, span⟩ := runsWithin_tokens within u mem
    constructor
    case offset_lt =>
      rw [span]
      exact Int.ofNat_lt.2 (by omega)
    case place_lt =>
      rw [span]
      exact before_ofOffset text (by omega)
    case stop_le =>
      rw [span]
      exact Int.ofNat_le.2 ha

end Cursor

/-- Both ends of every token are a line and a column of the text cut into lines, every token but the
end of input stays on one line, and the tokens start one behind the other, none before the one in
front of it ends. -/
theorem scan_places (s : String) :
    (∀ t ∈ scan s, InLines (Text.lines s.toList) t.span.start ∧
      InLines (Text.lines s.toList) t.span.stop) ∧
    (∀ t ∈ scan s, t.kind ≠ .eof → t.OnOneLine) ∧
    (scan s).Pairwise Token.Before := by
  rw [tokens_scan]
  refine ⟨fun t mem => ?_, Cursor.onOneLine_tokens s.toList 0,
    Cursor.pairwise_tokens (Nat.zero_le _)⟩
  obtain ⟨a, b, -, hab, hb, span⟩ := Cursor.runsWithin_tokens (Nat.zero_le _) t mem
  rw [span]
  exact ⟨inLines_ofOffset (by omega), inLines_ofOffset hb⟩

end MonkeyScan
