import MonkeyScan.Proofs.Munch

/-!
One text behind another. The tokens of the second text come out as they do alone, with their places
moved behind the first text (`tokens_append_right`). The tokens of the first text come out as they
do alone exactly when its last lexeme, if it stands at the very end, is not cut off there
(`tokens_append_left`, `endsMaximal_of_tokens_eq`). Main statement: `scan_append_iff`, which says
the same of characters: no word, no number and no operator goes on across the seam.
-/

namespace MonkeyScan

open Alphabet Grammar

namespace Position

/-- A place of a text when another text stands in front: the line counts the line feeds of that
text, the first line starts behind its last line, and the offset counts its characters. -/
def behind (front : List Char) (p : Position) : Position where
  line := p.line + front.count '\n'
  column := if p.line = 1 then p.column + (Text.lastLine front).length else p.column
  offset := p.offset + front.length

theorem ofOffset_append_left {front : List Char} {p : Nat} (h : p ≤ front.length)
    (rest : List Char) : ofOffset (front ++ rest) p = ofOffset front p := by
  rw [ofOffset, ofOffset, List.take_append_of_le_length h]

theorem ofOffset_append_right (front rest : List Char) (p : Nat) :
    ofOffset (front ++ rest) (front.length + p) = (ofOffset rest p).behind front := by
  have taken : (front ++ rest).take (front.length + p) = front ++ rest.take p :=
    List.take_length_add_append p
  have last := Text.length_lastLine front
  have column : ((front.length + p : Nat) : Int) - Text.lastLineFeed (front ++ rest.take p) =
      if (1 + (rest.take p).count '\n' : Int) = 1 then
        p - Text.lastLineFeed (rest.take p) + (Text.lastLine front).length
      else p - Text.lastLineFeed (rest.take p) := by
    by_cases feed : '\n' ∈ rest.take p
    · have counted := List.count_pos_iff.2 feed
      have inside := Text.length_lastLine (rest.take p)
      have whole := Text.length_lastLine (front ++ rest.take p)
      rw [Text.lastLine_append_of_mem feed, List.length_append] at whole
      rw [if_neg (by omega)]
      omega
    · rw [List.count_eq_zero.2 feed, Text.lastLineFeed_append feed,
        Text.lastLineFeed_of_not_mem feed, if_pos (by simp)]
      omega
  unfold ofOffset behind
  rw [taken, column, List.count_append]
  ext
  case line => dsimp only; omega
  case column => rfl
  case offset => dsimp only; omega

end Position

namespace Token

/-- A token of a text when another text stands in front. -/
def behind (front : List Char) (t : Token) : Token :=
  ⟨t.kind, t.literal, ⟨t.span.start.behind front, t.span.stop.behind front⟩⟩

theorem toList_literal_ofLexeme (text : List Char) (p : Nat) (k : TokenKind) (l : List Char) :
    (ofLexeme text p k l).literal.toList = l :=
  String.toList_ofList

theorem ofLexeme_append_right (front rest : List Char) (p : Nat) (k : TokenKind) (l : List Char) :
    ofLexeme (front ++ rest) (front.length + p) k l = (ofLexeme rest p k l).behind front := by
  rw [ofLexeme, Nat.add_assoc, Position.ofOffset_append_right, Position.ofOffset_append_right]
  rfl

theorem ofLexeme_append_left {front l : List Char} {p : Nat} (h : p + l.length ≤ front.length)
    (rest : List Char) (k : TokenKind) : ofLexeme (front ++ rest) p k l = ofLexeme front p k l := by
  rw [ofLexeme, Position.ofOffset_append_left h, Position.ofOffset_append_left (by omega)]
  rfl

end Token

namespace Cursor

/-- Behind another text the tokens are those of the text alone. -/
theorem tokens_append_right (front rest : List Char) (p : Nat) :
    (onOffset (front ++ rest) (front.length + p)).tokens =
      (onOffset rest p).tokens.map (Token.behind front) := by
  have same (q : Nat) : (front ++ rest).drop (front.length + q) = rest.drop q :=
    List.drop_length_add_append q
  induction p using tokens_induction with
  | done p blanks =>
    rw [← same] at blanks
    rw [tokens_of_blanks blanks, same, Nat.add_assoc, Position.ofOffset_append_right]
    rfl
  | token p gap k l more split blanks lexeme maximal ih =>
    rw [← same] at split
    rw [tokens_of_lexeme split blanks lexeme maximal, Nat.add_assoc, Nat.add_assoc,
      ih, Token.ofLexeme_append_right]
    rfl

/-- A last token that ends with its text is not cut off where another text follows. -/
def EndsMaximal (front rest : List Char) (ts : List Token) : Prop :=
  ∀ t ∈ ts.getLast?, t.span.stop.offset = front.length → Maximal t.literal.toList rest

theorem EndsMaximal.tail {front rest : List Char} {t : Token} {ts : List Token}
    (h : EndsMaximal front rest (t :: ts)) : EndsMaximal front rest ts := by
  intro u last
  exact h u (by rw [List.getLast?_cons, Option.mem_def.1 last]; rfl)

/-- In front of another text the tokens are those of the text alone, if the last one of them is not
cut off. -/
theorem tokens_append_left {front rest : List Char} {p : Nat} (h : p ≤ front.length)
    (ends : EndsMaximal front rest (onOffset front p).tokens.dropLast) :
    (onOffset (front ++ rest) p).tokens =
      (onOffset front p).tokens.dropLast ++ (onOffset (front ++ rest) front.length).tokens := by
  induction p using tokens_induction with
  | done p blanks =>
    have split : (front ++ rest).drop p = front.drop p ++ rest :=
      List.drop_append_of_le_length h
    rw [tokens_of_gap split blanks, List.length_drop, Nat.add_sub_cancel' h]
    rfl
  | token p gap k l more split blanks lexeme maximal ih =>
    obtain ⟨taken, within⟩ := length_of_lexeme split lexeme
    have behind := drop_of_lexeme split
    have split' : (front ++ rest).drop p = gap ++ (l ++ (more ++ rest)) := by
      rw [List.drop_append_of_le_length h, split, List.append_assoc, List.append_assoc]
    rw [List.dropLast_cons_of_ne_nil (tokens_ne_nil _)] at ends ⊢
    have maximal' : Maximal l (more ++ rest) := by
      cases more with
      | nil =>
        have here : p + gap.length + l.length = front.length := by
          have := List.drop_eq_nil_iff.1 behind
          omega
        rw [tokens_of_blanks (by simp [behind])] at ends
        have uncut := ends (.ofLexeme front (p + gap.length) k l) rfl (congrArg Int.ofNat here)
        rwa [Token.toList_literal_ofLexeme] at uncut
      | cons c more => exact ⟨maximal.word, maximal.number, maximal.sign⟩
    rw [tokens_of_lexeme split' blanks lexeme maximal', ih within ends.tail,
      Token.ofLexeme_append_left within]
    rfl

/-- Where a text is not blank, its last lexeme gives the last token before the end of input; only
blanks stand behind it. -/
theorem tokens_eq_concat_lexeme {text : List Char} {p : Nat} (h : p ≤ text.length)
    (notBlank : ∃ c ∈ text.drop p, isBlank c = false) :
    ∃ ts q k l gap, (onOffset text p).tokens.dropLast = ts ++ [.ofLexeme text q k l] ∧
      text.drop q = l ++ gap ∧ IsLexeme k l ∧ ∀ c ∈ gap, isBlank c = true := by
  induction p using tokens_induction with
  | done p blanks =>
    obtain ⟨c, mem, stop⟩ := notBlank
    rw [blanks c mem] at stop
    exact Bool.noConfusion stop
  | token p gap k l more split _ lexeme _ ih =>
    have behind := drop_of_lexeme split
    rw [List.dropLast_cons_of_ne_nil (tokens_ne_nil _)]
    by_cases blank : ∀ c ∈ more, isBlank c = true
    · refine ⟨[], p + gap.length, k, l, more, ?_, ?_, lexeme, blank⟩
      · rw [tokens_of_blanks (by rwa [behind])]
        rfl
      · rw [← List.drop_drop, split, List.drop_left]
    · have left : ∃ c ∈ text.drop (p + gap.length + l.length), isBlank c = false := by
        rw [behind]
        simpa using blank
      obtain ⟨ts, q, k', l', gap', tokens, rest⟩ := ih (length_of_lexeme split lexeme).2 left
      exact ⟨_ :: ts, q, k', l', gap', by rw [tokens]; rfl, rest⟩

/-- If the tokens of the whole begin with those of the first text, the last one of them is not cut
off. -/
theorem endsMaximal_of_tokens_eq {front rest : List Char} {us : List Token}
    (same : (onOffset (front ++ rest) 0).tokens = (onOffset front 0).tokens.dropLast ++ us) :
    EndsMaximal front rest (onOffset front 0).tokens.dropLast := by
  intro t last stop
  have mem := List.mem_of_getLast? last
  obtain ⟨-, other⟩ := mem_tokens_of_mem_dropLast mem
  have mem' : t ∈ (onOffset (front ++ rest) 0).tokens := by
    rw [same]
    exact List.mem_append_left _ mem
  obtain ⟨q, k, l, more, here, -, maximal, rfl⟩ := exists_lexeme_of_mem_tokens mem' other
  have seam : q + l.length = front.length := Int.ofNat.inj stop
  have behind : more = rest := by
    have cut : (l ++ more).drop l.length = more := List.drop_left
    rw [← cut, ← here, List.drop_drop, seam, List.drop_left]
  rwa [Token.toList_literal_ofLexeme, ← behind]

end Cursor

/-! ## The seam -/

/-- A run of characters of a class goes on from the end of one text into another. -/
def Grammar.RunsOn (f : Char → Bool) (front rest : List Char) : Prop :=
  (∃ c ∈ front.getLast?, f c = true) ∧ ∃ c ∈ rest.head?, f c = true

namespace Grammar

/-- All characters of a lexeme are letters, or none is, and likewise digits. -/
theorem IsLexeme.alike {k : TokenKind} {l : List Char} (h : IsLexeme k l) :
    ∀ c ∈ l, ∀ d ∈ l, isLetter c = isLetter d ∧ isDigit c = isDigit d := by
  have digit_of_letter {c : Char} (letter : isLetter c = true) : isDigit c = false := by
    rw [Bool.eq_false_iff]
    intro digit
    rw [not_isLetter_of_isDigit digit] at letter
    exact Bool.noConfusion letter
  cases h with
  | identifier _ letters =>
    intro c mc d md
    simp [letters c mc, letters d md, digit_of_letter]
  | integer _ digits =>
    intro c mc d md
    simp [digits c mc, digits d md, not_isLetter_of_isDigit]
  | _ => simp [isLetter, isDigit]

/-- The last character of a lexeme shows its class. -/
theorem IsLexeme.forall_mem_iff {k : TokenKind} {l : List Char} (h : IsLexeme k l)
    {f : Char → Bool} (alike : ∀ c ∈ l, ∀ d ∈ l, f c = f d) :
    (∀ c ∈ l, f c = true) ↔ ∃ c ∈ l.getLast?, f c = true := by
  constructor
  · intro all
    exact ⟨_, List.getLast?_eq_some_getLast h.ne_nil, all _ (List.getLast_mem h.ne_nil)⟩
  · rintro ⟨c, last, holds⟩ d mem
    rw [alike d mem c (List.mem_of_getLast? last), holds]

theorem IsLexeme.sign_iff {k : TokenKind} {l : List Char} (h : IsLexeme k l) :
    l = ['='] ∨ l = ['!'] ↔ k = .assign ∨ k = .bang := by
  cases h with
  | identifier _ letters =>
    have : l ≠ ['='] ∧ l ≠ ['!'] := by
      constructor <;> rintro rfl <;> simp [isLetter] at letters
    simp [this]
  | integer _ digits =>
    have : l ≠ ['='] ∧ l ≠ ['!'] := by
      constructor <;> rintro rfl <;> simp [isDigit] at digits
    simp [this]
  | illegal outside =>
    constructor
    · rintro (alone | alone) <;> rw [(List.cons.inj alone).1] at outside <;>
        exact absurd outside (by decide)
    · rintro (same | same) <;> exact TokenKind.noConfusion same
  | _ => simp

/-- A lexeme is not cut off in front of a text when no run goes on into the text and no operator. -/
theorem IsLexeme.maximal_iff {k : TokenKind} {l : List Char} (h : IsLexeme k l) (rest : List Char) :
    Maximal l rest ↔ ¬ RunsOn isLetter l rest ∧ ¬ RunsOn isDigit l rest ∧
      ¬ ((k = .assign ∨ k = .bang) ∧ rest.head? = some '=') := by
  have letters := h.forall_mem_iff fun c mc d md => (h.alike c mc d md).1
  have digits := h.forall_mem_iff fun c mc d md => (h.alike c mc d md).2
  unfold RunsOn
  rw [← letters, ← digits, ← h.sign_iff]
  constructor
  · rintro ⟨word, number, sign⟩
    refine ⟨?_, ?_, fun ⟨alone, next⟩ => sign alone next⟩
    · rintro ⟨all, c, first, holds⟩
      rw [word all c first] at holds
      exact Bool.noConfusion holds
    · rintro ⟨all, c, first, holds⟩
      rw [number all c first] at holds
      exact Bool.noConfusion holds
  · rintro ⟨word, number, sign⟩
    refine ⟨fun all c first => ?_, fun all c first => ?_, fun alone next => sign ⟨alone, next⟩⟩
    · rw [Bool.eq_false_iff]
      exact fun holds => word ⟨all, c, first, holds⟩
    · rw [Bool.eq_false_iff]
      exact fun holds => number ⟨all, c, first, holds⟩

end Grammar

namespace Cursor

/-- The last character of a lexeme at the end of a text is that of the text. -/
theorem getLast?_of_drop {text l : List Char} {q : Nat} (here : text.drop q = l) (ne : l ≠ []) :
    text.getLast? = l.getLast? := by
  have inside : ¬ text.length ≤ q := by
    rw [← List.drop_eq_nil_iff, here]
    exact ne
  rw [← here, List.getLast?_drop, if_neg inside]

/-- A token that ends with its text has its last character, which is no blank. -/
theorem not_isBlank_of_stop {text : List Char} {p : Nat} {t : Token}
    (mem : t ∈ (onOffset text p).tokens) (other : t.kind ≠ .eof)
    (stop : t.span.stop.offset = text.length) : ∃ c ∈ text.getLast?, isBlank c = false := by
  obtain ⟨q, k, l, more, here, lexeme, -, rfl⟩ := exists_lexeme_of_mem_tokens mem other
  have seam : q + l.length = text.length := Int.ofNat.inj stop
  have none : more = [] := by
    have total := congrArg List.length here
    rw [List.length_drop, List.length_append] at total
    exact List.length_eq_zero_iff.1 (by omega)
  rw [none, List.append_nil] at here
  rw [getLast?_of_drop here lexeme.ne_nil]
  exact ⟨_, List.getLast?_eq_some_getLast lexeme.ne_nil, lexeme.not_isBlank _ (List.getLast_mem _)⟩

/-- Where a text ends with no blank, its last token ends with it. -/
theorem exists_lexeme_of_getLast? {text : List Char}
    (last : ∃ c ∈ text.getLast?, isBlank c = false) :
    ∃ ts q k l, (onOffset text 0).tokens.dropLast = ts ++ [.ofLexeme text q k l] ∧
      text.drop q = l ∧ IsLexeme k l := by
  obtain ⟨c, found, stop⟩ := last
  obtain ⟨ts, q, k, l, gap, tokens, here, lexeme, blanks⟩ :=
    tokens_eq_concat_lexeme (Nat.zero_le text.length) ⟨c, List.mem_of_getLast? found, stop⟩
  have none : gap = [] := by
    by_contra ne
    rw [getLast?_of_drop here (by simp [ne]), List.getLast?_append_of_ne_nil _ ne] at found
    rw [blanks c (List.mem_of_getLast? found)] at stop
    exact Bool.noConfusion stop
  rw [none, List.append_nil] at here
  exact ⟨ts, q, k, l, tokens, here, lexeme⟩

/-- The last token of a text is not cut off in front of another text when no run of letters or
digits goes on into it and no operator of two characters. -/
theorem endsMaximal_iff (front rest : List Char) :
    EndsMaximal front rest (onOffset front 0).tokens.dropLast ↔
      ¬ RunsOn isLetter front rest ∧ ¬ RunsOn isDigit front rest ∧
        ¬ ∃ t ∈ (onOffset front 0).tokens.dropLast.getLast?, (t.kind = .assign ∨ t.kind = .bang) ∧
          t.span.stop.offset = front.length ∧ rest.head? = some '=' := by
  by_cases last : ∃ c ∈ front.getLast?, isBlank c = false
  · obtain ⟨ts, q, k, l, tokens, here, lexeme⟩ := exists_lexeme_of_getLast? last
    have stop : (Token.ofLexeme front q k l).span.stop.offset = front.length := by
      have total := congrArg List.length here
      have taken := List.length_pos_iff.2 lexeme.ne_nil
      rw [List.length_drop] at total
      exact congrArg Int.ofNat (by omega)
    have maximal := lexeme.maximal_iff rest
    rw [RunsOn, RunsOn, ← getLast?_of_drop here lexeme.ne_nil] at maximal
    rw [EndsMaximal, tokens, List.getLast?_concat]
    simp only [Option.mem_some_iff, forall_eq', exists_eq_left', stop, forall_const, true_and,
      Token.toList_literal_ofLexeme]
    exact maximal
  · have none {f : Char → Bool} (h : ∀ {c}, f c = true → isBlank c = false) :
        ¬ RunsOn f front rest := by
      rintro ⟨⟨c, found, holds⟩, -⟩
      exact last ⟨c, found, h holds⟩
    have apart : ∀ t ∈ (onOffset front 0).tokens.dropLast.getLast?,
        t.span.stop.offset ≠ front.length := by
      intro t found stop
      obtain ⟨mem, other⟩ := mem_tokens_of_mem_dropLast (List.mem_of_getLast? found)
      exact last (not_isBlank_of_stop mem other stop)
    refine ⟨fun _ => ⟨none not_isBlank_of_isLetter, none not_isBlank_of_isDigit, ?_⟩, fun _ => ?_⟩
    · rintro ⟨t, found, -, stop, -⟩
      exact apart t found stop
    · exact fun t found stop => absurd stop (apart t found)

end Cursor

/-- The scan of two texts, one behind the other, is that of the first one without its end of input
and that of the second one with its places moved behind the first, exactly when nothing goes on
across the seam: no run of letters, no run of digits, and no equals sign or exclamation mark that is
the last token of the first text, at its very end, into an equals sign. -/
theorem scan_append_iff (a b : String) :
    scan (a ++ b) = (scan a).dropLast ++ (scan b).map (Token.behind a.toList) ↔
      ¬ RunsOn isLetter a.toList b.toList ∧ ¬ RunsOn isDigit a.toList b.toList ∧
        ¬ ∃ t ∈ (scan a).dropLast.getLast?, (t.kind = .assign ∨ t.kind = .bang) ∧
          t.span.stop.offset = a.length ∧ b.toList.head? = some '=' := by
  have right := Cursor.tokens_append_right a.toList b.toList 0
  rw [tokens_scan, tokens_scan, tokens_scan, String.toList_append, ← right,
    ← String.length_toList, ← Cursor.endsMaximal_iff]
  constructor
  · exact Cursor.endsMaximal_of_tokens_eq
  · exact Cursor.tokens_append_left (Nat.zero_le _)

end MonkeyScan
