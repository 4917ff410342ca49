import Mathlib
import MonkeyScan.Alphabet

/-!
The grammar of lexemes. `IsLexeme` says which characters are a lexeme of which kind, `Maximal` when
a lexeme is not cut off before its end, and `lexeme` finds the lexeme at the head of a text. The
main statements: what `lexeme` finds is a maximal lexeme at the head (`lexeme_spec`), and there is
no other (`lexeme_eq`).
-/

namespace MonkeyScan.Grammar

open Alphabet

/-- The lexemes of each kind. -/
inductive IsLexeme : TokenKind → List Char → Prop
  | letWord : IsLexeme .letWord ['l', 'e', 't']
  | functionWord : IsLexeme .functionWord ['f', 'n']
  | identifier {w : List Char} : w ≠ [] → (∀ c ∈ w, isLetter c = true) →
      w ≠ ['l', 'e', 't'] → w ≠ ['f', 'n'] → IsLexeme .identifier w
  | integer {w : List Char} : w ≠ [] → (∀ c ∈ w, isDigit c = true) → IsLexeme .integer w
  | eq : IsLexeme .eq ['=', '=']
  | notEq : IsLexeme .notEq ['!', '=']
  | assign : IsLexeme .assign ['=']
  | plus : IsLexeme .plus ['+']
  | minus : IsLexeme .minus ['-']
  | bang : IsLexeme .bang ['!']
  | asterisk : IsLexeme .asterisk ['*']
  | slash : IsLexeme .slash ['/']
  | lt : IsLexeme .lt ['<']
  | gt : IsLexeme .gt ['>']
  | comma : IsLexeme .comma [',']
  | semicolon : IsLexeme .semicolon [';']
  | lparen : IsLexeme .lparen ['(']
  | rparen : IsLexeme .rparen [')']
  | lbrace : IsLexeme .lbrace ['\x7b']
  | rbrace : IsLexeme .rbrace ['\x7d']
  | illegal {c : Char} : isIllegal c = true → IsLexeme .illegal [c]

/-- A lexeme is not cut off: no letter follows a word, no digit follows a number, and no equals sign
follows an equals sign or an exclamation mark alone. -/
structure Maximal (l rest : List Char) : Prop where
  word : (∀ c ∈ l, isLetter c = true) → ∀ c ∈ rest.head?, isLetter c = false
  number : (∀ c ∈ l, isDigit c = true) → ∀ c ∈ rest.head?, isDigit c = false
  sign : l = ['='] ∨ l = ['!'] → rest.head? ≠ some '='

/-- The lexeme at the head of a text, `ch` and what follows it, with its kind. -/
def lexeme (ch : Char) (rest : List Char) : TokenKind × List Char :=
  if isLetter ch then
    (.ofWord (String.ofList (ch :: rest.takeWhile isLetter)), ch :: rest.takeWhile isLetter)
  else if isDigit ch then (.integer, ch :: rest.takeWhile isDigit)
  else match TokenKind.ofPair? ch rest.head? with
    | some kind => (kind, [ch, '='])
    | none => (.ofSymbol ch, [ch])

theorem lexeme_of_isLetter {ch : Char} (h : isLetter ch = true) (rest : List Char) :
    lexeme ch rest =
      (.ofWord (String.ofList (ch :: rest.takeWhile isLetter)), ch :: rest.takeWhile isLetter) :=
  if_pos h

theorem lexeme_of_isDigit {ch : Char} (h : isDigit ch = true) (rest : List Char) :
    lexeme ch rest = (.integer, ch :: rest.takeWhile isDigit) := by
  rw [lexeme, if_neg (by simp [not_isLetter_of_isDigit h]), if_pos h]

theorem lexeme_of_pair {ch : Char} {rest : List Char} {k : TokenKind}
    (letter : isLetter ch = false) (digit : isDigit ch = false)
    (pair : TokenKind.ofPair? ch rest.head? = some k) : lexeme ch rest = (k, [ch, '=']) := by
  rw [lexeme, if_neg (by simp [letter]), if_neg (by simp [digit]), pair]

theorem lexeme_of_single {ch : Char} {rest : List Char}
    (letter : isLetter ch = false) (digit : isDigit ch = false)
    (pair : TokenKind.ofPair? ch rest.head? = none) : lexeme ch rest = (.ofSymbol ch, [ch]) := by
  rw [lexeme, if_neg (by simp [letter]), if_neg (by simp [digit]), pair]

/-! ## Runs -/

theorem head?_dropWhile_eq_false {p : Char → Bool} {cs : List Char} :
    ∀ c ∈ (cs.dropWhile p).head?, p c = false := by
  intro c found
  have := List.head?_dropWhile_not p cs
  rw [Option.mem_def.1 found] at this
  simpa using this

theorem takeWhile_append_of_stop {p : Char → Bool} {l rest : List Char}
    (inside : ∀ c ∈ l, p c = true) (stop : ∀ c ∈ rest.head?, p c = false) :
    (l ++ rest).takeWhile p = l := by
  have none : rest.takeWhile p = [] := by
    cases rest with
    | nil => rfl
    | cons c rest => rw [List.takeWhile_cons_of_neg (by simp [stop c rfl])]
  rw [List.takeWhile_append_of_pos inside, none, List.append_nil]

/-! ## What a lexeme is made of -/

theorem IsLexeme.ne_nil {k : TokenKind} {l : List Char} (h : IsLexeme k l) : l ≠ [] := by
  cases h with
  | identifier nonempty => exact nonempty
  | integer nonempty => exact nonempty
  | _ => exact List.cons_ne_nil _ _

theorem IsLexeme.kind_ne_eof {k : TokenKind} {l : List Char} (h : IsLexeme k l) : k ≠ .eof := by
  cases h <;> exact TokenKind.noConfusion

/-- No lexeme holds a blank. -/
theorem IsLexeme.not_isBlank {k : TokenKind} {l : List Char} (h : IsLexeme k l) :
    ∀ c ∈ l, isBlank c = false := by
  cases h with
  | identifier _ letters => exact fun c mem => not_isBlank_of_isLetter (letters c mem)
  | integer _ digits => exact fun c mem => not_isBlank_of_isDigit (digits c mem)
  | illegal outside => simpa using ((isIllegal_iff _).1 outside).2.2.1
  | _ => simp [isBlank, blanks]

theorem IsLexeme.lineFeed_not_mem {k : TokenKind} {l : List Char} (h : IsLexeme k l) :
    '\n' ∉ l := by
  intro mem
  have := h.not_isBlank _ mem
  exact absurd this (by decide)

theorem ofWord_of_ne {w : List Char} (notLet : w ≠ ['l', 'e', 't']) (notFunction : w ≠ ['f', 'n']) :
    TokenKind.ofWord (String.ofList w) = .identifier := by
  have ne {v : List Char} (h : w ≠ v) : String.ofList w ≠ String.ofList v :=
    fun same => h (String.ofList_injective same)
  rw [TokenKind.ofWord_eq]
  exact (if_neg (ne notFunction)).trans (if_neg (ne notLet))

/-- A word is a lexeme of the kind that it is looked up to have. -/
theorem isLexeme_word {w : List Char} (nonempty : w ≠ [])
    (letters : ∀ c ∈ w, isLetter c = true) :
    IsLexeme (.ofWord (String.ofList w)) w := by
  by_cases function : w = ['f', 'n']
  · subst function
    exact .functionWord
  · by_cases binding : w = ['l', 'e', 't']
    · subst binding
      exact .letWord
    · rw [ofWord_of_ne binding function]
      exact .identifier nonempty letters binding function

theorem isLexeme_symbol {c : Char} {k : TokenKind} (h : (c, k) ∈ TokenKind.symbols) :
    IsLexeme k [c] := by
  simp only [TokenKind.symbols, List.mem_cons, Prod.mk.injEq, List.not_mem_nil, or_false] at h
  rcases h with ⟨rfl, rfl⟩ | ⟨rfl, rfl⟩ | ⟨rfl, rfl⟩ | ⟨rfl, rfl⟩ | ⟨rfl, rfl⟩ | ⟨rfl, rfl⟩ |
    ⟨rfl, rfl⟩ | ⟨rfl, rfl⟩ | ⟨rfl, rfl⟩ | ⟨rfl, rfl⟩ | ⟨rfl, rfl⟩ | ⟨rfl, rfl⟩ | ⟨rfl, rfl⟩ |
    ⟨rfl, rfl⟩
  all_goals constructor

/-- A character that is no letter, digit or blank is a lexeme alone. -/
theorem isLexeme_single {c : Char} (letter : isLetter c = false) (digit : isDigit c = false)
    (blank : isBlank c = false) : IsLexeme (.ofSymbol c) [c] := by
  cases found : TokenKind.symbols.lookup c with
  | none =>
    rw [TokenKind.ofSymbol, found]
    exact .illegal ((isIllegal_iff c).2 ⟨letter, digit, blank, by rw [isSymbol, found]; rfl⟩)
  | some k =>
    rw [TokenKind.ofSymbol, found]
    exact isLexeme_symbol (TokenKind.lookup_symbols_eq_some_iff.1 found)

/-! ## Lexemes that are not cut off -/

/-- No lexeme is a word and a number. -/
theorem not_letters_and_digits {l : List Char} (nonempty : l ≠ [])
    (letters : ∀ c ∈ l, isLetter c = true) (digits : ∀ c ∈ l, isDigit c = true) : False := by
  obtain ⟨c, mem⟩ := List.exists_mem_of_ne_nil l nonempty
  have := not_isLetter_of_isDigit (digits c mem)
  rw [letters c mem] at this
  exact Bool.noConfusion this

theorem maximal_of_letters {l rest : List Char} (nonempty : l ≠ [])
    (letters : ∀ c ∈ l, isLetter c = true) (stop : ∀ c ∈ rest.head?, isLetter c = false) :
    Maximal l rest where
  word _ := stop
  number digits := absurd digits (not_letters_and_digits nonempty letters)
  sign alone := by
    rcases alone with rfl | rfl
    · exact absurd (letters '=' (by simp)) (by decide)
    · exact absurd (letters '!' (by simp)) (by decide)

theorem maximal_of_digits {l rest : List Char} (nonempty : l ≠ [])
    (digits : ∀ c ∈ l, isDigit c = true) (stop : ∀ c ∈ rest.head?, isDigit c = false) :
    Maximal l rest where
  word letters := absurd digits (not_letters_and_digits nonempty letters)
  number _ := stop
  sign alone := by
    rcases alone with rfl | rfl
    · exact absurd (digits '=' (by simp)) (by decide)
    · exact absurd (digits '!' (by simp)) (by decide)

theorem maximal_of_sign {c : Char} {l rest : List Char} (letter : isLetter c = false)
    (digit : isDigit c = false) (sign : c :: l = ['='] ∨ c :: l = ['!'] → rest.head? ≠ some '=') :
    Maximal (c :: l) rest where
  word letters := by
    rw [letters c List.mem_cons_self] at letter
    exact absurd letter (by decide)
  number digits := by
    rw [digits c List.mem_cons_self] at digit
    exact absurd digit (by decide)
  sign := sign

/-- Where no operator of two characters stands, a sign alone is not cut off. -/
theorem maximal_single {c : Char} {rest : List Char} (letter : isLetter c = false)
    (digit : isDigit c = false) (pair : TokenKind.ofPair? c rest.head? = none) :
    Maximal [c] rest := by
  refine maximal_of_sign letter digit fun alone next => ?_
  have found : ∃ k, TokenKind.ofPair? c rest.head? = some k := by
    rcases alone with h | h
    · exact ⟨.eq, TokenKind.ofPair?_eq_some_iff.2 ⟨next, .inl ⟨(List.cons.inj h).1, rfl⟩⟩⟩
    · exact ⟨.notEq, TokenKind.ofPair?_eq_some_iff.2 ⟨next, .inr ⟨(List.cons.inj h).1, rfl⟩⟩⟩
  obtain ⟨k, found⟩ := found
  rw [pair] at found
  exact absurd found (by simp)

/-- A sign that is not cut off is no operator of two characters. -/
theorem Maximal.ofPair?_eq_none {c : Char} {rest : List Char} (h : Maximal [c] rest) :
    TokenKind.ofPair? c rest.head? = none := by
  cases found : TokenKind.ofPair? c rest.head? with
  | none => rfl
  | some k =>
    obtain ⟨next, first⟩ := TokenKind.ofPair?_eq_some_iff.1 found
    refine absurd next (h.sign ?_)
    rcases first with ⟨rfl, -⟩ | ⟨rfl, -⟩
    · exact .inl rfl
    · exact .inr rfl

/-! ## The lexeme at the head of a text -/

/-- What is found is a lexeme at the head of the text, and it is not cut off. -/
theorem lexeme_spec {ch : Char} (blank : isBlank ch = false) (rest : List Char) :
    IsLexeme (lexeme ch rest).1 (lexeme ch rest).2 ∧
      ∃ more, ch :: rest = (lexeme ch rest).2 ++ more ∧ Maximal (lexeme ch rest).2 more := by
  have run {p : Char → Bool} (h : p ch = true) : ∀ c ∈ ch :: rest.takeWhile p, p c = true := by
    intro c mem
    rcases List.mem_cons.1 mem with rfl | mem
    · exact h
    · exact List.all_eq_true.1 List.all_takeWhile c mem
  by_cases letter : isLetter ch = true
  · rw [lexeme_of_isLetter letter]
    refine ⟨isLexeme_word (List.cons_ne_nil _ _) (run letter), rest.dropWhile isLetter, ?_, ?_⟩
    · rw [List.cons_append, List.takeWhile_append_dropWhile]
    · exact maximal_of_letters (List.cons_ne_nil _ _) (run letter) head?_dropWhile_eq_false
  · rw [Bool.not_eq_true] at letter
    by_cases digit : isDigit ch = true
    · rw [lexeme_of_isDigit digit]
      refine ⟨.integer (List.cons_ne_nil _ _) (run digit), rest.dropWhile isDigit, ?_, ?_⟩
      · rw [List.cons_append, List.takeWhile_append_dropWhile]
      · exact maximal_of_digits (List.cons_ne_nil _ _) (run digit) head?_dropWhile_eq_false
    · rw [Bool.not_eq_true] at digit
      cases pair : TokenKind.ofPair? ch rest.head? with
      | none =>
        rw [lexeme_of_single letter digit pair]
        exact ⟨isLexeme_single letter digit blank, rest, rfl, maximal_single letter digit pair⟩
      | some k =>
        rw [lexeme_of_pair letter digit pair]
        obtain ⟨next, first⟩ := TokenKind.ofPair?_eq_some_iff.1 pair
        obtain ⟨more, rfl⟩ := List.head?_eq_some_iff.1 next
        refine ⟨?_, more, rfl, maximal_of_sign letter digit (by simp)⟩
        rcases first with ⟨rfl, rfl⟩ | ⟨rfl, rfl⟩
        · exact .eq
        · exact .notEq

theorem lexeme_word {ch : Char} {l rest : List Char}
    (letters : ∀ c ∈ ch :: l, isLetter c = true) (h : Maximal (ch :: l) rest) :
    lexeme ch (l ++ rest) = (.ofWord (String.ofList (ch :: l)), ch :: l) := by
  have tail : ∀ c ∈ l, isLetter c = true := fun c mem => letters c (List.mem_cons_of_mem _ mem)
  rw [lexeme_of_isLetter (letters ch List.mem_cons_self),
    takeWhile_append_of_stop tail (h.word letters)]

/-- A lexeme that is not cut off is the one that is found. -/
theorem lexeme_eq {k : TokenKind} {ch : Char} {l rest : List Char} (h : IsLexeme k (ch :: l))
    (maximal : Maximal (ch :: l) rest) : lexeme ch (l ++ rest) = (k, ch :: l) := by
  cases h with
  | letWord => exact lexeme_word (by simp [isLetter]) maximal
  | functionWord => exact lexeme_word (by simp [isLetter]) maximal
  | identifier _ letters notLet notFunction =>
    rw [lexeme_word letters maximal, ofWord_of_ne notLet notFunction]
  | integer _ digits =>
    have tail : ∀ c ∈ l, isDigit c = true := fun c mem => digits c (List.mem_cons_of_mem _ mem)
    rw [lexeme_of_isDigit (digits ch List.mem_cons_self),
      takeWhile_append_of_stop tail (maximal.number digits)]
  | eq => exact lexeme_of_pair (by decide) (by decide) rfl
  | notEq => exact lexeme_of_pair (by decide) (by decide) rfl
  | illegal outside =>
    obtain ⟨letter, digit, -, symbol⟩ := (isIllegal_iff ch).1 outside
    have absent : TokenKind.symbols.lookup ch = none := by simpa [isSymbol] using symbol
    rw [List.nil_append, lexeme_of_single letter digit maximal.ofPair?_eq_none,
      TokenKind.ofSymbol, absent]
    rfl
  | _ => exact lexeme_of_single (by decide) (by decide) maximal.ofPair?_eq_none

/-! ## A lexeme behind blanks -/

theorem drop_of_lexeme {text gap l more : List Char} {p : Nat}
    (split : text.drop p = gap ++ (l ++ more)) : text.drop (p + gap.length + l.length) = more := by
  rw [← List.drop_drop, ← List.drop_drop, split, List.drop_left, List.drop_left]

/-- A lexeme takes characters, and ends within the text. -/
theorem length_of_lexeme {text gap l more : List Char} {p : Nat} {k : TokenKind}
    (split : text.drop p = gap ++ (l ++ more)) (lexeme : IsLexeme k l) :
    0 < l.length ∧ p + gap.length + l.length ≤ text.length := by
  have taken := List.length_pos_iff.2 lexeme.ne_nil
  have total := congrArg List.length split
  rw [List.length_drop, List.length_append, List.length_append] at total
  omega

end MonkeyScan.Grammar
