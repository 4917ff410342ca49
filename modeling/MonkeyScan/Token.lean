import MonkeyScan.Position

/-!
The tokens of the language: their kinds, the two words and the symbols that have a kind of their
own, and a token itself, which keeps the characters it was read from. A kind can be found again
from its name.
-/

namespace MonkeyScan

/-- The kinds of token; `illegal` is for a character that begins no lexeme. -/
inductive TokenKind where
  | illegal
  | eof
  | identifier
  | integer
  | assign
  | plus
  | minus
  | bang
  | asterisk
  | slash
  | lt
  | gt
  | eq
  | notEq
  | comma
  | semicolon
  | lparen
  | rparen
  | lbrace
  | rbrace
  | functionWord
  | letWord
deriving DecidableEq

namespace TokenKind

/-- All kinds, in the order of their numbers. -/
def all : List TokenKind :=
  [illegal, eof, identifier, integer, assign, plus, minus, bang, asterisk, slash, lt, gt, eq,
    notEq, comma, semicolon, lparen, rparen, lbrace, rbrace, functionWord, letWord]

/-- The name that output and input use for a kind. -/
def name : TokenKind → String
  | illegal => "ILLEGAL"
  | eof => "EOF"
  | identifier => "IDENTIFIER"
  | integer => "INTEGER"
  | assign => "ASSIGN"
  | plus => "PLUS"
  | minus => "MINUS"
  | bang => "BANG"
  | asterisk => "ASTERISK"
  | slash => "SLASH"
  | lt => "LT"
  | gt => "GT"
  | eq => "EQ"
  | notEq => "NOT_EQ"
  | comma => "COMMA"
  | semicolon => "SEMICOLON"
  | lparen => "LPAREN"
  | rparen => "RPAREN"
  | lbrace => "LBRACE"
  | rbrace => "RBRACE"
  | functionWord => "FUNCTION"
  | letWord => "LET"

/-- The number of a kind, counted from one. -/
def number (k : TokenKind) : Nat := all.idxOf k + 1

/-- The kind of a name. -/
def ofName? (s : String) : Option TokenKind := all.find? (·.name == s)

theorem mem_all (k : TokenKind) : k ∈ all := by cases k <;> decide

theorem ofName?_name (k : TokenKind) : ofName? k.name = some k := by cases k <;> decide

theorem name_inj {j k : TokenKind} (h : j.name = k.name) : j = k := by
  have := ofName?_name j
  rw [h, ofName?_name] at this
  exact (Option.some.inj this).symm

/-- The words with a kind of their own, sorted. -/
def keywords : List (String × TokenKind) := [("fn", functionWord), ("let", letWord)]

/-- The kind of a word: a keyword in exactly its own letters, else an identifier. -/
def ofWord (w : String) : TokenKind := (keywords.lookup w).getD identifier

/-- The operators and delimiters of one character. -/
def symbols : List (Char × TokenKind) :=
  [('=', assign), ('+', plus), ('-', minus), ('!', bang), ('*', asterisk), ('/', slash),
    ('<', lt), ('>', gt), (',', comma), (';', semicolon), ('(', lparen), (')', rparen),
    ('\x7b', lbrace), ('\x7d', rbrace)]

/-- The kind of a character that stands for itself: a symbol, or else illegal. -/
def ofSymbol (c : Char) : TokenKind := (symbols.lookup c).getD illegal

/-- The operators of two characters: the first character, and with it the second and the kind. -/
def pairs : List (Char × Char × TokenKind) := [('=', '=', eq), ('!', '=', notEq)]

/-- The kind of two characters that are one operator. -/
def ofPair? (first : Char) (second : Option Char) : Option TokenKind :=
  (pairs.lookup first).bind fun e => if second = some e.1 then some e.2 else none

theorem ofWord_eq (w : String) :
    ofWord w = if w = "fn" then functionWord else if w = "let" then letWord else identifier := by
  unfold ofWord keywords
  rw [List.lookup_cons, List.lookup_cons, List.lookup_nil]
  by_cases function : w = "fn"
  · simp [function]
  · by_cases binding : w = "let"
    · simp [binding]
    · simp [function, binding, beq_eq_false_iff_ne.2 function, beq_eq_false_iff_ne.2 binding]

/-- No character is listed twice. -/
theorem lookup_symbols_eq_some_iff {c : Char} {k : TokenKind} :
    symbols.lookup c = some k ↔ (c, k) ∈ symbols := by
  have distinct : ∀ e ∈ symbols, symbols.lookup e.1 = some e.2 := by decide
  constructor
  · intro found
    obtain ⟨l, r, split, -⟩ := List.lookup_eq_some_iff.1 found
    simp [split]
  · exact distinct (c, k)

theorem ofPair?_eq_some_iff {c : Char} {second : Option Char} {k : TokenKind} :
    ofPair? c second = some k ↔
      second = some '=' ∧ (c = '=' ∧ k = eq ∨ c = '!' ∧ k = notEq) := by
  by_cases assign : c = '='
  · subst assign
    simp [ofPair?, pairs, eq_comm]
  · by_cases bang : c = '!'
    · subst bang
      simp [ofPair?, pairs, List.lookup_cons, eq_comm]
    · have absent : pairs.lookup c = none := by
        simp [pairs, List.lookup_cons, beq_eq_false_iff_ne.2 assign, beq_eq_false_iff_ne.2 bang]
      simp [ofPair?, absent, assign, bang]

end TokenKind

/-- A token: its kind, the characters it was read from, and where they stand. -/
@[ext] structure Token where
  kind : TokenKind
  literal : String
  span : Span
deriving DecidableEq

namespace Token

/-- The token of the end of input: no characters, at one place. -/
def endAt (p : Position) : Token := ⟨.eof, "", ⟨p, p⟩⟩

end Token

end MonkeyScan
