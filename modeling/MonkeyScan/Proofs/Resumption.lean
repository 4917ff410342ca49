import MonkeyScan.Proofs.Concatenation

/-!
Going on from the middle of a text. What is still to come from a cursor are the tokens of the rest
of the text alone, with their places counted on from the place of the cursor (`tokens_onOffset`),
whether the cursor stands between two tokens, within one, or beyond the end of the text. How it came
there does not matter. Main statement: `drain_afterAll`.
-/

namespace MonkeyScan

open Alphabet

/-- A place of a text that itself starts at some place: lines and offsets are counted on from there,
and so are the columns of the first line. -/
def Position.countedFrom (origin p : Position) : Position where
  line := origin.line + p.line - 1
  column := if p.line = 1 then origin.column + p.column - 1 else p.column
  offset := origin.offset + p.offset

/-- A token of a text that starts at some place. -/
def Token.countedFrom (origin : Position) (t : Token) : Token :=
  ⟨t.kind, t.literal, ⟨origin.countedFrom t.span.start, origin.countedFrom t.span.stop⟩⟩

namespace Position

theorem countedFrom_origin (origin : Position) : origin.countedFrom ⟨1, 1, 0⟩ = origin := by
  ext
  case line => exact Int.add_sub_cancel _ _
  case column => exact Int.add_sub_cancel _ _
  case offset => exact Int.add_zero _

/-- What stands in front of a text moves its places to where the text starts. -/
theorem behind_take {text : List Char} {p : Nat} (h : p ≤ text.length) (q : Position) :
    q.behind (text.take p) = (ofOffset text p).countedFrom q := by
  have column := column_ofOffset h
  have length : (text.take p).length = p := List.length_take_of_le h
  unfold behind countedFrom
  rw [column, length]
  unfold ofOffset
  ext
  case line => dsimp only; omega
  case column =>
    dsimp only
    split
    · omega
    · rfl
  case offset => dsimp only; omega

end Position

theorem Token.behind_take {text : List Char} {p : Nat} (h : p ≤ text.length) (t : Token) :
    t.behind (text.take p) = t.countedFrom (.ofOffset text p) := by
  rw [behind, countedFrom, Position.behind_take h, Position.behind_take h]

namespace Cursor

/-- From an offset on, the tokens are those of the rest of the text, counted on from there. -/
theorem tokens_onOffset (text : List Char) (p : Nat) :
    (onOffset text p).tokens =
      (onOffset (text.drop p) 0).tokens.map (Token.countedFrom (.ofOffset text p)) := by
  by_cases inside : p ≤ text.length
  · have behind := tokens_append_right (text.take p) (text.drop p) 0
    have moved : Token.behind (text.take p) = Token.countedFrom (.ofOffset text p) :=
      funext (Token.behind_take inside)
    rw [List.take_append_drop, List.length_take_of_le inside, Nat.add_zero, moved] at behind
    exact behind
  · have past : text.drop p = [] := List.drop_eq_nil_of_le (by omega)
    have blanks : ∀ c ∈ text.drop p, isBlank c = true := by simp [past]
    rw [tokens_of_blanks blanks, past, tokens_of_blanks (by simp)]
    have ended := Position.countedFrom_origin (.ofOffset text p)
    simp [Token.endAt, Token.countedFrom, ended]

end Cursor

namespace Reader

open Cursor

/-- A reader takes what is left as if it stood alone. -/
theorem answer_drain {text : List Char} {p : Nat} {r : Reader} (here : r.cursor = onOffset text p) :
    (r.answer .drain).1 =
      .tokens ((scan (String.ofList (text.drop r.cursor.offset))).map
        (Token.countedFrom r.cursor.place)) := by
  change Reply.tokens r.cursor.tokens = _
  rw [here, tokens_onOffset, tokens_scan, String.toList_ofList, offset_onOffset, place_onOffset]

/-- After every row of requests, what is left is read as if it stood alone: the tokens up to the end
of input are those of the rest of the text, with their places counted on from the place that has
been reached. So two readers that have the same rest of a text in front of them, at the same place,
go on with the same tokens, whatever the texts are and whatever has been asked. -/
theorem drain_afterAll (text : String) (qs : List Request) :
    let r := (start text).afterAll qs
    let rest := text.toList.drop r.cursor.offset
    (r.answer .drain).1 =
        .tokens ((scan (String.ofList rest)).map (Token.countedFrom r.cursor.place)) ∧
      ∀ (text' : String) (qs' : List Request),
        let r' := (start text').afterAll qs'
        text'.toList.drop r'.cursor.offset = rest → r'.cursor.place = r.cursor.place →
          (r'.answer .drain).1 = (r.answer .drain).1 := by
  intro r rest
  obtain ⟨p, here⟩ := cursor_afterAll (cursor_start text) qs
  have drained := answer_drain here
  refine ⟨drained, ?_⟩
  intro text' qs' r' same place
  obtain ⟨p', here'⟩ := cursor_afterAll (cursor_start text') qs'
  rw [drained, answer_drain here', same, place]

/-- One reader stopped within an operator and another behind a word, both in front of the same
rest: a second equals sign that is now a token of its own. -/
theorem drain_within_operator :
    let r := (start "a ==1").afterAll [.next, .skipBlanks, .advance]
    let r' := (start "xyz=1").afterAll [.word]
    "xyz=1".toList.drop r'.cursor.offset = "a ==1".toList.drop r.cursor.offset ∧
      r'.cursor.place = r.cursor.place ∧
      (r.answer .drain).1 = .tokens
        [⟨.assign, "=", ⟨1, 4, 3⟩, ⟨1, 5, 4⟩⟩, ⟨.integer, "1", ⟨1, 5, 4⟩, ⟨1, 6, 5⟩⟩,
          ⟨.eof, "", ⟨1, 6, 5⟩, ⟨1, 6, 5⟩⟩] ∧
      (r'.answer .drain).1 = (r.answer .drain).1 := by
  intro r r'
  have same : "xyz=1".toList.drop r'.cursor.offset = "a ==1".toList.drop r.cursor.offset := by
    decide +kernel
  have place : r'.cursor.place = r.cursor.place := by decide +kernel
  obtain ⟨drained, alike⟩ := drain_afterAll "a ==1" [.next, .skipBlanks, .advance]
  refine ⟨same, place, ?_, alike "xyz=1" [.word] same place⟩
  rw [drained]
  decide +kernel

end Reader

end MonkeyScan
