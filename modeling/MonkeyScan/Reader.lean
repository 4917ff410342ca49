import MonkeyScan.Cursor

/-!
A reader: one cursor that requests of several kinds share. A request may take a token, take what
is left up to the end of input, or move the cursor by hand. One iteration over the tokens is open
from the start; it is over once it has itself handed out the end of input, whoever else did so
before.
-/

namespace MonkeyScan

/-- A shared cursor, and whether the open iteration is over. -/
structure Reader where
  cursor : Cursor
  iterationOver : Bool
deriving DecidableEq

/-- What can be asked of a reader. -/
inductive Request where
  /-- The next token. -/
  | next
  /-- The next token of the open iteration. -/
  | iterate
  /-- All tokens up to and with the end of input. -/
  | drain
  /-- One step of the cursor. -/
  | advance
  /-- The character that the next step makes current. -/
  | peek
  /-- The place of the cursor. -/
  | place
  /-- Steps over blanks. -/
  | skipBlanks
  /-- The run of letters under the cursor. -/
  | word
  /-- The run of digits under the cursor. -/
  | number
deriving DecidableEq

/-- What a reader answers. -/
inductive Reply where
  | nothing
  | token (t : Token)
  | tokens (ts : List Token)
  | text (s : String)
  | place (p : Position)
deriving DecidableEq

namespace Reader

/-- The reader of a text. -/
def start (text : String) : Reader := ⟨.start text.toList, false⟩

/-- The text of at most one character. -/
def characterText (c : Option Char) : String := String.ofList c.toList

/-- One request. -/
def answer (r : Reader) : Request → Reply × Reader
  | .next => (.token r.cursor.next.1, ⟨r.cursor.next.2, r.iterationOver⟩)
  | .iterate =>
    if r.iterationOver then (.nothing, r)
    else (.token r.cursor.next.1, ⟨r.cursor.next.2, r.cursor.next.1.kind == .eof⟩)
  | .drain => (.tokens r.cursor.drain.1, ⟨r.cursor.drain.2, r.iterationOver⟩)
  | .advance => (.nothing, ⟨r.cursor.advance, r.iterationOver⟩)
  | .peek => (.text (characterText r.cursor.peek?), r)
  | .place => (.place r.cursor.place, r)
  | .skipBlanks => (.nothing, ⟨r.cursor.skipBlanks, r.iterationOver⟩)
  | .word => (.text r.cursor.word.1, ⟨r.cursor.word.2, r.iterationOver⟩)
  | .number => (.text r.cursor.number.1, ⟨r.cursor.number.2, r.iterationOver⟩)

/-- The replies to a row of requests, each with the reader it leaves behind. -/
def answers (r : Reader) : List Request → List (Reply × Reader)
  | [] => []
  | q :: qs => r.answer q :: (r.answer q).2.answers qs

/-- The reader that a row of requests leaves behind. -/
def afterAll (r : Reader) (qs : List Request) : Reader := qs.foldl (fun r q => (r.answer q).2) r

@[simp] theorem afterAll_nil (r : Reader) : r.afterAll [] = r := rfl

@[simp] theorem afterAll_cons (r : Reader) (q : Request) (qs : List Request) :
    r.afterAll (q :: qs) = (r.answer q).2.afterAll qs := rfl

end Reader

end MonkeyScan
