/-!
Places in a text, and stretches of it from one place to another. Lines and columns are integers, so
that a place can also be given from outside, in or out of a text.
-/

namespace MonkeyScan

/-- A place in a text: line and column count from one, the offset from zero, all in characters. -/
@[ext] structure Position where
  line : Int
  column : Int
  offset : Int
deriving DecidableEq

/-- The numbers of a place. -/
def Position.numbers (p : Position) : List Int := [p.line, p.column, p.offset]

/-- The stretch of text from a first place up to, and without, a last one. -/
@[ext] structure Span where
  start : Position
  stop : Position
deriving DecidableEq

/-- The numbers of both places. -/
def Span.numbers (s : Span) : List Int := s.start.numbers ++ s.stop.numbers

end MonkeyScan
