import MonkeyScan.Number.Binary64

/-!
The shortest decimal text of a floating-point number: of all decimals that round to the number those
with the fewest digits, and of these the nearest; of two equally near the even one. How the digits
are laid out is a record of its own. The program itself writes no floating-point number: these texts
only show what a configuration file has been read as.
-/

namespace MonkeyScan.Number

namespace Binary64

/-- The interval of decimals that round to a significand times a power of two, in quarters of that
power: both ends, and whether they belong to it. Below a power of two the gap is half as wide. -/
structure Interval where
  lo : Nat
  hi : Nat
  closed : Bool

/-- The interval around a significand at an exponent. -/
def Interval.around (s : Nat) (q : Int) : Interval :=
  ⟨if s = 1 <<< 52 ∧ leastExponent < q then 4 * s - 1 else 4 * s - 2, 4 * s + 2, s % 2 = 0⟩

/-- One step of a decimal grid in quarters of a power of two, as a fraction. -/
def gridStep (q g : Int) : Nat × Nat :=
  ((if 0 ≤ g then Nat.pow 10 g.toNat else 1) <<< (2 - q).toNat,
    (if g < 0 then Nat.pow 10 (-g).toNat else 1) <<< (q - 2).toNat)

/-- Whether a number of grid steps lies in the interval. -/
def Interval.holds (i : Interval) (step : Nat × Nat) (n : Nat) : Bool :=
  if i.closed then i.lo * step.2 ≤ n * step.1 && n * step.1 ≤ i.hi * step.2
  else i.lo * step.2 < n * step.1 && n * step.1 < i.hi * step.2

/-- The point of a grid that rounds to the number, the nearer one where both neighbours do; of two
equally near the even one. -/
def onGrid? (s : Nat) (q g : Int) : Option Nat :=
  let step := gridStep q g
  let i := Interval.around s q
  let below := 4 * s * step.2 / step.1
  match i.holds step below, i.holds step (below + 1) with
  | true, true => some (roundDiv (4 * s * step.2) step.1)
  | true, false => some below
  | false, true => some (below + 1)
  | false, false => none

/-- The power of ten of the leading digit of a significand times a power of two. -/
def decade (s : Nat) (q : Int) : Int :=
  let scale : Nat := 400
  let n := (s * Nat.pow 10 scale) <<< q.toNat / 1 <<< (-q).toNat
  ((Text.digits n).length : Int) - 1 - scale

/-- The first hit on the grids of so many digits up to seventeen. -/
def firstHit (s : Nat) (q top : Int) : List Nat → Nat × Int
  | [] => (0, 0)
  | n :: more =>
    let g := top + 1 - n
    match onGrid? s q g with
    | some m => (m, g)
    | none => firstHit s q top more

/-- The digits of the shortest decimal, without zeros at the end, and the power of ten of the place
behind the last one. -/
def shortest (s : Nat) (q : Int) : List Char × Int :=
  let (m, g) := firstHit s q (decade s q) (List.range' 1 17)
  let ds := Text.digits m
  let kept := (ds.reverse.dropWhile (· = '0')).reverse
  (kept, g + (ds.length - kept.length : Nat))

end Binary64

/-- How decimal digits are laid out. -/
structure Layout where
  /-- The least power of ten of a leading digit that is written without an exponent. -/
  positionalFrom : Int
  /-- The first power of ten that is written with an exponent again. -/
  positionalBelow : Int
  /-- The least number of digits of an exponent. -/
  exponentWidth : Nat

namespace Layout

/-- Positional from ten thousandths up to below ten to the sixteenth, exponents with two digits. -/
def standard : Layout := ⟨-4, 16, 2⟩

/-- The text of digits whose last stands at a power of ten. A positional number always has a digit
on both sides of its point. -/
def text (l : Layout) (ds : List Char) (place : Int) : List Char :=
  let lead := place + ds.length - 1
  if l.positionalFrom ≤ lead ∧ lead < l.positionalBelow then
    if lead < 0 then ['0', '.'] ++ List.replicate (-lead - 1).toNat '0' ++ ds
    else if place < 0 then ds.take (lead + 1).toNat ++ ['.'] ++ ds.drop (lead + 1).toNat
    else ds ++ List.replicate place.toNat '0' ++ ['.', '0']
  else
    ds.take 1 ++ (if ds.length ≤ 1 then [] else '.' :: ds.drop 1) ++
      ['e', if lead < 0 then '-' else '+'] ++ Text.padded l.exponentWidth lead.natAbs

end Layout

/-- The text of a floating-point number. -/
def Binary64.text (l : Layout) : Binary64 → String
  | .finite negative s q =>
    let magnitude :=
      if s = 0 then ['0', '.', '0'] else l.text (Binary64.shortest s q).1 (Binary64.shortest s q).2
    String.ofList ((if negative then ['-'] else []) ++ magnitude)
  | .infinite negative => if negative then "-inf" else "inf"
  | .notANumber => "nan"

end MonkeyScan.Number
