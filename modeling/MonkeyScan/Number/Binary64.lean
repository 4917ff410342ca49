import MonkeyScan.Text.Decimal

/-!
Floating-point numbers of sixty-four bits: a significand of at most fifty-three bits times a power
of two, the two infinities, and the value that is not a number. A fraction is rounded to the
nearest one, a tie to the even significand.
-/

namespace MonkeyScan.Number

/-- A number of the binary64 format. -/
inductive Binary64 where
  /-- The significand times two to the exponent, with a sign that zero has too. -/
  | finite (negative : Bool) (significand : Nat) (exponent : Int)
  | infinite (negative : Bool)
  | notANumber
deriving DecidableEq

namespace Binary64

/-- The least exponent of a finite number. -/
def leastExponent : Int := -1074

/-- The greatest exponent of a finite number. -/
def greatestExponent : Int := 971

/-- The quotient rounded to the nearest natural number, a tie to the even one. -/
def roundDiv (num den : Nat) : Nat :=
  if 2 * (num % den) < den ∨ (2 * (num % den) = den ∧ num / den % 2 = 0) then num / den
  else num / den + 1

/-- A fraction divided by a power of two. -/
def unscale (num den : Nat) (q : Int) : Nat × Nat :=
  if 0 ≤ q then (num, den <<< q.toNat) else (num <<< (-q).toNat, den)

/-- The number nearest to a fraction. The exponent is the one at which the quotient has fifty-three
bits, or the least one. -/
def ofFraction (negative : Bool) (num den : Nat) : Binary64 :=
  if num = 0 then .finite negative 0 leastExponent
  else
    let guess : Int := (num.log2 : Int) - den.log2 - 53
    let wide := let (n, d) := unscale num den guess; 1 <<< 53 ≤ n / d
    let q := max (if wide then guess + 1 else guess) leastExponent
    let s := let (n, d) := unscale num den q; roundDiv n d
    let (s, q) := if s = 1 <<< 53 then (1 <<< 52, q + 1) else (s, q)
    if greatestExponent < q then .infinite negative else .finite negative s q

/-- The number nearest to a natural number times a power of ten. Far outside the range of the
format the fraction is not built. -/
def ofDecimal (negative : Bool) (n : Nat) (exponent : Int) : Binary64 :=
  let magnitude : Int := (Text.digits n).length + exponent
  if n = 0 ∨ magnitude < -330 then .finite negative 0 leastExponent
  else if 310 < magnitude then .infinite negative
  else if 0 ≤ exponent then ofFraction negative (n * Nat.pow 10 exponent.toNat) 1
  else ofFraction negative n (Nat.pow 10 (-exponent).toNat)

/-- The number nearest to a natural number times a power of two. -/
def ofScaled (negative : Bool) (n : Nat) (q : Int) : Binary64 :=
  if 0 ≤ q then ofFraction negative (n <<< q.toNat) 1
  else ofFraction negative n (1 <<< (-q).toNat)

/-- The product with a natural number, rounded. -/
def mulNat : Binary64 → Nat → Binary64
  | finite negative s q, n => ofScaled negative (s * n) q
  | infinite negative, n => if n = 0 then notANumber else infinite negative
  | notANumber, _ => notANumber

/-- The sum with an integer, rounded. -/
def addInt : Binary64 → Int → Binary64
  | finite negative s q, n =>
    let place := min q 0
    let signed : Int := if negative then -s else s
    let sum := signed * (1 <<< (q - place).toNat : Nat) + n * (1 <<< (-place).toNat : Nat)
    ofScaled (sum < 0) sum.natAbs place
  | x, _ => x

end Binary64

end MonkeyScan.Number
