/-!
Sets of code points given as a rising list of ranges, ends included.
-/

namespace MonkeyScan.Text

/-- Whether a rising list of ranges holds a number: the first range that does not end below it
decides. -/
def inRanges : List (Nat × Nat) → Nat → Bool
  | [], _ => false
  | (lo, hi) :: more, n => if n ≤ hi then lo ≤ n else inRanges more n

end MonkeyScan.Text
