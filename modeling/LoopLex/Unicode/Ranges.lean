/-
**Sets of code points as ranges.**

A property of characters is a list of closed ranges, ascending and apart, so that a look-up stops at
the first range beyond the code point.
-/

namespace LoopLex.Unicode

/-- Whether `n` lies in one of the closed ranges, which ascend. -/
def inRanges : List (Nat × Nat) → Nat → Bool
  | [], _ => false
  | (low, high) :: ranges, n => if n < low then false else n ≤ high || inRanges ranges n

end LoopLex.Unicode
