/-
**Decimal numbers**, and the shortest of them that stands for a given binary one.

A decimal number stands for the binary number nearest to it, so many decimals stand for the same
binary number. The shortest one is looked for on grids of powers of ten, from the coarsest to the
finest. If any point of a grid stands for the number, so does one of the number's two neighbours on
that grid; the nearer neighbour is tried first.

* `Decimal.toBinary64` — the binary number that a decimal stands for;
* `Decimal.shortest` — the shortest decimal that stands for a binary number.
-/

import LoopLex.Number.Binary64

namespace LoopLex

/-- The number `digits * 10 ^ exponent`. -/
structure Decimal where
  digits : Nat
  exponent : Int
deriving DecidableEq, Repr

namespace Decimal

/-- The binary number that a decimal stands for. -/
def toBinary64 (decimal : Decimal) : Binary64 :=
  .ofRatio (decimal.digits * Nat.pow 10 decimal.exponent.toNat)
    (Nat.pow 10 (-decimal.exponent).toNat)

/-- The decimals next to `scaled * 2 ^ -1074` among the multiples of `10 ^ exponent`, the nearest
first. -/
def neighbours (scaled : Nat) (exponent : Int) : List Decimal :=
  let num := scaled * Nat.pow 10 (-exponent).toNat
  let den := Binary64.unitsInOne * Nat.pow 10 exponent.toNat
  [⟨roundQuotient num den, exponent⟩, ⟨num / den, exponent⟩, ⟨num / den + 1, exponent⟩]

/-- The exponents that are tried, from beyond the greatest number to the least unit, which every
number is a multiple of. -/
def exponents : List Int := (List.range 1384).map fun i : Nat => (309 : Int) - i

/-- The multiple of `10 ^ exponent` that stands for `significand * 2 ^ (unit - 1074)`, if there is
one, and of two the nearer. -/
def onGrid? (significand unit : Nat) (exponent : Int) : Option Decimal :=
  (neighbours (Binary64.magnitude significand unit) exponent).find? fun decimal =>
    decimal.toBinary64 = .finite false significand unit

/-- The decimal with the fewest digits that stands for `significand * 2 ^ (unit - 1074)`, and of
these the nearest to it. -/
def shortest (significand unit : Nat) : Decimal :=
  (exponents.findSome? (onGrid? significand unit)).getD ⟨0, 0⟩

end Decimal

end LoopLex
