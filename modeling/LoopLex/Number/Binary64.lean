/-
**Binary64 numbers**: the floating-point numbers with 53 significant bits.

Every finite one is a whole multiple of the least positive one, `2 ^ -1074`, and is held as such: a
significand times a power of two of these units. A ratio of natural numbers is rounded in exact
arithmetic.

* `roundQuotient` — the nearest natural number to a quotient, a tie going to the even neighbour;
* `Binary64.ofRatio` — the nearest number to a ratio, a tie going to the even significand;
* `Binary64.scaled?` — the exact value of a finite number, in units of `2 ^ -1074`.
-/

namespace LoopLex

/-- The natural number nearest to `num / den`; of two equally near ones the even one. -/
def roundQuotient (num den : Nat) : Nat :=
  if 2 * (num % den) < den then num / den
  else if den < 2 * (num % den) then num / den + 1
  else num / den + num / den % 2

/-- A floating-point number with 53 significant bits. -/
inductive Binary64 where
  /-- The result that is no number. -/
  | nan
  /-- An infinity. -/
  | infinite (negative : Bool)
  /-- The number `significand * 2 ^ unit`, in units of `2 ^ -1074` and with a sign. -/
  | finite (negative : Bool) (significand unit : Nat)
deriving DecidableEq, Repr

namespace Binary64

/-- The number of units in one, `2 ^ 1074`. -/
def unitsInOne : Nat := Nat.pow 2 1074

/-- The greatest power of two that a significand is multiplied with. -/
def lastUnit : Nat := 2045

/-- The power of two in whose multiples a ratio is counted, so that at most 53 bits are left of the
dot. -/
def unitOf (num den : Nat) : Nat := (num * unitsInOne / den).log2 - 52

/-- The number with a significand of at most `2 ^ 53`. It is infinite beyond the last unit. -/
def ofSignificand (significand unit : Nat) : Binary64 :=
  let carried :=
    if significand = Nat.pow 2 53 then (Nat.pow 2 52, unit + 1) else (significand, unit)
  if lastUnit < carried.2 then infinite false else finite false carried.1 carried.2

/-- The number nearest to `num / den`; of two equally near ones that with the even significand. -/
def ofRatio (num den : Nat) : Binary64 :=
  let unit := unitOf num den
  ofSignificand (roundQuotient (num * unitsInOne) (den * Nat.pow 2 unit)) unit

/-- The number with the other sign. -/
def negate : Binary64 → Binary64
  | nan => nan
  | infinite negative => infinite !negative
  | finite negative significand unit => finite (!negative) significand unit

/-- The number `significand * 2 ^ unit` of units of `2 ^ -1074`. -/
def magnitude (significand unit : Nat) : Nat := significand * Nat.pow 2 unit

/-- The value of a finite number in units of `2 ^ -1074`. -/
def scaled? : Binary64 → Option Int
  | finite false significand unit => some (magnitude significand unit)
  | finite true significand unit => some (-magnitude significand unit)
  | _ => none

end Binary64

/-- A quotient is rounded down or up. -/
theorem roundQuotient_eq_or (num den : Nat) :
    roundQuotient num den = num / den ∨ roundQuotient num den = num / den + 1 := by
  unfold roundQuotient
  split
  · exact .inl rfl
  · split
    · exact .inr rfl
    · rcases Nat.mod_two_eq_zero_or_one (num / den) with even | odd
      · exact .inl (by rw [even, Nat.add_zero])
      · exact .inr (by rw [odd])

/-- A whole quotient is left as it is. -/
theorem roundQuotient_mul (n : Nat) {den : Nat} (positive : 0 < den) :
    roundQuotient (n * den) den = n := by
  simp [roundQuotient, positive]

end LoopLex
