/-
**Rounding to the nearest binary number.** Every rational number that is not negative rounds to
exactly one number, and a greater one never rounds to a smaller number.

The finite numbers are the `k * 2 ^ e` with at most 53 bits in `k` and with `e` from -1074 to 971. A
number is nearest to `q` if no other is nearer, and if one is as near, its own significand is even.
Beyond all of them lies infinity, and it begins half a step behind the greatest.

A ratio is counted in steps of which it has at least `2 ^ 52`, unless they are the least ones. So a
number that is no whole number of steps is below the ratio by more than the nearest whole number of
steps is off, and the latter is the nearest number.

* `isNearestEven_roundQuotient` — the nearest whole number to a quotient;
* `Binary64.RoundsTo` — a rational number rounds to a number;
* `roundsTo_ofRatio` — the number that a ratio is rounded to;
* `RoundsTo.unique`, `RoundsTo.atMost` and `RoundsTo.between` — rounding is a function, it keeps the
  order, and what rounds to a number has no gaps;
* `roundsTo_self` — a number rounds to itself.
-/

import LoopLex.Number.Binary64
import Mathlib.Algebra.Order.Field.Power
import Mathlib.Data.Rat.Cast.Order
import Mathlib.Tactic.FieldSimp
import Mathlib.Tactic.Linarith
import Mathlib.Tactic.NormNum
import Mathlib.Tactic.Positivity
import Mathlib.Tactic.Ring

namespace LoopLex

/-! ### The nearest whole number -/

/-- The whole number is the nearest to `x`, and even if it is not the only one. -/
structure IsNearestEven (x : ℚ) (n : ℕ) : Prop where
  distance : |x - n| ≤ 1 / 2
  tie : |x - n| = 1 / 2 → Even n

namespace IsNearestEven

variable {x : ℚ} {n : ℕ}

/-- A number in the first half behind a whole number, and in the middle if that one is even. -/
theorem floor {floor : ℕ} {rest : ℚ} (nonneg : 0 ≤ rest) (small : rest ≤ 1 / 2)
    (tie : rest = 1 / 2 → Even floor) : IsNearestEven (floor + rest) floor := by
  have error : |(floor + rest : ℚ) - floor| = rest := by
    rw [add_sub_cancel_left, abs_of_nonneg nonneg]
  exact ⟨by linarith, fun half => tie (by linarith)⟩

/-- A number in the second half behind a whole number, and in the middle if the next one is even. -/
theorem succ {floor : ℕ} {rest : ℚ} (large : 1 / 2 ≤ rest) (less : rest ≤ 1)
    (tie : rest = 1 / 2 → Even (floor + 1)) : IsNearestEven (floor + rest) (floor + 1) := by
  have error : |(floor + rest : ℚ) - (floor + 1 : ℕ)| = 1 - rest := by
    rw [Nat.cast_add, Nat.cast_one, add_sub_add_left_eq_sub, abs_sub_comm,
      abs_of_nonneg (by linarith)]
  exact ⟨by linarith, fun half => tie (by linarith)⟩

/-- Every other whole number is half a step away, or more. -/
theorem half_le (nearest : IsNearestEven x n) {z : ℕ} (other : z ≠ n) : 1 / 2 ≤ |x - z| := by
  have apart : (1 : ℚ) ≤ |(n : ℚ) - z| := by
    have whole : (1 : ℤ) ≤ |(n : ℤ) - z| := Int.one_le_abs (by omega)
    exact_mod_cast whole
  have triangle : |(n : ℚ) - z| ≤ |(n : ℚ) - x| + |x - z| := abs_sub_le _ _ _
  rw [abs_sub_comm (n : ℚ) x] at triangle
  have close := nearest.distance
  linarith

theorem le (nearest : IsNearestEven x n) (z : ℕ) : |x - n| ≤ |x - z| := by
  by_cases same : z = n
  · rw [same]
  · exact nearest.distance.trans (nearest.half_le same)

theorem even (nearest : IsNearestEven x n) {z : ℕ} (other : z ≠ n)
    (same : |x - z| = |x - n|) : Even n :=
  nearest.tie (le_antisymm nearest.distance (same ▸ nearest.half_le other))

/-- From half a step below an even bound on, the nearest number is not below the bound. At half a
step below, its two neighbours are as near, and the bound is the even one. -/
theorem lt_of_lt_even (nearest : IsNearestEven x n) {bound : ℕ} (even : Even bound)
    (below : n < bound) : x < bound - 1 / 2 := by
  have above : x - n ≤ 1 / 2 := (le_abs_self _).trans nearest.distance
  have last : (n : ℚ) + 1 ≤ bound := by exact_mod_cast below
  refine lt_of_le_of_ne (by linarith) fun equal => ?_
  have before : (n : ℚ) + 1 = bound := by linarith
  have half : x - n = 1 / 2 := by linarith
  have evenBefore : Even n := nearest.tie (by rw [half]; norm_num)
  have next : n + 1 = bound := by exact_mod_cast before
  exact Nat.not_even_iff_odd.mpr evenBefore.add_one (next ▸ even)

end IsNearestEven

/-- **A rounded quotient is the nearest whole number**, and even if it is not the only one. -/
theorem isNearestEven_roundQuotient (num : ℕ) {den : ℕ} (positive : 0 < den) :
    IsNearestEven (num / den : ℚ) (roundQuotient num den) := by
  have above : (0 : ℚ) < den := by exact_mod_cast positive
  have whole : (num : ℚ) = den * (num / den : ℕ) + (num % den : ℕ) := by
    exact_mod_cast (Nat.div_add_mod num den).symm
  have remainder : ((num % den : ℕ) : ℚ) < den := by exact_mod_cast Nat.mod_lt num positive
  obtain ⟨rest, isRest⟩ : ∃ rest : ℚ, rest = (num % den : ℕ) / den := ⟨_, rfl⟩
  have split : (num / den : ℚ) = (num / den : ℕ) + rest := by
    rw [isRest, whole]
    field_simp
  have nonneg : 0 ≤ rest := isRest ▸ by positivity
  have less : rest < 1 := by rwa [isRest, div_lt_one above]
  have twice : 2 * rest * den = (2 * (num % den) : ℕ) := by
    rw [isRest, mul_assoc, div_mul_cancel₀ _ above.ne']
    push_cast
    rfl
  have toHalf {a b : ℚ} (order : a * den < b * den) : a < b := lt_of_mul_lt_mul_right order above.le
  rw [split]
  unfold roundQuotient
  split_ifs with low high
  · have small : 2 * rest < 1 := toHalf (by rw [twice, one_mul]; exact_mod_cast low)
    exact .floor nonneg (by linarith) fun half => by linarith
  · have large : 1 < 2 * rest := toHalf (by rw [twice, one_mul]; exact_mod_cast high)
    exact .succ (by linarith) less.le fun half => by linarith
  · have half : 2 * rest = 1 := by
      have same : 2 * (num % den) = den := by omega
      rw [← mul_right_cancel_iff_of_pos above, twice, same, one_mul]
    rcases Nat.mod_two_eq_zero_or_one (num / den) with even | odd
    · rw [even, Nat.add_zero]
      exact .floor nonneg (by linarith) fun _ => Nat.even_iff.mpr even
    · rw [odd]
      exact .succ (by linarith) less.le fun _ => (Nat.odd_iff.mpr odd).add_one

namespace Binary64

/-! ### The finite numbers -/

/-- The weight of the last bit of a significand with that unit. -/
def step (unit : ℕ) : ℚ := 2 ^ ((unit : ℤ) - 1074)

/-- The numbers with a significand of at most 53 bits and an exponent in range. -/
def Representable (y : ℚ) : Prop :=
  ∃ (k : ℕ) (e : ℤ), k < 2 ^ 53 ∧ -1074 ≤ e ∧ e ≤ 971 ∧ y = k * 2 ^ e

/-- All bits of the significand are in use, or the unit is the least one. Every finite number is
written so in one way. -/
structure Canonical (significand unit : ℕ) : Prop where
  bits : significand < 2 ^ 53
  full : unit = 0 ∨ 2 ^ 52 ≤ significand
  range : unit ≤ lastUnit

/-- No number is nearer to `q`, and if one is as near, this one has the even significand. -/
structure Nearest (q : ℚ) (significand unit : ℕ) : Prop where
  canonical : Canonical significand unit
  le : ∀ y, Representable y → |q - significand * step unit| ≤ |q - y|
  even : ∀ y, Representable y → y ≠ significand * step unit →
    |q - y| = |q - significand * step unit| → Even significand

/-- **The number that `q` rounds to**: infinity from half a step behind the greatest finite number
on, and the nearest finite number before. -/
inductive RoundsTo (q : ℚ) : Binary64 → Prop where
  | infinite (beyond : 2 ^ 1024 - 2 ^ 970 ≤ q) : RoundsTo q (.infinite false)
  | finite {significand unit : ℕ} (within : q < 2 ^ 1024 - 2 ^ 970)
      (nearest : Nearest q significand unit) : RoundsTo q (.finite false significand unit)

theorem step_pos (unit : ℕ) : 0 < step unit := zpow_pos two_pos _

theorem step_add (unit more : ℕ) : step (unit + more) = 2 ^ more * step unit := by
  rw [step, step, ← zpow_natCast, ← zpow_add₀ two_ne_zero]
  congr 1
  push_cast
  ring

theorem step_succ (unit : ℕ) : step (unit + 1) = 2 * step unit := by
  rw [step_add, pow_one]

theorem step_le {first second : ℕ} (le : first ≤ second) : step first ≤ step second :=
  zpow_le_zpow_right₀ one_le_two (by omega)

/-- A step is a power of two of the units of `2 ^ -1074`. -/
theorem step_eq_div (unit : ℕ) : step unit = 2 ^ unit / unitsInOne := by
  have units : (unitsInOne : ℚ) = 2 ^ (1074 : ℤ) := Nat.cast_pow 2 1074
  rw [units, ← zpow_natCast, ← zpow_sub₀ two_ne_zero]
  rfl

theorem unitsInOne_pos : (0 : ℚ) < unitsInOne := by
  exact_mod_cast Nat.two_pow_pos 1074

/-- A number of steps is a number of the units of `2 ^ -1074`. -/
theorem magnitude_div_unitsInOne (significand unit : ℕ) :
    (magnitude significand unit / unitsInOne : ℚ) = significand * step unit := by
  rw [step_eq_div, magnitude, Nat.pow_eq, Nat.cast_mul, Nat.cast_pow, mul_div_assoc]
  rfl

theorem magnitude_eq_zero_iff {significand unit : ℕ} :
    magnitude significand unit = 0 ↔ significand = 0 := by
  have power : Nat.pow 2 unit ≠ 0 := (Nat.two_pow_pos unit).ne'
  rw [magnitude, Nat.mul_eq_zero, or_iff_left power]

/-- The greatest finite number and half a step. -/
theorem limit_eq : (2 : ℚ) ^ 1024 - 2 ^ 970 = (2 ^ 53 - 1 / 2) * step lastUnit := by
  have last : step lastUnit = 2 * 2 ^ 970 := by
    rw [← pow_succ']
    rfl
  have all : (2 : ℚ) ^ 1024 = 2 ^ 54 * 2 ^ 970 := pow_add 2 54 970
  rw [last, all]
  generalize (2 : ℚ) ^ 970 = half
  ring

theorem limit_le {q : ℚ} {unit : ℕ} (coarse : lastUnit ≤ unit)
    (enough : (2 ^ 53 - 1 / 2) * step unit ≤ q) : 2 ^ 1024 - 2 ^ 970 ≤ q := by
  rw [limit_eq]
  exact (mul_le_mul_of_nonneg_left (step_le coarse) (by norm_num)).trans enough

theorem lt_limit {q : ℚ} {unit : ℕ} (fine : unit ≤ lastUnit)
    (small : q < (2 ^ 53 - 1 / 2) * step unit) : q < 2 ^ 1024 - 2 ^ 970 := by
  rw [limit_eq]
  exact small.trans_le (mul_le_mul_of_nonneg_left (step_le fine) (by norm_num))

theorem representable_step {k unit : ℕ} (bits : k < 2 ^ 53) (range : unit ≤ lastUnit) :
    Representable (k * step unit) :=
  ⟨k, unit - 1074, bits, by omega, by unfold lastUnit at range; omega, rfl⟩

/-- Numbers are whole numbers of steps. -/
theorem Representable.exists_step {y : ℚ} (number : Representable y) :
    ∃ k unit : ℕ, k < 2 ^ 53 ∧ unit ≤ lastUnit ∧ y = k * step unit := by
  obtain ⟨k, e, bits, least, greatest, rfl⟩ := number
  refine ⟨k, (e + 1074).toNat, bits, by unfold lastUnit; omega, ?_⟩
  rw [step]
  congr 2
  omega

/-- A significand with a finer unit is below those with 53 bits. -/
theorem mul_step_lt {k other unit : ℕ} (bits : k < 2 ^ 53) (finer : other < unit) :
    k * step other < 2 ^ 52 * step unit := by
  have twice : 2 * step other ≤ step unit := step_succ other ▸ step_le finer
  have within : (k : ℚ) < 2 ^ 53 := by exact_mod_cast bits
  calc k * step other < 2 ^ 53 * step other := mul_lt_mul_of_pos_right within (step_pos other)
    _ = 2 ^ 52 * (2 * step other) := by ring
    _ ≤ 2 ^ 52 * step unit := mul_le_mul_of_nonneg_left twice (by norm_num)

/-- **A number is a whole number of steps, or below the significands with 53 bits.** -/
theorem Representable.exists_mul_or_lt {y : ℚ} (number : Representable y) (unit : ℕ) :
    (∃ z : ℕ, y = z * step unit) ∨ unit ≠ 0 ∧ y < 2 ^ 52 * step unit := by
  obtain ⟨k, other, bits, -, rfl⟩ := number.exists_step
  rcases Nat.lt_or_ge other unit with finer | coarser
  · exact .inr ⟨by omega, mul_step_lt bits finer⟩
  · obtain ⟨more, rfl⟩ := Nat.exists_eq_add_of_le coarser
    refine .inl ⟨k * 2 ^ more, ?_⟩
    rw [step_add]
    push_cast
    ring

/-! ### Rounding to a number of steps -/

variable {q : ℚ} {n unit : ℕ}

/-- Distances in steps are distances over the step. -/
theorem abs_sub_mul_step (q : ℚ) (n unit : ℕ) :
    |q - n * step unit| = |q / step unit - n| * step unit := by
  have positive := step_pos unit
  rw [← abs_of_pos positive, ← abs_mul, abs_of_pos positive, sub_mul,
    div_mul_cancel₀ _ positive.ne']

/-- **The nearest number of steps is the nearest number**, if the significand has all its bits or
the step is the least. A number off the steps lies farther away than the least significand with all
bits. -/
theorem nearest_of_isNearestEven (nearest : IsNearestEven (q / step unit) n)
    (full : unit = 0 ∨ 2 ^ 52 * step unit ≤ q) {y : ℚ} (number : Representable y) :
    |q - n * step unit| ≤ |q - y| ∧
      (y ≠ n * step unit → |q - y| = |q - n * step unit| → Even n) := by
  have positive := step_pos unit
  rcases number.exists_mul_or_lt unit with ⟨z, rfl⟩ | ⟨notLeast, small⟩
  · rw [abs_sub_mul_step, abs_sub_mul_step]
    refine ⟨mul_le_mul_of_nonneg_right (nearest.le z) positive.le, fun apart same => ?_⟩
    refine nearest.even (z := z) (fun equal => apart (by rw [equal])) ?_
    exact mul_right_cancel₀ positive.ne' same
  · have enough : 2 ^ 52 * step unit ≤ q := full.resolve_left notLeast
    have least : |q - n * step unit| ≤ q - 2 ^ 52 * step unit := by
      have toLeast : |q - n * step unit| ≤ |q - (2 ^ 52 : ℕ) * step unit| := by
        rw [abs_sub_mul_step, abs_sub_mul_step]
        exact mul_le_mul_of_nonneg_right (nearest.le _) positive.le
      rwa [Nat.cast_pow, Nat.cast_ofNat, abs_of_nonneg (sub_nonneg.mpr enough)] at toLeast
    have farther : |q - n * step unit| < |q - y| := by
      rw [abs_of_pos (a := q - y) (by linarith)]
      linarith
    exact ⟨farther.le, fun _ same => absurd same farther.ne'⟩

/-- A significand of at most 53 bits, and one that has all of them. -/
theorem significand_bounds (nearest : IsNearestEven (q / step unit) n)
    (below : q < 2 ^ 53 * step unit) (full : unit = 0 ∨ 2 ^ 52 * step unit ≤ q) :
    n ≤ 2 ^ 53 ∧ (unit = 0 ∨ 2 ^ 52 ≤ n) := by
  have positive := step_pos unit
  obtain ⟨lower, upper⟩ := abs_le.mp nearest.distance
  constructor
  · have less : q / step unit < 2 ^ 53 := (div_lt_iff₀ positive).mpr below
    have close : (n : ℚ) < 2 ^ 53 + 1 := by linarith
    exact Nat.lt_succ_iff.mp (by exact_mod_cast close)
  · refine full.imp_right fun enough => ?_
    have more : 2 ^ 52 ≤ q / step unit := (le_div_iff₀ positive).mpr enough
    have close : (2 : ℚ) ^ 52 < n + 1 := by linarith
    exact Nat.lt_succ_iff.mp (by exact_mod_cast close)

/-- A significand of `2 ^ 53` is carried into the next unit. -/
theorem ofSignificand_carry (unit : ℕ) :
    ofSignificand (2 ^ 53) unit =
      if lastUnit < unit + 1 then infinite false else finite false (2 ^ 52) (unit + 1) := rfl

theorem ofSignificand_of_lt (less : n < 2 ^ 53) (unit : ℕ) :
    ofSignificand n unit =
      if lastUnit < unit then infinite false else finite false n unit := by
  have noCarry : n ≠ Nat.pow 2 53 := less.ne
  rw [ofSignificand, if_neg noCarry]

theorem roundsTo_of_carry (nearest : IsNearestEven (q / step unit) (2 ^ 53))
    (below : q < 2 ^ 53 * step unit) (full : unit = 0 ∨ 2 ^ 52 * step unit ≤ q) :
    RoundsTo q (ofSignificand (2 ^ 53) unit) := by
  rw [ofSignificand_carry]
  split
  · refine .infinite (limit_le (by omega : lastUnit ≤ unit) ?_)
    have close := (abs_le.mp nearest.distance).1
    rw [← le_div_iff₀ (step_pos unit)]
    push_cast at close
    linarith
  · have same : ((2 ^ 53 : ℕ) : ℚ) * step unit = (2 ^ 52 : ℕ) * step (unit + 1) := by
      rw [step_succ]
      push_cast
      ring
    have canonical : Canonical (2 ^ 52) (unit + 1) := ⟨by norm_num, .inr le_rfl, by omega⟩
    refine .finite (lt_limit canonical.range ?_)
      ⟨canonical, fun y number => ?_, fun _ _ _ _ => ⟨2 ^ 51, rfl⟩⟩
    · have positive := step_pos unit
      rw [step_succ]
      linarith
    · rw [← same]
      exact (nearest_of_isNearestEven nearest full number).1

theorem roundsTo_of_lt (nearest : IsNearestEven (q / step unit) n) (less : n < 2 ^ 53)
    (bits : unit = 0 ∨ 2 ^ 52 ≤ n) (full : unit = 0 ∨ 2 ^ 52 * step unit ≤ q) :
    RoundsTo q (ofSignificand n unit) := by
  rw [ofSignificand_of_lt less]
  split
  · obtain ⟨before, rfl⟩ : ∃ before, unit = before + 1 := ⟨unit - 1, by omega⟩
    refine .infinite (limit_le (by omega : lastUnit ≤ before) ?_)
    have enough := full.resolve_left (Nat.succ_ne_zero _)
    have positive := step_pos before
    rw [step_succ] at enough
    linarith
  · have canonical : Canonical n unit := ⟨less, bits, by omega⟩
    have nearby (y : ℚ) (number : Representable y) := nearest_of_isNearestEven nearest full number
    refine .finite (lt_limit canonical.range ?_)
      ⟨canonical, fun y number => (nearby y number).1, fun y number => (nearby y number).2⟩
    have small := nearest.lt_of_lt_even ⟨2 ^ 52, rfl⟩ less
    push_cast at small
    exact (div_lt_iff₀ (step_pos unit)).mp small

/-- **The nearest number of steps with 53 bits is what the quotient rounds to**, with the carry into
the next unit, and infinite beyond the last unit. -/
theorem roundsTo_ofSignificand (nearest : IsNearestEven (q / step unit) n)
    (below : q < 2 ^ 53 * step unit) (full : unit = 0 ∨ 2 ^ 52 * step unit ≤ q) :
    RoundsTo q (ofSignificand n unit) := by
  obtain ⟨atMost, bits⟩ := significand_bounds nearest below full
  rcases atMost.eq_or_lt with rfl | less
  · exact roundsTo_of_carry nearest below full
  · exact roundsTo_of_lt nearest less bits full

/-- A ratio in steps, as the quotient that is rounded. -/
theorem ratio_div_step (num den unit : ℕ) :
    (num / den : ℚ) / step unit = (num * unitsInOne : ℕ) / (den * 2 ^ unit : ℕ) := by
  rw [step_eq_div, div_div_div_eq]
  push_cast
  rfl

/-- **The unit leaves at most 53 bits left of the dot.** -/
theorem lt_of_unitOf (num : ℕ) {den : ℕ} (positive : 0 < den) :
    (num / den : ℚ) < 2 ^ 53 * step (unitOf num den) := by
  have bits : unitOf num den = (num * unitsInOne / den).log2 - 52 := rfl
  generalize unitOf num den = unit at bits ⊢
  have above : (0 : ℚ) < (den * 2 ^ unit : ℕ) := by exact_mod_cast by positivity
  have below : num * unitsInOne < 2 ^ 53 * (den * 2 ^ unit) := by
    have less : num * unitsInOne / den < 2 ^ (unit + 53) :=
      Nat.lt_log2_self.trans_le (Nat.pow_le_pow_right two_pos (by omega))
    rw [Nat.div_lt_iff_lt_mul positive, pow_add] at less
    linarith
  rw [← div_lt_iff₀ (step_pos unit), ratio_div_step, div_lt_iff₀ above]
  exact_mod_cast below

/-- **The unit leaves no fewer bits**, unless it is the least one. -/
theorem le_of_unitOf (num : ℕ) {den : ℕ} (positive : 0 < den) :
    unitOf num den = 0 ∨ 2 ^ 52 * step (unitOf num den) ≤ num / den := by
  have bits : unitOf num den = (num * unitsInOne / den).log2 - 52 := rfl
  generalize unitOf num den = unit at bits ⊢
  refine (Nat.eq_zero_or_pos unit).imp_right fun some => ?_
  have above : (0 : ℚ) < (den * 2 ^ unit : ℕ) := by exact_mod_cast by positivity
  have enough : 2 ^ 52 * (den * 2 ^ unit) ≤ num * unitsInOne := by
    have notZero : num * unitsInOne / den ≠ 0 := fun zero => by
      rw [zero, Nat.log2_zero] at bits
      omega
    have more : 2 ^ (unit + 52) ≤ num * unitsInOne / den := by
      rw [bits, Nat.sub_add_cancel (by omega)]
      exact Nat.log2_self_le notZero
    rw [Nat.le_div_iff_mul_le positive, pow_add] at more
    linarith
  rw [← le_div_iff₀ (step_pos unit), ratio_div_step, le_div_iff₀ above]
  exact_mod_cast enough

/-- **A ratio is rounded to the nearest number.** -/
theorem roundsTo_ofRatio (num : ℕ) {den : ℕ} (positive : 0 < den) :
    RoundsTo (num / den) (ofRatio num den) := by
  refine roundsTo_ofSignificand ?_ (lt_of_unitOf num positive) (le_of_unitOf num positive)
  rw [ratio_div_step]
  exact isNearestEven_roundQuotient _ (Nat.mul_pos positive (Nat.two_pow_pos _))

/-! ### Rounding as a function -/

section Nearer

variable {p y z : ℚ}

/-- The smaller of two numbers is the nearer one up to the middle between them. -/
theorem abs_sub_le_iff_left (less : y < z) : |p - y| ≤ |p - z| ↔ 2 * p ≤ y + z := by
  have gap : 0 < z - y := sub_pos.mpr less
  have squares : (p - z) ^ 2 - (p - y) ^ 2 = (z - y) * (y + z - 2 * p) := by ring
  rw [← sq_le_sq, ← sub_nonneg, squares, mul_nonneg_iff_of_pos_left gap, sub_nonneg]

theorem abs_sub_le_iff_right (less : y < z) : |p - z| ≤ |p - y| ↔ y + z ≤ 2 * p := by
  have gap : 0 < z - y := sub_pos.mpr less
  have squares : (p - y) ^ 2 - (p - z) ^ 2 = (z - y) * (2 * p - (y + z)) := by ring
  rw [← sq_le_sq, ← sub_nonneg, squares, mul_nonneg_iff_of_pos_left gap, sub_nonneg]

end Nearer

variable {m n u v : ℕ} {p : ℚ}

theorem Canonical.representable (canonical : Canonical m u) : Representable (m * step u) :=
  representable_step canonical.bits canonical.range

/-- Of two canonical forms of a number, none has the finer unit. -/
theorem Canonical.not_lt (first : Canonical m u) (second : Canonical n v)
    (same : (m : ℚ) * step u = n * step v) : ¬ u < v := by
  intro finer
  have full : (2 : ℚ) ^ 52 ≤ n := by exact_mod_cast second.full.resolve_left (by omega)
  have enough := mul_le_mul_of_nonneg_right full (step_pos v).le
  exact (mul_step_lt first.bits finer).not_ge (same ▸ enough)

/-- **A number has one canonical form.** -/
theorem Canonical.unique (first : Canonical m u) (second : Canonical n v)
    (same : (m : ℚ) * step u = n * step v) : m = n ∧ u = v := by
  have units : u = v := Nat.le_antisymm (Nat.not_lt.mp (second.not_lt first same.symm))
    (Nat.not_lt.mp (first.not_lt second same))
  subst units
  exact ⟨by exact_mod_cast mul_right_cancel₀ (step_pos u).ne' same, rfl⟩

/-- There is no number within a step after a number in canonical form. -/
theorem Canonical.succ_le (canonical : Canonical m u) {y : ℚ} (number : Representable y)
    (less : m * step u < y) : (m + 1 : ℕ) * step u ≤ y := by
  have positive := step_pos u
  rcases number.exists_mul_or_lt u with ⟨z, rfl⟩ | ⟨notLeast, small⟩
  · have next : m < z := by exact_mod_cast lt_of_mul_lt_mul_right less positive.le
    exact mul_le_mul_of_nonneg_right (by exact_mod_cast next) positive.le
  · have full : (2 : ℚ) ^ 52 ≤ m := by exact_mod_cast canonical.full.resolve_left notLeast
    have enough := mul_le_mul_of_nonneg_right full positive.le
    exact absurd (enough.trans less.le) small.not_ge

/-- Of two nearest numbers none is the smaller: both would have even significands, and there is an
odd one in between. -/
theorem Nearest.not_lt (left : Nearest q m u) (right : Nearest q n v) :
    ¬ (m : ℚ) * step u < n * step v := by
  intro less
  have same := le_antisymm (left.le _ right.canonical.representable)
    (right.le _ left.canonical.representable)
  have even := left.even _ right.canonical.representable less.ne' same.symm
  have even' := right.even _ left.canonical.representable less.ne same
  have next : Canonical (m + 1) u := by
    have bits := left.canonical.bits
    obtain ⟨half, rfl⟩ := even
    exact ⟨by omega, left.canonical.full.imp_right (by omega), left.canonical.range⟩
  have after : (m : ℚ) * step u < (m + 1 : ℕ) * step u :=
    mul_lt_mul_of_pos_right (by exact_mod_cast Nat.lt_succ_self _) (step_pos u)
  have before := (abs_sub_le_iff_left after).mp (left.le _ next.representable)
  have middle := (abs_sub_le_iff_right less).mp same.ge
  have second := le_antisymm (left.canonical.succ_le right.canonical.representable less)
    (by linarith)
  obtain ⟨rfl, -⟩ := next.unique right.canonical second
  exact Nat.not_even_iff_odd.mpr even.add_one even'

/-- A greater number has no smaller nearest number. -/
theorem Nearest.mono (left : Nearest p m u) (right : Nearest q n v) (le : p ≤ q) :
    (m : ℚ) * step u ≤ n * step v := by
  by_contra greater
  have less := not_le.mp greater
  have above := (abs_sub_le_iff_right less).mp (left.le _ right.canonical.representable)
  have below := (abs_sub_le_iff_left less).mp (right.le _ left.canonical.representable)
  obtain rfl : p = q := by linarith
  exact right.not_lt left less

/-- **A rational number rounds to one number only.** -/
theorem RoundsTo.unique {x y : Binary64} (left : RoundsTo q x) (right : RoundsTo q y) : x = y := by
  cases left with
  | infinite beyond =>
    cases right with
    | infinite => rfl
    | finite within => exact absurd beyond within.not_ge
  | finite within nearest =>
    cases right with
    | infinite beyond => exact absurd beyond within.not_ge
    | finite _ nearest' =>
      have same := le_antisymm (nearest.mono nearest' le_rfl) (nearest'.mono nearest le_rfl)
      obtain ⟨rfl, rfl⟩ := nearest.canonical.unique nearest'.canonical same
      rfl

/-- **Every rational number that is not negative rounds to one number.** -/
theorem existsUnique_roundsTo (nonneg : 0 ≤ q) : ∃! x, RoundsTo q x := by
  have ratio : (q.num.toNat / q.den : ℚ) = q := by
    have whole : ((q.num.toNat : ℕ) : ℚ) = q.num := by
      exact_mod_cast Int.toNat_of_nonneg (Rat.num_nonneg.mpr nonneg)
    rw [whole, Rat.num_div_den]
  have rounds := roundsTo_ofRatio q.num.toNat q.den_pos
  rw [ratio] at rounds
  exact ⟨_, rounds, fun y other => other.unique rounds⟩

theorem RoundsTo.eq_infinite_iff {x : Binary64} (rounds : RoundsTo q x) :
    x = .infinite false ↔ 2 ^ 1024 - 2 ^ 970 ≤ q := by
  cases rounds with
  | infinite beyond => exact ⟨fun _ => beyond, fun _ => rfl⟩
  | finite within => exact ⟨Binary64.noConfusion, fun beyond => absurd beyond within.not_ge⟩

/-- **A number rounds to itself.** -/
theorem roundsTo_self (canonical : Canonical m u) :
    RoundsTo (m * step u) (.finite false m u) := by
  have least : (m : ℚ) < 2 ^ 53 - 1 / 2 := by
    have bits : (m : ℚ) + 1 ≤ 2 ^ 53 := by exact_mod_cast canonical.bits
    linarith
  refine .finite (lt_limit canonical.range (mul_lt_mul_of_pos_right least (step_pos u)))
    ⟨canonical, fun y _ => ?_, fun y _ other same => absurd ?_ other⟩
  · rw [sub_self, abs_zero]
    exact abs_nonneg _
  · rw [sub_self, abs_zero, abs_eq_zero, sub_eq_zero] at same
    exact same.symm

theorem roundsTo_zero : RoundsTo 0 (.finite false 0 0) := by
  have zero : Canonical 0 0 := ⟨by norm_num, .inl rfl, Nat.zero_le _⟩
  have rounds := roundsTo_self zero
  rwa [Nat.cast_zero, zero_mul] at rounds

/-- What lies between two numbers with the same nearest number has it too: the middle to a smaller
number is not beyond the first, and that to a greater one not before the last. -/
theorem Nearest.between {first last : ℚ} (left : Nearest first m u) (right : Nearest last m u)
    (above : first ≤ q) (below : q ≤ last) : Nearest q m u := by
  have further (y : ℚ) (number : Representable y) (other : y ≠ m * step u) :
      |q - m * step u| ≤ |q - y| ∧ (|q - y| = |q - m * step u| → Even m) := by
    rcases lt_or_gt_of_ne other with less | greater
    · have middle := (abs_sub_le_iff_right less).mp (left.le y number)
      refine ⟨(abs_sub_le_iff_right less).mpr (by linarith), fun same => ?_⟩
      have before := (abs_sub_le_iff_left less).mp same.le
      obtain rfl : first = q := by linarith
      exact left.even y number other same
    · have middle := (abs_sub_le_iff_left greater).mp (right.le y number)
      refine ⟨(abs_sub_le_iff_left greater).mpr (by linarith), fun same => ?_⟩
      have after := (abs_sub_le_iff_right greater).mp same.le
      obtain rfl : q = last := by linarith
      exact right.even y number other same
  refine ⟨left.canonical, fun y number => ?_, fun y number other => (further y number other).2⟩
  by_cases same : y = m * step u
  · rw [same]
  · exact (further y number same).1

/-- **What lies between two numbers that round to the same rounds to it too.** -/
theorem RoundsTo.between {x : Binary64} {first last : ℚ} (left : RoundsTo first x)
    (right : RoundsTo last x) (above : first ≤ q) (below : q ≤ last) : RoundsTo q x := by
  cases left with
  | infinite beyond => exact .infinite (beyond.trans above)
  | finite _ least =>
    cases right with
    | finite within greatest =>
      exact .finite (below.trans_lt within) (least.between greatest above below)

/-! ### The order of the numbers -/

/-- The order of the numbers, with the infinities at its ends. What is no number has no place. -/
def AtMost : Binary64 → Binary64 → Prop
  | infinite true, second => second ≠ nan
  | first, infinite false => first ≠ nan
  | first, second => ∃ a b, first.scaled? = some a ∧ second.scaled? = some b ∧ a ≤ b

theorem atMost_of_mul_step_le (le : (m : ℚ) * step u ≤ n * step v) :
    (finite false m u).AtMost (finite false n v) := by
  refine ⟨_, _, rfl, rfl, ?_⟩
  rw [← magnitude_div_unitsInOne, ← magnitude_div_unitsInOne,
    div_le_div_iff_of_pos_right unitsInOne_pos] at le
  exact_mod_cast le

/-- **A greater number does not round to a smaller one.** -/
theorem RoundsTo.atMost {x y : Binary64} (left : RoundsTo p x) (right : RoundsTo q y)
    (le : p ≤ q) : x.AtMost y := by
  cases right with
  | infinite => cases left with
    | infinite => exact Binary64.noConfusion
    | finite => exact Binary64.noConfusion
  | finite within nearest' => cases left with
    | infinite beyond => exact absurd (beyond.trans le) within.not_ge
    | finite _ nearest => exact atMost_of_mul_step_le (nearest.mono nearest' le)

end Binary64

end LoopLex
