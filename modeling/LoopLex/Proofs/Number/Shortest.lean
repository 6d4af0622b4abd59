/-
**The shortest decimal of a binary number.** It rounds to the number, no decimal on a coarser grid
does, and so none with fewer digits does.

What rounds to a number has no gaps, and the number itself rounds to it. So if any point of a grid
rounds to the number, one of its two neighbours on the grid does, and a grid that yields none of
them has no point that rounds to it.

A decimal with fewer digits is below the power of ten of the first digit of the shortest one. If it
rounded to the number, so would the power of ten between them, which lies on a coarser grid.

* `Decimal.value` and `Decimal.toBinary64_eq_iff` — the rational number that a decimal is, and what
  it rounds to;
* `Decimal.Coarsest` — a decimal on the coarsest grid from which the number is rounded to;
* `coarsest_shortest` — the grid that is found;
* `Coarsest.significant_le_significant` — no decimal has fewer digits;
* `Coarsest.place_le` and `Coarsest.lt_place` — the place of the first digit is that of the number.
-/

import LoopLex.Number.Decimal
import LoopLex.Proofs.Number.Rounding
import Mathlib.Data.Nat.Cast.Order.Field
import Mathlib.Data.Nat.Digits.Lemmas

namespace LoopLex

open Binary64 (Canonical Representable RoundsTo step magnitude unitsInOne)

namespace Decimal

/-! ### The value of a decimal -/

/-- The rational number that a decimal is. -/
def value (decimal : Decimal) : ℚ := decimal.digits * 10 ^ decimal.exponent

theorem ten_zpow_pos (e : ℤ) : (0 : ℚ) < 10 ^ e := zpow_pos (by norm_num) e

theorem pow_mul_ten_zpow (count : ℕ) (e : ℤ) : (10 : ℚ) ^ count * 10 ^ e = 10 ^ (count + e) := by
  rw [zpow_add₀ (by norm_num), zpow_natCast]

/-- Zeros behind the digits are as good as a greater exponent. -/
theorem value_mul_pow (c zeros : ℕ) (e : ℤ) :
    (⟨c * 10 ^ zeros, e⟩ : Decimal).value = (⟨c, zeros + e⟩ : Decimal).value := by
  rw [value, value, ← pow_mul_ten_zpow, ← mul_assoc]
  push_cast
  rfl

/-- A power of ten as a ratio of natural numbers. -/
theorem ten_zpow_eq_div (e : ℤ) : (10 : ℚ) ^ e = 10 ^ e.toNat / 10 ^ (-e).toNat := by
  rw [eq_div_iff (by positivity), ← zpow_natCast, ← zpow_natCast, ← zpow_add₀ (by norm_num)]
  congr 1
  omega

/-- **A decimal stands for the number that it rounds to.** -/
theorem roundsTo_toBinary64 (decimal : Decimal) : RoundsTo decimal.value decimal.toBinary64 := by
  have power : 0 < Nat.pow 10 (-decimal.exponent).toNat := Nat.pow_pos (by decide)
  have ratio :=
    Binary64.roundsTo_ofRatio (decimal.digits * Nat.pow 10 decimal.exponent.toNat) power
  have same : decimal.value = (decimal.digits * Nat.pow 10 decimal.exponent.toNat : ℕ) /
      (Nat.pow 10 (-decimal.exponent).toNat : ℕ) := by
    rw [value, ten_zpow_eq_div, Nat.pow_eq, Nat.pow_eq, ← mul_div_assoc]
    push_cast
    rfl
  rw [same]
  exact ratio

theorem toBinary64_eq_iff {decimal : Decimal} {x : Binary64} :
    decimal.toBinary64 = x ↔ RoundsTo decimal.value x := by
  constructor
  · rintro rfl
    exact decimal.roundsTo_toBinary64
  · exact decimal.roundsTo_toBinary64.unique

/-! ### The neighbours on a grid -/

section Grid

variable {significand unit : ℕ} {exponent : ℤ} {decimal : Decimal}

/-- The number in steps of the grid, as the quotient of which the neighbours are taken. -/
theorem mul_step_div_ten_zpow (significand unit : ℕ) (exponent : ℤ) :
    (significand * step unit / 10 ^ exponent : ℚ) =
      (magnitude significand unit * Nat.pow 10 (-exponent).toNat : ℕ) /
        (unitsInOne * Nat.pow 10 exponent.toNat : ℕ) := by
  rw [← Binary64.magnitude_div_unitsInOne, ten_zpow_eq_div, Nat.pow_eq, Nat.pow_eq, div_div_div_eq]
  push_cast
  rfl

theorem exponent_of_mem_neighbours {scaled : ℕ} (member : decimal ∈ neighbours scaled exponent) :
    decimal.exponent = exponent := by
  simp only [neighbours, List.mem_cons, List.not_mem_nil, or_false] at member
  rcases member with rfl | rfl | rfl <;> rfl

/-- A point of a grid is at or below the one neighbour, or at or above the other one. -/
theorem exists_neighbours (significand unit : ℕ) (exponent : ℤ) :
    ∃ floor : ℕ,
      (⟨floor, exponent⟩ : Decimal) ∈ neighbours (magnitude significand unit) exponent ∧
      (⟨floor + 1, exponent⟩ : Decimal) ∈ neighbours (magnitude significand unit) exponent ∧
      (floor : ℚ) * 10 ^ exponent ≤ significand * step unit ∧
      significand * step unit ≤ (floor + 1 : ℕ) * 10 ^ exponent := by
  have power := ten_zpow_pos exponent
  have quotient := mul_step_div_ten_zpow significand unit exponent
  have positive : 0 < unitsInOne * Nat.pow 10 exponent.toNat :=
    Nat.mul_pos (by exact_mod_cast Binary64.unitsInOne_pos) (Nat.pow_pos (by decide))
  refine ⟨magnitude significand unit * Nat.pow 10 (-exponent).toNat /
    (unitsInOne * Nat.pow 10 exponent.toNat), by simp [neighbours], by simp [neighbours], ?_, ?_⟩
  · rw [← le_div_iff₀ power, quotient]
    exact Nat.cast_div_le
  · rw [← div_le_iff₀ power, quotient]
    generalize magnitude significand unit * Nat.pow 10 (-exponent).toNat = num
    generalize unitsInOne * Nat.pow 10 exponent.toNat = den at positive ⊢
    have less := Nat.lt_mul_div_succ num positive
    rw [div_le_iff₀ (by exact_mod_cast positive), mul_comm]
    exact_mod_cast less.le

variable (canonical : Canonical significand unit)
include canonical

/-- **If no neighbour on a grid stands for the number, no point of the grid does.** The neighbour on
the side of a point lies between the point and the number. -/
theorem not_roundsTo_of_onGrid?_eq_none (missing : onGrid? significand unit exponent = none)
    (c : ℕ) :
    ¬ RoundsTo (⟨c, exponent⟩ : Decimal).value (.finite false significand unit) := by
  intro point
  have own := Binary64.roundsTo_self canonical
  obtain ⟨floor, low, high, below, above⟩ := exists_neighbours significand unit exponent
  have noNeighbour : ∀ decimal ∈ neighbours (magnitude significand unit) exponent,
      ¬ RoundsTo decimal.value (.finite false significand unit) := by
    intro decimal member rounds
    have refused := List.find?_eq_none.mp missing decimal member
    rw [toBinary64_eq_iff.mpr rounds, decide_eq_true_iff] at refused
    exact refused rfl
  have power := (ten_zpow_pos exponent).le
  rcases Nat.lt_or_ge floor c with beyond | before
  · refine noNeighbour _ high (own.between point above ?_)
    exact mul_le_mul_of_nonneg_right (by exact_mod_cast beyond) power
  · refine noNeighbour _ low (point.between own ?_ below)
    exact mul_le_mul_of_nonneg_right (by exact_mod_cast before) power

omit canonical in
theorem roundsTo_of_onGrid? (found : onGrid? significand unit exponent = some decimal) :
    decimal.exponent = exponent ∧ RoundsTo decimal.value (.finite false significand unit) := by
  have stands := List.find?_some (p := fun decimal : Decimal =>
    decide (decimal.toBinary64 = .finite false significand unit)) found
  exact ⟨exponent_of_mem_neighbours (List.mem_of_find?_eq_some found),
    toBinary64_eq_iff.mp (of_decide_eq_true stands)⟩

omit canonical in
/-- Every number is a point of the finest grid. -/
theorem exists_value_eq (significand unit : ℕ) :
    ∃ c : ℕ, (⟨c, -1074⟩ : Decimal).value = significand * step unit := by
  have fives (k : ℕ) : (5 : ℚ) ^ k * 10 ^ (-(k : ℤ)) = 2 ^ (-(k : ℤ)) := by
    have tens : (10 : ℚ) ^ k = 5 ^ k * 2 ^ k := by
      rw [← mul_pow]
      norm_num
    rw [zpow_neg, zpow_neg, zpow_natCast, zpow_natCast, tens]
    field_simp
  have least : step 0 = 5 ^ 1074 * 10 ^ (-1074 : ℤ) := (fives 1074).symm
  have steps : step unit = 2 ^ unit * step 0 := by rw [← Binary64.step_add, Nat.zero_add]
  refine ⟨significand * 2 ^ unit * 5 ^ 1074, ?_⟩
  rw [value, steps, least, Nat.cast_mul, Nat.cast_mul, Nat.cast_pow, Nat.cast_pow]
  simp only [mul_assoc, Nat.cast_ofNat]

/-- On the finest grid a decimal is found. -/
theorem onGrid?_finest_ne_none : onGrid? significand unit (-1074) ≠ none := by
  intro missing
  obtain ⟨c, point⟩ := exists_value_eq significand unit
  exact not_roundsTo_of_onGrid?_eq_none canonical missing c
    (point ▸ Binary64.roundsTo_self canonical)

omit canonical in
theorem digits_pos (positive : 0 < significand)
    (rounds : RoundsTo decimal.value (.finite false significand unit)) : 0 < decimal.digits := by
  refine Nat.pos_of_ne_zero fun zero => ?_
  rw [value, zero, Nat.cast_zero, zero_mul] at rounds
  have same := rounds.unique Binary64.roundsTo_zero
  rw [Binary64.finite.injEq] at same
  omega

omit canonical in
/-- Beyond the coarsest grid that is tried, all decimals are too large. -/
theorem exponent_le_of_roundsTo (positive : 0 < significand)
    (rounds : RoundsTo decimal.value (.finite false significand unit)) :
    decimal.exponent ≤ 309 := by
  by_contra greater
  have least : (1 : ℚ) ≤ decimal.digits := by exact_mod_cast digits_pos positive rounds
  have large : (2 : ℚ) ^ 1024 ≤ 10 ^ 310 :=
    calc (2 : ℚ) ^ 1024 = 2 * (2 ^ 93) ^ 11 := by rw [← pow_mul, ← pow_succ']
      _ ≤ 10 ^ 2 * (10 ^ 28) ^ 11 := by
        refine mul_le_mul (by norm_num) (pow_le_pow_left₀ (by norm_num) (by norm_num) 11) ?_ ?_
        all_goals positivity
      _ = 10 ^ 310 := by rw [← pow_mul, ← pow_add]
  have beyond : (2 : ℚ) ^ 1024 - 2 ^ 970 ≤ decimal.value :=
    calc (2 : ℚ) ^ 1024 - 2 ^ 970 ≤ 2 ^ 1024 := sub_le_self _ (by positivity)
      _ ≤ 10 ^ 310 := large
      _ = 10 ^ (310 : ℤ) := (zpow_natCast 10 310).symm
      _ ≤ 10 ^ decimal.exponent := zpow_le_zpow_right₀ (by norm_num) (by omega)
      _ ≤ decimal.value := le_mul_of_one_le_left (ten_zpow_pos _).le least
  exact Binary64.noConfusion (rounds.eq_infinite_iff.mpr beyond)

end Grid

/-! ### The coarsest grid -/

theorem mem_exponents {e : ℤ} : e ∈ exponents ↔ -1074 ≤ e ∧ e ≤ 309 := by
  simp only [exponents, List.mem_map, List.mem_range]
  constructor
  · rintro ⟨i, less, rfl⟩
    omega
  · rintro ⟨least, greatest⟩
    exact ⟨(309 - e).toNat, by omega, by omega⟩

theorem exponents_descending : exponents.Pairwise (· > ·) :=
  List.pairwise_map.mpr (List.pairwise_lt_range.imp fun less => by omega)

/-- The decimal rounds to the number, and no decimal with a greater exponent does. -/
structure Coarsest (decimal : Decimal) (x : Binary64) : Prop where
  rounds : RoundsTo decimal.value x
  coarsest : ∀ other : Decimal, RoundsTo other.value x → other.exponent ≤ decimal.exponent

section Shortest

variable {significand unit : ℕ} (canonical : Canonical significand unit)
include canonical

/-- The decimal is found on its grid, and none on the grids that are tried before. -/
theorem shortest_found : ∃ coarser finer,
    exponents = coarser ++ (shortest significand unit).exponent :: finer ∧
      onGrid? significand unit (shortest significand unit).exponent =
        some (shortest significand unit) ∧
      ∀ e ∈ coarser, onGrid? significand unit e = none := by
  cases found : exponents.findSome? (onGrid? significand unit) with
  | none =>
    have missing := List.findSome?_eq_none_iff.mp found (-1074) (mem_exponents.mpr (by omega))
    exact absurd missing (onGrid?_finest_ne_none canonical)
  | some decimal =>
    rw [shortest, found, Option.getD_some]
    obtain ⟨coarser, exponent, finer, all, onGrid, missing⟩ := List.findSome?_eq_some_iff.mp found
    obtain ⟨rfl, -⟩ := roundsTo_of_onGrid? onGrid
    exact ⟨coarser, finer, all, onGrid, missing⟩

variable (positive : 0 < significand)
include positive

/-- A decimal with nothing found on the grids that are tried before its own is on the coarsest
grid. -/
theorem coarsest_of_missing {decimal : Decimal} {coarser finer : List ℤ}
    (rounds : RoundsTo decimal.value (.finite false significand unit))
    (all : exponents = coarser ++ decimal.exponent :: finer)
    (missing : ∀ e ∈ coarser, onGrid? significand unit e = none) :
    Coarsest decimal (.finite false significand unit) := by
  refine ⟨rounds, fun other point => ?_⟩
  by_contra greater
  have tried : other.exponent ∈ exponents := by
    have least : decimal.exponent ∈ exponents := all ▸ by simp
    have inRange := mem_exponents.mp least
    have greatest := exponent_le_of_roundsTo positive point
    exact mem_exponents.mpr (by omega)
  have descending := exponents_descending
  rw [all] at tried descending
  rcases List.mem_append.mp tried with before | later
  · exact not_roundsTo_of_onGrid?_eq_none canonical (missing _ before) other.digits point
  · rcases List.mem_cons.mp later with same | after
    · omega
    · have less := (List.pairwise_cons.mp (List.pairwise_append.mp descending).2.1).1 _ after
      omega

/-- **The decimal that is found is on the coarsest grid** with a decimal that rounds to the
number. -/
theorem coarsest_shortest :
    Coarsest (shortest significand unit) (.finite false significand unit) := by
  obtain ⟨coarser, finer, all, onGrid, missing⟩ := shortest_found canonical
  exact coarsest_of_missing canonical positive (roundsTo_of_onGrid? onGrid).2 all missing

omit positive in
/-- If the next coarser grid has no decimal for the number, no coarser one does, because its points
are points of the next one. -/
theorem exponent_eq_of_next {decimal other : Decimal}
    (coarsest : Coarsest decimal (.finite false significand unit))
    (rounds : RoundsTo other.value (.finite false significand unit))
    (next : onGrid? significand unit (other.exponent + 1) = none) :
    other.exponent = decimal.exponent := by
  refine Int.le_antisymm (coarsest.coarsest other rounds) (Int.not_lt.mp fun coarser => ?_)
  obtain ⟨more, place⟩ : ∃ more : ℕ, more + (other.exponent + 1) = decimal.exponent :=
    ⟨(decimal.exponent - (other.exponent + 1)).toNat, by omega⟩
  have point : decimal.value =
      (⟨decimal.digits * 10 ^ more, other.exponent + 1⟩ : Decimal).value := by
    rw [value_mul_pow, place]
  exact not_roundsTo_of_onGrid?_eq_none canonical next _ (point ▸ coarsest.rounds)

/-- **The decimal that is found is the one of the grid with nothing on the next coarser one.** -/
theorem shortest_eq {decimal : Decimal}
    (found : onGrid? significand unit decimal.exponent = some decimal)
    (next : onGrid? significand unit (decimal.exponent + 1) = none) :
    shortest significand unit = decimal := by
  obtain ⟨-, -, -, onGrid, -⟩ := shortest_found canonical
  have same := exponent_eq_of_next canonical (coarsest_shortest canonical positive)
    (roundsTo_of_onGrid? found).2 next
  rw [← same, found] at onGrid
  exact (Option.some.inj onGrid).symm

end Shortest

/-! ### The number of digits -/

/-- The number of digits of a natural number without the zeros behind the others. -/
def significant (n : ℕ) : ℕ := ((Nat.digits 10 n).dropWhile (· = 0)).length

theorem significant_le {n count : ℕ} (less : n < 10 ^ count) : significant n ≤ count :=
  (List.dropWhile_sublist _).length_le.trans ((Nat.digits_length_le_iff (by norm_num) n).mpr less)

theorem significant_mul_ten (n : ℕ) : significant (n * 10) = significant n := by
  rcases Nat.eq_zero_or_pos n with rfl | positive
  · rfl
  · have split := Nat.digits_def' (b := 10) (n := n * 10) (by norm_num) (by omega)
    rw [Nat.mul_mod_left, Nat.mul_div_cancel n (by norm_num)] at split
    rw [significant, split, List.dropWhile_cons_of_pos rfl]
    rfl

theorem significant_mul_pow (n zeros : ℕ) : significant (n * 10 ^ zeros) = significant n := by
  induction zeros with
  | zero => rw [pow_zero, mul_one]
  | succ zeros ih => rw [pow_succ, ← mul_assoc, significant_mul_ten, ih]

/-- The zeros behind the others are a power of ten. -/
theorem exists_eq_mul_pow (n : ℕ) : ∃ c zeros, n = c * 10 ^ zeros ∧ c < 10 ^ significant n := by
  induction n using Nat.strongRecOn with
  | _ n ih =>
    rcases Nat.eq_zero_or_pos n with rfl | positive
    · exact ⟨0, 0, rfl, Nat.one_pos⟩
    · by_cases zero : n % 10 = 0
      · obtain ⟨c, zeros, same, less⟩ := ih (n / 10) (by omega)
        have tens : n = n / 10 * 10 := by omega
        refine ⟨c, zeros + 1, ?_, ?_⟩
        · rw [pow_succ, ← mul_assoc, ← same]
          exact tens
        · rw [tens, significant_mul_ten]
          exact less
      · have split := Nat.digits_def' (b := 10) (by norm_num) positive
        have whole : significant n = (Nat.digits 10 n).length := by
          rw [significant, split, List.dropWhile_cons_of_neg (by simpa using zero)]
        refine ⟨n, 0, (Nat.mul_one n).symm, ?_⟩
        rw [whole]
        exact Nat.lt_base_pow_length_digits (by norm_num)

/-- The number of digits of a natural number. -/
def width (n : ℕ) : ℕ := (Nat.toDigits 10 n).length

theorem width_pos (n : ℕ) : 0 < width n := List.length_pos_iff.mpr Nat.toDigits_ne_nil

theorem lt_pow_width (n : ℕ) : n < 10 ^ width n :=
  (Nat.length_toDigits_le_iff (by norm_num) (width_pos n)).mp le_rfl

theorem pow_le_of_lt_width {n count : ℕ} (positive : 0 < n) (less : count < width n) :
    10 ^ count ≤ n := by
  rcases Nat.eq_zero_or_pos count with rfl | some
  · exact positive
  · refine Nat.not_lt.mp fun small => ?_
    have shorter := (Nat.length_toDigits_le_iff (by norm_num) some).mpr small
    exact less.not_ge shorter

/-- **A decimal is below the power of ten of the number of its digits.** -/
theorem value_lt (decimal : Decimal) :
    decimal.value < 10 ^ (width decimal.digits + decimal.exponent) := by
  rw [← pow_mul_ten_zpow]
  have less := lt_pow_width decimal.digits
  exact mul_lt_mul_of_pos_right (by exact_mod_cast less) (ten_zpow_pos _)

/-- A decimal is not below the power of ten of its first digit. -/
theorem pow_le_value {decimal : Decimal} {count : ℕ} (positive : 0 < decimal.digits)
    (less : count < width decimal.digits) : 10 ^ (count + decimal.exponent) ≤ decimal.value := by
  rw [← pow_mul_ten_zpow]
  have enough := pow_le_of_lt_width positive less
  exact mul_le_mul_of_nonneg_right (by exact_mod_cast enough) (ten_zpow_pos _).le

namespace Coarsest

variable {decimal : Decimal} {x : Binary64} {significand unit : ℕ}

/-- No power of ten between two numbers that round to `x` is on a coarser grid. -/
theorem le_of_between (coarsest : Coarsest decimal x) {first last : ℚ} (left : RoundsTo first x)
    (right : RoundsTo last x) {e : ℤ} (above : first ≤ 10 ^ e) (below : 10 ^ e ≤ last) :
    e ≤ decimal.exponent := by
  have power : (⟨1, e⟩ : Decimal).value = 10 ^ e := by rw [value, Nat.cast_one, one_mul]
  exact coarsest.coarsest ⟨1, e⟩ (power ▸ left.between right above below)

variable (coarsest : Coarsest decimal (.finite false significand unit)) (positive : 0 < significand)
include coarsest positive

/-- Every decimal that rounds to the number has as many digits, zeros behind them left out. With
fewer digits, the power of ten of the first digit would lie between the two decimals. -/
theorem width_le {other : Decimal}
    (rounds : RoundsTo other.value (.finite false significand unit)) :
    width decimal.digits ≤ significant other.digits := by
  obtain ⟨c, zeros, same, less⟩ := exists_eq_mul_pow other.digits
  have plain : other.value = (⟨c, zeros + other.exponent⟩ : Decimal).value := by
    rw [← value_mul_pow, ← same]
  rw [plain] at rounds
  have finer := coarsest.coarsest _ rounds
  have some : 0 < c := digits_pos positive rounds
  generalize significant other.digits = count at less ⊢
  by_contra more
  have above : (⟨c, zeros + other.exponent⟩ : Decimal).value ≤ 10 ^ (count + decimal.exponent) := by
    rw [← pow_mul_ten_zpow, value]
    refine mul_le_mul (by exact_mod_cast less.le) (zpow_le_zpow_right₀ (by norm_num) finer)
      (ten_zpow_pos _).le (by positivity)
  have below := pow_le_value (digits_pos positive coarsest.rounds) (Nat.not_le.mp more)
  have noCoarser := coarsest.le_of_between rounds coarsest.rounds above below
  obtain rfl : count = 0 := by omega
  rw [pow_zero] at less
  omega

/-- **No decimal that rounds to the number has fewer digits**, zeros behind them left out. -/
theorem significant_le_significant {other : Decimal}
    (rounds : RoundsTo other.value (.finite false significand unit)) :
    significant decimal.digits ≤ significant other.digits :=
  (significant_le (lt_pow_width _)).trans (coarsest.width_le positive rounds)

/-- **The first digit weighs less than a power of ten that the number is below**, if the power is a
number itself. Otherwise the power would be nearer to the decimal than the number. -/
theorem place_le {k : ℤ} (number : Representable (10 ^ k))
    (less : significand * step unit < (10 : ℚ) ^ k) :
    width decimal.digits + decimal.exponent ≤ k := by
  by_contra beyond
  have first := width_pos decimal.digits
  have enough : (10 : ℚ) ^ k ≤ decimal.value :=
    calc (10 : ℚ) ^ k ≤ 10 ^ (((width decimal.digits - 1 : ℕ) : ℤ) + decimal.exponent) :=
          zpow_le_zpow_right₀ (by norm_num) (by omega)
      _ ≤ decimal.value := pow_le_value (digits_pos positive coarsest.rounds) (by omega)
  cases coarsest.rounds with
  | finite _ nearest =>
    have middle := (Binary64.abs_sub_le_iff_left less).mp (nearest.le _ number)
    linarith

omit positive in
/-- **The first digit weighs as much as any power of ten that the number is not below.** -/
theorem lt_place (canonical : Canonical significand unit) {k : ℤ}
    (enough : (10 : ℚ) ^ k ≤ significand * step unit) :
    k < width decimal.digits + decimal.exponent := by
  by_contra before
  have above : decimal.value ≤ 10 ^ k :=
    decimal.value_lt.le.trans (zpow_le_zpow_right₀ (by norm_num) (by omega))
  have noCoarser := coarsest.le_of_between coarsest.rounds (Binary64.roundsTo_self canonical)
    above enough
  have first := width_pos decimal.digits
  omega

end Coarsest

end Decimal

end LoopLex
