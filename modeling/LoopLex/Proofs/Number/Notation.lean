/-
**Decimals as text.** The text of a decimal is read as the same number, and so that of a binary
number as a decimal that rounds to it.

Digits stand before the dot and behind it, or the first digit and the others with an exponent. A
reader counts the digits behind the dot off the exponent, so it finds the digits of the decimal
again, and further zeros behind them if the dot was.

* `Denotes` — the rational number that two runs of digits with a dot between denote;
* `Mantissa` — digits with or without a dot;
* `Mantissa.ofText?_eq` and `Mantissa.ofText?_exponent` — a mantissa as text, alone and with an
  exponent;
* `exists_positional` — digits with a dot at a place have the value of the digits at that place;
* `ofText?_text` — the text of a decimal;
* `Binary64.exists_isTextOf` — the text of a number, which denotes a shortest decimal.
-/

import LoopLex.Number.FloatText
import LoopLex.Proofs.Number.Numeral
import LoopLex.Proofs.Number.Shortest
import LoopLex.Proofs.Word.FirstPiece
import Mathlib.Data.List.TakeWhile

namespace LoopLex

open Unicode (isDigit)

/-! ### Decimals with a dot -/

/-- The word is two runs of digits with a dot between, and denotes `q`. -/
def Denotes (word : List Char) (q : ℚ) : Prop :=
  ∃ whole digits, DigitRun whole ∧ DigitRun digits ∧ word = whole ++ '.' :: digits ∧
    q = Numeral.value whole + Numeral.value digits / 10 ^ digits.length

/-- The digits on both sides as one run, over the power of ten of those behind the dot. -/
theorem value_append_div (whole digits : List Char) :
    (Numeral.value (whole ++ digits) / Nat.pow 10 digits.length : ℚ) =
      Numeral.value whole + Numeral.value digits / 10 ^ digits.length := by
  have power : ((Nat.pow 10 digits.length : ℕ) : ℚ) = 10 ^ digits.length := Nat.cast_pow 10 _
  rw [power, Numeral.value_append]
  push_cast
  field_simp

/-- A word denotes one number only, since its dot is not a digit. -/
theorem Denotes.unique {word : List Char} {p q : ℚ} (left : Denotes word p)
    (right : Denotes word q) : p = q := by
  have cut {whole digits : List Char} (run : DigitRun whole) :
      (whole ++ '.' :: digits).takeWhile isDigit = whole :=
    takeWhile_append_of_apart run.2 (isDigit_of_mem_signs (by decide))
  obtain ⟨whole, digits, run, -, rfl, rfl⟩ := left
  obtain ⟨whole', digits', run', -, same, rfl⟩ := right
  obtain rfl : whole = whole' := by rw [← cut run, same, cut run']
  obtain rfl : digits = digits' := (List.cons.inj (List.append_cancel_left same)).2
  rfl

namespace Decimal

/-! ### Exponents -/

/-- **An exponent is read as itself.** -/
theorem readExponent?_exponentText (e : ℤ) : readExponent? (exponentText e) = some e := by
  have own := Numeral.digitRun_toDigits e.natAbs
  obtain ⟨digits, isDigits⟩ : ∃ digits, digits =
      if (Nat.toDigits 10 e.natAbs).length < 2 then '0' :: Nat.toDigits 10 e.natAbs
      else Nat.toDigits 10 e.natAbs := ⟨_, rfl⟩
  have run : Numeral.isRun digits = true ∧ Numeral.value digits = e.natAbs := by
    rw [isDigits]
    split
    · have padded : DigitRun ('0' :: Nat.toDigits 10 e.natAbs) := own.zeros_append 1
      exact ⟨isRun_of_digitRun padded,
        (Numeral.value_zeros 1 _).trans (Numeral.value_toDigits _)⟩
    · exact ⟨isRun_of_digitRun own, Numeral.value_toDigits _⟩
  have text : exponentText e = (if e < 0 then '-' else '+') :: digits := by
    rw [isDigits]
    rfl
  rw [text]
  split
  · show (if Numeral.isRun digits then some (-(Numeral.value digits : ℤ)) else none) = some e
    rw [if_pos run.1, run.2]
    congr 1
    omega
  · show (if Numeral.isRun digits then some (Numeral.value digits : ℤ) else none) = some e
    rw [if_pos run.1, run.2]
    congr 1
    omega

/-! ### Reading a mantissa -/

/-- The text is digits, with or without a dot and further digits behind it. -/
inductive Mantissa : List Char → List Char → List Char → Prop where
  | plain {whole : List Char} (run : DigitRun whole) : Mantissa whole whole []
  | point {whole fraction : List Char} (left : DigitRun whole) (right : DigitRun fraction) :
    Mantissa (whole ++ '.' :: fraction) whole fraction

namespace Mantissa

variable {text whole fraction : List Char}

theorem ne_e (mantissa : Mantissa text whole fraction) :
    ∀ c ∈ text, decide (c ≠ 'e') = true := by
  have noE {run : List Char} (digits : DigitRun run) := digits.forall_ne (c := 'e') (by decide)
  cases mantissa with
  | plain run => exact noE run
  | point left right =>
    exact List.forall_mem_append.mpr ⟨noE left, List.forall_mem_cons.mpr ⟨by decide, noE right⟩⟩

theorem takeWhile_eq (mantissa : Mantissa text whole fraction) :
    text.takeWhile (· ≠ '.') = whole := by
  have noDot {run : List Char} (digits : DigitRun run) := digits.forall_ne (c := '.') (by decide)
  cases mantissa with
  | plain run => exact List.takeWhile_eq_self_iff.mpr (noDot run)
  | point left right => exact takeWhile_append_of_apart (noDot left) rfl

theorem drop_eq (mantissa : Mantissa text whole fraction) :
    text.drop (whole.length + 1) = fraction := by
  cases mantissa with
  | plain run => exact List.drop_eq_nil_of_le (Nat.le_succ _)
  | point left right =>
    rw [← List.drop_drop, List.drop_left]
    rfl

theorem accepted (mantissa : Mantissa text whole fraction) :
    (Numeral.isRun whole && (decide (text = whole) || Numeral.isRun fraction)) = true := by
  cases mantissa with
  | plain run => simp only [isRun_of_digitRun run, decide_true, Bool.true_or, Bool.and_self]
  | point left right =>
    simp only [isRun_of_digitRun left, isRun_of_digitRun right, Bool.or_true, Bool.and_self]

/-- A text with a mantissa in front is read as its digits, with the exponent lowered by the number
of those behind the dot. -/
theorem ofText?_of_takeWhile (mantissa : Mantissa text whole fraction) {full : List Char}
    {exponent : ℤ} (front : full.takeWhile (· ≠ 'e') = text)
    (behind : (if full = text then some 0 else readExponent? (full.drop (text.length + 1))) =
      some exponent) :
    ofText? full = some ⟨Numeral.value (whole ++ fraction), exponent - fraction.length⟩ := by
  have whole_eq := mantissa.takeWhile_eq
  have fraction_eq := mantissa.drop_eq
  have accepted := mantissa.accepted
  unfold ofText?
  simp only [front, whole_eq, fraction_eq, accepted, if_true]
  by_cases alone : full = text
  · rw [if_pos alone] at behind ⊢
    rw [← Option.some.inj behind]
    rfl
  · rw [if_neg alone] at behind ⊢
    rw [behind]
    rfl

end Mantissa

/-- **A mantissa alone is read as its digits**, with the exponent that puts the dot in its place. -/
theorem Mantissa.ofText?_eq {text whole fraction : List Char}
    (mantissa : Mantissa text whole fraction) :
    ofText? text = some ⟨Numeral.value (whole ++ fraction), -fraction.length⟩ := by
  have front := List.takeWhile_eq_self_iff.mpr mantissa.ne_e
  rw [mantissa.ofText?_of_takeWhile front (if_pos rfl), zero_sub]

/-- **A mantissa with an exponent** is read with that exponent. -/
theorem Mantissa.ofText?_exponent {text whole fraction : List Char}
    (mantissa : Mantissa text whole fraction) (e : ℤ) :
    ofText? (text ++ 'e' :: exponentText e) =
      some ⟨Numeral.value (whole ++ fraction), e - fraction.length⟩ := by
  refine mantissa.ofText?_of_takeWhile (takeWhile_append_of_apart mantissa.ne_e rfl) ?_
  have longer : text ++ 'e' :: exponentText e ≠ text := fun same => by
    have lengths := congrArg List.length same
    rw [List.length_append, List.length_cons] at lengths
    omega
  rw [if_neg longer, ← List.drop_drop, List.drop_left]
  exact readExponent?_exponentText e

/-! ### The two notations -/

theorem length_zeros (count : ℤ) : (zeros count).length = count.toNat := List.length_replicate

/-- Zeros behind digits multiply their value. -/
theorem value_append_zeros (digits : List Char) (count : ℕ) :
    Numeral.value (digits ++ List.replicate count '0') = Numeral.value digits * 10 ^ count := by
  have zero := Numeral.value_zeros count []
  rw [List.append_nil] at zero
  rw [Numeral.value_append, zero, List.length_replicate]
  rfl

/-- **Digits with a dot at a place** are two runs, and have the value of the digits with the dot
there: all together are the digits, up to zeros behind them if the dot is. The dot can be before,
behind or among the digits. -/
theorem exists_positional {digits : List Char} (run : DigitRun digits) (point : ℤ) :
    ∃ whole fraction, ∃ more : ℕ, DigitRun whole ∧ DigitRun fraction ∧
      positional digits point = whole ++ '.' :: fraction ∧
      Numeral.value (whole ++ fraction) = Numeral.value digits * 10 ^ more ∧
      -(fraction.length : ℤ) = point - digits.length - more := by
  have zero : DigitRun ['0'] := Numeral.digitRun_of_isRun (by decide)
  unfold positional
  split
  · rename_i before
    refine ⟨['0'], zeros (-point) ++ digits, 0, zero, run.zeros_append _, rfl, ?_, ?_⟩
    · rw [pow_zero, mul_one]
      exact (Numeral.value_zeros 1 _).trans (Numeral.value_zeros _ digits)
    · rw [List.length_append, length_zeros]
      omega
  · split
    · rename_i _ behind
      refine ⟨digits ++ zeros (point - digits.length), ['0'], (point - digits.length).toNat + 1,
        run.append_zeros _, zero, by simp, ?_, ?_⟩
      · rw [← value_append_zeros, List.replicate_succ', List.append_assoc]
        rfl
      · rw [List.length_singleton]
        omega
    · rename_i after inside
      have front : DigitRun (digits.take point.toNat) := run.take (by omega)
      have behind : DigitRun (digits.drop point.toNat) := run.drop (by omega)
      refine ⟨_, _, 0, front, behind, rfl, ?_, ?_⟩
      · rw [List.take_append_drop, pow_zero, mul_one]
      · rw [List.length_drop]
        omega

/-- The first digit, the others behind a dot, and an exponent. -/
theorem exists_scientific {digits : List Char} (run : DigitRun digits) (e : ℤ) :
    ∃ mantissa, Mantissa mantissa (digits.take 1) (digits.drop 1) ∧
      scientific digits e = mantissa ++ 'e' :: exponentText e := by
  obtain ⟨nonempty, inside⟩ := run
  obtain ⟨first, more, rfl⟩ := List.exists_cons_of_ne_nil nonempty
  obtain ⟨digit, later⟩ := List.forall_mem_cons.mp inside
  have whole : DigitRun [first] := ⟨List.cons_ne_nil _ _, List.forall_mem_singleton.mpr digit⟩
  cases more with
  | nil => exact ⟨[first], .plain whole, rfl⟩
  | cons second more => exact ⟨_, .point whole ⟨List.cons_ne_nil _ _, later⟩, rfl⟩

/-- **The text of a decimal is read as its digits**, with zeros behind them that the exponent takes
back. -/
theorem ofText?_text (decimal : Decimal) : ∃ more : ℕ,
    ofText? decimal.text = some ⟨decimal.digits * 10 ^ more, decimal.exponent - more⟩ := by
  have run := Numeral.digitRun_toDigits decimal.digits
  have digits := Numeral.value_toDigits decimal.digits
  unfold text
  dsimp only
  split
  · obtain ⟨whole, fraction, more, left, right, same, value, place⟩ :=
      exists_positional run ((Nat.toDigits 10 decimal.digits).length + decimal.exponent)
    refine ⟨more, ?_⟩
    rw [same, (Mantissa.point left right).ofText?_eq, value, digits, place]
    congr 2
    omega
  · obtain ⟨mantissa, isMantissa, same⟩ :=
      exists_scientific run ((Nat.toDigits 10 decimal.digits).length + decimal.exponent - 1)
    refine ⟨0, ?_⟩
    have some := List.length_pos_iff.mpr run.1
    rw [same, isMantissa.ofText?_exponent, List.take_append_drop, digits, pow_zero, mul_one,
      List.length_drop]
    congr 2
    omega

/-- Two runs with a dot between denote the decimal that they are read as. -/
theorem denotes_of_ofText? {whole fraction : List Char} (left : DigitRun whole)
    (right : DigitRun fraction) {decimal : Decimal}
    (read : ofText? (whole ++ '.' :: fraction) = some decimal) :
    Denotes (whole ++ '.' :: fraction) decimal.value := by
  have own := (Mantissa.point left right).ofText?_eq
  obtain rfl := Option.some.inj (own.symm.trans read)
  refine ⟨whole, fraction, left, right, rfl, ?_⟩
  rw [← value_append_div, value, zpow_neg, zpow_natCast, ← div_eq_mul_inv, Nat.pow_eq,
    Nat.cast_pow]
  rfl

/-- A decimal with the first digit in range is written without an exponent. -/
theorem exists_text_eq {decimal : Decimal}
    (place : isPositional (width decimal.digits + decimal.exponent - 1) = true) :
    ∃ whole fraction, DigitRun whole ∧ DigitRun fraction ∧
      decimal.text = whole ++ '.' :: fraction := by
  obtain ⟨whole, fraction, -, left, right, same, -⟩ :=
    exists_positional (Numeral.digitRun_toDigits decimal.digits)
      (width decimal.digits + decimal.exponent)
  exact ⟨whole, fraction, left, right, same ▸ if_pos place⟩

end Decimal

namespace Binary64

open Decimal (significant)

variable {m u : ℕ}

/-- `10 ^ 16` is a number. -/
theorem representable_pow_sixteen : Representable (10 ^ (16 : ℤ)) :=
  ⟨5 ^ 16, 16, by norm_num, by norm_num, by norm_num, by norm_num⟩

/-- The first digit of the coarsest decimal has a place in range if the number is in range. -/
theorem isPositional_of_coarsest {decimal : Decimal} (canonical : Canonical m u) (positive : 0 < m)
    (coarsest : Decimal.Coarsest decimal (.finite false m u))
    (small : (10 : ℚ) ^ (-4 : ℤ) ≤ m * step u) (large : m * step u < (10 : ℚ) ^ (16 : ℤ)) :
    Decimal.isPositional (Decimal.width decimal.digits + decimal.exponent - 1) = true := by
  have least := coarsest.lt_place canonical small
  have greatest := coarsest.place_le positive representable_pow_sixteen large
  rw [Decimal.isPositional, Bool.and_eq_true, decide_eq_true_iff, decide_eq_true_iff]
  omega

/-- The text denotes a decimal that rounds to the number, and no such decimal has fewer digits.
Within a range the text has a dot and no exponent. -/
structure IsTextOf (text : List Char) (decimal : Decimal) (m u : ℕ) : Prop where
  read : Decimal.ofText? text = some decimal
  rounds : RoundsTo decimal.value (.finite false m u)
  fewest : 0 < m → ∀ other : Decimal, RoundsTo other.value (.finite false m u) →
    significant decimal.digits ≤ significant other.digits
  pointed : m = 0 ∨ (10 : ℚ) ^ (-4 : ℤ) ≤ m * step u ∧ m * step u < (10 : ℚ) ^ (16 : ℤ) →
    Denotes text decimal.value

theorem isTextOf_zero : IsTextOf ['0', '.', '0'] ⟨0, -1⟩ 0 0 := by
  have run : DigitRun ['0'] := Numeral.digitRun_of_isRun (by decide)
  have read : Decimal.ofText? (['0'] ++ '.' :: ['0']) = some ⟨0, -1⟩ := by decide +kernel
  have zero : (⟨0, -1⟩ : Decimal).value = 0 := by rw [Decimal.value, Nat.cast_zero, zero_mul]
  exact {
    read
    rounds := by
      rw [zero]
      exact roundsTo_zero
    fewest := fun positive => absurd positive (Nat.lt_irrefl 0)
    pointed := fun _ => Decimal.denotes_of_ofText? run run read }

theorem exists_isTextOf_of_coarsest {decimal : Decimal} (canonical : Canonical m u)
    (positive : 0 < m) (coarsest : Decimal.Coarsest decimal (.finite false m u)) :
    ∃ same : Decimal, IsTextOf decimal.text same m u := by
  obtain ⟨more, read⟩ := Decimal.ofText?_text decimal
  have same : (⟨decimal.digits * 10 ^ more, decimal.exponent - more⟩ : Decimal).value =
      decimal.value := by
    rw [Decimal.value_mul_pow, add_sub_cancel]
  refine ⟨_, read, ?_, fun _ other rounds => ?_, ?_⟩
  · rw [same]
    exact coarsest.rounds
  · rw [Decimal.significant_mul_pow]
    exact coarsest.significant_le_significant positive rounds
  · rintro (zero | ⟨small, large⟩)
    · exact absurd zero positive.ne'
    · obtain ⟨whole, fraction, left, right, written⟩ :=
        Decimal.exists_text_eq (isPositional_of_coarsest canonical positive coarsest small large)
      rw [written] at read ⊢
      exact Decimal.denotes_of_ofText? left right read

/-- **Every number has its text.** -/
theorem exists_isTextOf (canonical : Canonical m u) :
    ∃ decimal : Decimal, IsTextOf (unsignedText m u) decimal m u := by
  rcases Nat.eq_zero_or_pos m with rfl | positive
  · obtain rfl : u = 0 := canonical.full.resolve_right (by norm_num)
    exact ⟨_, isTextOf_zero⟩
  · have text : unsignedText m u = (Decimal.shortest m u).text := if_neg positive.ne'
    rw [text]
    exact exists_isTextOf_of_coarsest canonical positive
      (Decimal.coarsest_shortest canonical positive)

end Binary64

end LoopLex
