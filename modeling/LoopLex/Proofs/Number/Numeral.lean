/-
**The values of runs of digits.** A run denotes a sum of powers of ten, and every natural number is
the value of its own decimal digits.

A digit of any script counts with its value alone, and a zero in front of a run not at all. So the
value of a run tells its digits, up to their script and up to the zeros in front.

* `DigitRun.zeros_append`, `DigitRun.append_zeros`, `DigitRun.take` and `DigitRun.drop` — runs made
  of runs;
* `value_append` and `value_eq_sum` — the digits of a run weigh by their place;
* `value_lt` — a value is below the power of ten of the number of digits;
* `value_toDigits` — the value of the decimal digits of a number;
* `plain_eq_toDigits` — ASCII digits without zeros in front are those of the value.
-/

import LoopLex.Proofs.Scan.Scripts
import Mathlib.Algebra.BigOperators.Fin
import Mathlib.Tactic.Ring

namespace LoopLex

open Unicode (isDigit digitValue?)

/-! ### Runs of digits -/

namespace DigitRun

variable {digits : List Char} (run : DigitRun digits)
include run

theorem forall_ne {c : Char} (other : isDigit c = false) : ∀ d ∈ digits, decide (d ≠ c) = true := by
  intro d inside
  refine decide_eq_true fun same => ?_
  rw [← same, run.2 d inside] at other
  exact Bool.noConfusion other

theorem zeros_append (count : Nat) : DigitRun (List.replicate count '0' ++ digits) := by
  refine ⟨fun empty => run.1 (List.append_eq_nil_iff.mp empty).2,
    List.forall_mem_append.mpr ⟨fun c zero => ?_, run.2⟩⟩
  rw [List.eq_of_mem_replicate zero]
  rfl

theorem append_zeros (count : Nat) : DigitRun (digits ++ List.replicate count '0') := by
  refine ⟨fun empty => run.1 (List.append_eq_nil_iff.mp empty).1,
    List.forall_mem_append.mpr ⟨run.2, fun c zero => ?_⟩⟩
  rw [List.eq_of_mem_replicate zero]
  rfl

theorem take {count : Nat} (positive : 0 < count) : DigitRun (digits.take count) := by
  refine ⟨fun empty => ?_, fun c member => run.2 c (List.mem_of_mem_take member)⟩
  rcases List.take_eq_nil_iff.mp empty with none | nil
  · exact positive.ne' none
  · exact run.1 nil

theorem drop {count : Nat} (less : count < digits.length) : DigitRun (digits.drop count) :=
  ⟨fun empty => less.not_ge (List.drop_eq_nil_iff.mp empty),
    fun c member => run.2 c (List.mem_of_mem_drop member)⟩

end DigitRun

namespace Numeral

theorem digitRun_of_isRun {digits : List Char} (run : isRun digits = true) : DigitRun digits := by
  obtain ⟨nonempty, inside⟩ := Bool.and_eq_true_iff.mp run
  refine ⟨fun empty => ?_, List.all_eq_true.mp inside⟩
  rw [empty] at nonempty
  exact Bool.noConfusion nonempty

/-! ### Digits by their place -/

theorem digitValue_lt (c : Char) : digitValue c < 10 := by
  unfold digitValue
  cases found : digitValue? c with
  | none => exact Nat.succ_pos 9
  | some value => exact lt_ten_of_digitValueFrom found

/-- A value that is started with counts as digits in front. -/
theorem foldl_value (digits : List Char) (start : Nat) :
    digits.foldl (fun n c => 10 * n + digitValue c) start =
      start * 10 ^ digits.length + value digits := by
  induction digits generalizing start with
  | nil => simp [value]
  | cons c digits ih =>
    have first := ih (10 * start + digitValue c)
    have alone : value (c :: digits) =
        (10 * 0 + digitValue c) * 10 ^ digits.length + value digits :=
      ih (10 * 0 + digitValue c)
    rw [List.foldl_cons, first, alone, List.length_cons]
    ring

/-- **The digits in front weigh by the number of those behind.** -/
theorem value_append (first second : List Char) :
    value (first ++ second) = value first * 10 ^ second.length + value second := by
  rw [value, List.foldl_append, foldl_value]
  rfl

theorem value_cons (c : Char) (digits : List Char) :
    value (c :: digits) = digitValue c * 10 ^ digits.length + value digits := by
  have single : value [c] = digitValue c := Nat.zero_add _
  rw [← List.singleton_append, value_append, single]

/-- **A value is below the power of ten of the number of its digits.** -/
theorem value_lt (digits : List Char) : value digits < 10 ^ digits.length := by
  induction digits with
  | nil => exact Nat.one_pos
  | cons c digits ih =>
    have digit := digitValue_lt c
    calc value (c :: digits)
        = digitValue c * 10 ^ digits.length + value digits := value_cons c digits
      _ < (digitValue c + 1) * 10 ^ digits.length := by rw [Nat.succ_mul]; omega
      _ ≤ 10 * 10 ^ digits.length := Nat.mul_le_mul_right _ digit
      _ = 10 ^ (c :: digits).length := by rw [List.length_cons, pow_succ, Nat.mul_comm]

/-- **A run of digits denotes a sum of powers of ten**, each taken as often as its digit says. -/
theorem value_eq_sum (digits : List Char) :
    value digits =
      ∑ i : Fin digits.length, digitValue (digits.get i) * 10 ^ (digits.length - 1 - i) := by
  induction digits with
  | nil => rfl
  | cons c digits ih =>
    have split := Fin.sum_univ_succ fun i : Fin (digits.length + 1) =>
      digitValue ((c :: digits).get i) * 10 ^ (digits.length + 1 - 1 - i)
    rw [value_cons, ih]
    refine Eq.trans ?_ split.symm
    congr 1
    refine Finset.sum_congr rfl fun i _ => ?_
    have place : digits.length + 1 - 1 - (i.succ : Nat) = digits.length - 1 - i := by
      rw [Fin.val_succ]
      omega
    rw [place]
    rfl

theorem value_zeros (count : Nat) (digits : List Char) :
    value (List.replicate count '0' ++ digits) = value digits := by
  have zeros : value (List.replicate count '0') = 0 := by
    induction count with
    | zero => rfl
    | succ count ih =>
      rw [List.replicate_succ, value_cons, ih]
      show 0 * _ + 0 = 0
      rw [Nat.zero_mul]
  rw [value_append, zeros, Nat.zero_mul, Nat.zero_add]

/-! ### The digits of a number -/

theorem digitValue_digitChar {d : Nat} (less : d < 10) : digitValue (Nat.digitChar d) = d := by
  rw [digitValue, digitValue?_digitChar less]
  rfl

/-- **A number is the value of its decimal digits.** -/
theorem value_toDigits (n : Nat) : value (Nat.toDigits 10 n) = n := by
  induction n using Nat.strongRecOn with
  | _ n ih =>
    rw [Nat.toDigits_eq_if (by decide)]
    split
    · rename_i small
      exact (Nat.zero_add _).trans (digitValue_digitChar small)
    · have shorter : n / 10 < n := by omega
      have last : n % 10 < 10 := by omega
      rw [value_append, ih _ shorter]
      show n / 10 * 10 ^ 1 + (0 + digitValue _) = n
      rw [digitValue_digitChar last]
      omega

/-- Every decimal digit of a number is an ASCII digit. -/
theorem exists_digitChar_of_mem_toDigits {c : Char} {n : Nat} (member : c ∈ Nat.toDigits 10 n) :
    ∃ d < 10, c = Nat.digitChar d := by
  induction n using Nat.strongRecOn with
  | _ n ih =>
    rw [Nat.toDigits_eq_if (by decide)] at member
    split at member
    · rename_i small
      exact ⟨n, small, List.mem_singleton.mp member⟩
    · rcases List.mem_append.mp member with front | last
      · exact ih _ (by omega) front
      · exact ⟨n % 10, by omega, List.mem_singleton.mp last⟩

theorem isDigit_digitChar {d : Nat} (less : d < 10) : isDigit (Nat.digitChar d) = true :=
  Option.isSome_iff_exists.mpr ⟨d, digitValue?_digitChar less⟩

theorem isDigit_of_mem_toDigits {c : Char} {n : Nat} (member : c ∈ Nat.toDigits 10 n) :
    isDigit c = true := by
  obtain ⟨d, less, rfl⟩ := exists_digitChar_of_mem_toDigits member
  exact isDigit_digitChar less

theorem digitRun_toDigits (n : Nat) : DigitRun (Nat.toDigits 10 n) :=
  ⟨Nat.toDigits_ne_nil, fun _ => isDigit_of_mem_toDigits⟩

/-! ### Runs with the same value -/

/-- The digits as ASCII digits, without the zeros in front of the others, and one zero if there are
no others. -/
def plain (digits : List Char) : List Char :=
  match (digits.map plainDigit).dropWhile (· = '0') with
  | [] => ['0']
  | c :: more => c :: more

theorem plainDigit_eq_digitChar {c : Char} (digit : isDigit c = true) :
    plainDigit c = Nat.digitChar (digitValue c) := by
  obtain ⟨value, found⟩ := Option.isSome_iff_exists.mp digit
  rw [plainDigit, digitValue, found]
  rfl

theorem value_map_plainDigit (digits : List Char) : value (digits.map plainDigit) = value digits :=
  value_respell respelling_plainDigit digits

/-- More ASCII digits behind those of a number that is not zero are digits of a greater one. -/
theorem toDigits_append {digits : List Char} (ascii : ∀ c ∈ digits, ∃ d < 10, c = Nat.digitChar d)
    {n : Nat} (positive : 0 < n) :
    Nat.toDigits 10 n ++ digits = Nat.toDigits 10 (n * 10 ^ digits.length + value digits) := by
  rw [← foldl_value]
  induction digits generalizing n with
  | nil => exact List.append_nil _
  | cons c digits ih =>
    obtain ⟨⟨d, less, rfl⟩, later⟩ := List.forall_mem_cons.mp ascii
    have next : Nat.toDigits 10 n ++ [Nat.digitChar d] = Nat.toDigits 10 (10 * n + d) := by
      rw [← Nat.toDigits_append_toDigits (by decide) positive less, Nat.toDigits_of_lt_base less]
    rw [List.append_cons, next, ih later (by omega), List.foldl_cons, digitValue_digitChar less]

/-- ASCII digits that do not start with a zero are those of their value. -/
theorem eq_toDigits_value {c : Char} {digits : List Char}
    (ascii : ∀ d ∈ c :: digits, ∃ n < 10, d = Nat.digitChar n) (noZero : c ≠ '0') :
    c :: digits = Nat.toDigits 10 (value (c :: digits)) := by
  obtain ⟨⟨d, less, rfl⟩, later⟩ := List.forall_mem_cons.mp ascii
  have positive : 0 < d := Nat.pos_of_ne_zero fun zero => noZero (Nat.digitChar_eq_zero.mpr zero)
  rw [value_cons, digitValue_digitChar less, ← toDigits_append later positive,
    Nat.toDigits_of_lt_base less]
  rfl

/-- **ASCII digits without zeros in front are the digits of the value.** -/
theorem plain_eq_toDigits {digits : List Char} (inside : ∀ c ∈ digits, isDigit c = true) :
    plain digits = Nat.toDigits 10 (value digits) := by
  have ascii : ∀ c ∈ digits.map plainDigit, ∃ d < 10, c = Nat.digitChar d := by
    refine List.forall_mem_map.mpr fun c member => ?_
    exact ⟨digitValue c, digitValue_lt c, plainDigit_eq_digitChar (inside c member)⟩
  have zeros : (digits.map plainDigit).takeWhile (· = '0') =
      List.replicate ((digits.map plainDigit).takeWhile (· = '0')).length '0' :=
    List.eq_replicate_iff.mpr ⟨rfl, fun c member => of_decide_eq_true (of_mem_takeWhile c member)⟩
  have same : value ((digits.map plainDigit).dropWhile (· = '0')) = value digits := by
    rw [← value_map_plainDigit digits, ← value_zeros, ← zeros, List.takeWhile_append_dropWhile]
  have stops := head?_dropWhile_any (· = '0') (digits.map plainDigit)
  unfold plain
  split
  · rename_i none
    rw [none] at same
    rw [← same]
    rfl
  · rename_i c more split
    rw [split] at same stops
    rw [← same]
    refine eq_toDigits_value (fun d member => ascii d ?_) (of_decide_eq_false stops)
    exact (List.dropWhile_sublist _).subset (split ▸ member)

/-- **Runs have the same value if they have the same ASCII digits**, zeros in front left out. -/
theorem value_eq_iff_plain_eq {first second : List Char} (left : ∀ c ∈ first, isDigit c = true)
    (right : ∀ c ∈ second, isDigit c = true) :
    value first = value second ↔ plain first = plain second := by
  rw [plain_eq_toDigits left, plain_eq_toDigits right]
  constructor
  · intro same
    rw [same]
  · intro same
    rw [← value_toDigits (value first), same, value_toDigits]

end Numeral

end LoopLex
