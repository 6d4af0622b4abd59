/-
**Numerals**: the value of a run of decimal digits, of any scripts, and of two runs with a dot
between, and an integer as a run of digits.

Integers are read and written with a bounded number of digits only. For fractions no bound is known
that a text could reach, and none is set here.

* `Numeral.value` — the natural number that a run of digits denotes;
* `Numeral.integer` — a run of digits, of a bounded length, as a natural number;
* `Numeral.fraction` — two runs with a dot between, of any length, as the nearest `Binary64`;
* `Numeral.write` — an integer, of a bounded length, as text.
-/

import LoopLex.Misuse
import LoopLex.Number.Binary64
import LoopLex.Unicode.DecimalDigit

namespace LoopLex.Numeral

open Unicode (isDigit digitValue?)

/-- Why a text has no value as a numeral. -/
inductive Refusal where
  /-- It does not have the form of a numeral. -/
  | malformed
  /-- It has more digits than an integer may have. -/
  | tooLong (digits : Nat)
deriving DecidableEq, Repr

/-- The greatest number of digits of an integer that is read or written, leading zeros counted and
the sign not. -/
def maxDigits : Nat := 4300

/-- The value of a digit, and zero for any other character. -/
def digitValue (c : Char) : Nat := (digitValue? c).getD 0

/-- The natural number that a run of digits denotes, the first digit weighing most. -/
def value (digits : List Char) : Nat := digits.foldl (fun n c => 10 * n + digitValue c) 0

/-- Whether the text is a run of one or more digits. -/
def isRun (text : List Char) : Bool := !text.isEmpty && text.all isDigit

/-- The value of a run of digits that is not too long. -/
def integer (text : List Char) : Except Refusal Nat :=
  if !isRun text then .error .malformed
  else if maxDigits < text.length then .error (.tooLong text.length)
  else .ok (value text)

/-- The number nearest to the value of two runs of digits with a dot between. -/
def fraction (text : List Char) : Except Refusal Binary64 :=
  let whole := text.takeWhile isDigit
  match text.dropWhile isDigit with
  | '.' :: digits =>
    if isRun whole && isRun digits then
      .ok (.ofRatio (value (whole ++ digits)) (Nat.pow 10 digits.length))
    else .error .malformed
  | _ => .error .malformed

/-- The least natural number with more than `maxDigits` digits. -/
def limit : Nat := Nat.pow 10 maxDigits

/-- The integer has no more digits than can be written. -/
def Writable (n : Int) : Prop := n.natAbs < limit

instance : DecidablePred Writable := fun n => Nat.decLt n.natAbs limit

/-- The integer as text: its digits, with a sign in front if it is negative. -/
def write (n : Int) : Except Misuse String :=
  if Writable n then .ok (toString n) else .error (.unwritable n)

theorem write_of_writable {n : Int} (writable : Writable n) : write n = .ok (toString n) :=
  if_pos writable

theorem write_of_not_writable {n : Int} (long : ¬ Writable n) : write n = .error (.unwritable n) :=
  if_neg long

theorem eq_toString_of_write {n : Int} {text : String} (written : write n = .ok text) :
    text = toString n := by
  by_cases writable : Writable n
  · rw [write_of_writable writable] at written
    exact (Except.ok.inj written).symm
  · rw [write_of_not_writable writable] at written
    cases written

end LoopLex.Numeral
