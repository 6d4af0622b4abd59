/-
**Floating-point numbers as text**: the shortest decimal digits that stand for the number, written
with a dot, and with an exponent only if the number is very large or very small. A text that is read
back may have any number of digits.

* `Decimal.text` — digits with a dot or an exponent;
* `Binary64.text` — the text of a number, `inf`, `-inf` and `nan` included;
* `Binary64.ofText?` — the number that such a text stands for.
-/

import LoopLex.Number.Decimal
import LoopLex.Number.Numeral

namespace LoopLex

namespace Decimal

/-- Whether a number is written without an exponent: the first digit weighs at least `10 ^ -4` and
less than `10 ^ 16`. -/
def isPositional (leading : Int) : Bool := -4 ≤ leading && leading < 16

/-- A number of zeros. -/
def zeros (count : Int) : List Char := List.replicate count.toNat '0'

/-- Digits with the dot behind the first `point` of them, and at least one digit on either side. -/
def positional (digits : List Char) (point : Int) : List Char :=
  if point ≤ 0 then '0' :: '.' :: zeros (-point) ++ digits
  else if digits.length ≤ point then digits ++ zeros (point - digits.length) ++ ['.', '0']
  else digits.take point.toNat ++ '.' :: digits.drop point.toNat

/-- An exponent: its sign, and at least two digits. -/
def exponentText (exponent : Int) : List Char :=
  let digits := Nat.toDigits 10 exponent.natAbs
  (if exponent < 0 then '-' else '+') :: (if digits.length < 2 then '0' :: digits else digits)

/-- Digits with the dot behind the first of them, if any digit follows, and an exponent. -/
def scientific (digits : List Char) (exponent : Int) : List Char :=
  let fraction := digits.drop 1
  digits.take 1 ++ (if fraction.isEmpty then [] else '.' :: fraction) ++
    'e' :: exponentText exponent

/-- The decimal with a dot or an exponent. -/
def text (decimal : Decimal) : List Char :=
  let digits := Nat.toDigits 10 decimal.digits
  let point := digits.length + decimal.exponent
  if isPositional (point - 1) then positional digits point else scientific digits (point - 1)

/-- The exponent that `text` denotes: an optional sign, and digits. -/
def readExponent? : List Char → Option Int
  | '-' :: digits => if Numeral.isRun digits then some (-(Numeral.value digits : Int)) else none
  | '+' :: digits => if Numeral.isRun digits then some (Numeral.value digits) else none
  | digits => if Numeral.isRun digits then some (Numeral.value digits) else none

/-- The decimal that `text` denotes: digits, and possibly a dot with digits and an `e` with an
exponent. -/
def ofText? (text : List Char) : Option Decimal := do
  let mantissa := text.takeWhile (· ≠ 'e')
  let whole := mantissa.takeWhile (· ≠ '.')
  let fraction := mantissa.drop (whole.length + 1)
  let exponent ← if text = mantissa then some 0 else readExponent? (text.drop (mantissa.length + 1))
  if Numeral.isRun whole && (mantissa = whole || Numeral.isRun fraction) then
    some ⟨Numeral.value (whole ++ fraction), exponent - fraction.length⟩
  else none

end Decimal

namespace Binary64

/-- The text of a number without a sign. -/
def unsignedText (significand unit : Nat) : List Char :=
  if significand = 0 then ['0', '.', '0'] else (Decimal.shortest significand unit).text

/-- The number as text. -/
def text : Binary64 → String
  | nan => "nan"
  | infinite negative => if negative then "-inf" else "inf"
  | finite negative significand unit =>
    String.ofList ((if negative then ['-'] else []) ++ unsignedText significand unit)

/-- The number without a sign that `text` stands for. -/
def unsigned? (text : List Char) : Option Binary64 :=
  if text = ['n', 'a', 'n'] then some nan
  else if text = ['i', 'n', 'f'] then some (infinite false)
  else (Decimal.ofText? text).map Decimal.toBinary64

/-- The number that `text` stands for. -/
def ofText? (text : String) : Option Binary64 :=
  match text.toList with
  | '-' :: digits => (unsigned? digits).map negate
  | digits => unsigned? digits

end Binary64

end LoopLex
