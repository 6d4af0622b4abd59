/-
**Literal values**: what a literal token stands for.

Whole numbers, floating-point numbers and truth values are numbers, and compare by their exact
value; `true` is 1 and `false` is 0. A text equals only the same text.

* `Literal.debugText` — the value as it would be written down;
* `Literal.equals` — equality of values.
-/

import LoopLex.Number.FloatText
import LoopLex.Text.Quoted

namespace LoopLex

/-- The value of a literal. -/
inductive Literal where
  | int (value : Int)
  | float (value : Binary64)
  | bool (value : Bool)
  | text (value : String)
deriving DecidableEq, Repr

namespace Literal

/-- The value as it would be written down, a text between quotes. -/
def debugText : Literal → Except Misuse String
  | int value => Numeral.write value
  | float value => return value.text
  | bool value => return if value then "True" else "False"
  | text value => return quoted value

/-- What the equality of literals looks at. -/
inductive Comparand where
  /-- A finite number, in units of `2 ^ -1074`. -/
  | number (scaled : Int)
  /-- An infinity. -/
  | infinite (negative : Bool)
  /-- A text. -/
  | text (value : String)
deriving DecidableEq

/-- The comparand of a number, which is missing only from the result that is no number. -/
def comparandOfNumber : Binary64 → Option Comparand
  | .infinite negative => some (.infinite negative)
  | number => number.scaled?.map .number

/-- The comparand of a literal. -/
def comparand? : Literal → Option Comparand
  | int value => some (.number (value * Binary64.unitsInOne))
  | float value => comparandOfNumber value
  | bool value => some (.number (if value then Binary64.unitsInOne else 0))
  | text value => some (.text value)

/-- Whether two literals have the same value. What is no number equals nothing. -/
def equals (first second : Literal) : Bool :=
  match first.comparand?, second.comparand? with
  | some a, some b => a = b
  | _, _ => false

end Literal

end LoopLex
