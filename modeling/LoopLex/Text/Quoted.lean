/-
**Quoted text**: a text between quotes, in which every character is visible and no two texts look
alike.

Single quotes are used, unless the text holds a single quote and no double quote. The quote in use
and the backslash stand behind a backslash; newline, carriage return and tab have a letter; any
other character that is not printable is given by its code point in two, four or eight hexadecimal
digits.
-/

import LoopLex.Unicode.Printable

namespace LoopLex.Quoted

/-- The last `width` hexadecimal digits of `n`. -/
def hexDigits : Nat → Nat → List Char
  | 0, _ => []
  | width + 1, n => hexDigits width (n / 16) ++ [Nat.digitChar (n % 16)]

/-- A character that is not printable, by its code point in the least of the three widths. -/
def codePoint (c : Char) : List Char :=
  if c.toNat < 0x100 then '\\' :: 'x' :: hexDigits 2 c.toNat
  else if c.toNat < 0x10000 then '\\' :: 'u' :: hexDigits 4 c.toNat
  else '\\' :: 'U' :: hexDigits 8 c.toNat

/-- How `c` is written between quotes `quote`. -/
def escape (quote c : Char) : List Char :=
  if c = '\\' ∨ c = quote then ['\\', c]
  else if c = '\n' then ['\\', 'n']
  else if c = '\r' then ['\\', 'r']
  else if c = '\t' then ['\\', 't']
  else if Unicode.isPrintable c then [c]
  else codePoint c

/-- The quote that `text` is written with. -/
def quoteFor (text : List Char) : Char :=
  if '\'' ∈ text ∧ '"' ∉ text then '"' else '\''

/-- A text between quotes. -/
def encode (text : List Char) : List Char :=
  quoteFor text :: text.flatMap (escape (quoteFor text)) ++ [quoteFor text]

end LoopLex.Quoted

namespace LoopLex

/-- The text between quotes, with every character visible. -/
def quoted (text : String) : String := String.ofList (Quoted.encode text.toList)

end LoopLex
