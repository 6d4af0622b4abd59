/-
**Text on one line**: a newline and a NUL are written as a backslash and a letter or digit, so that
a message that quotes source text keeps its rows.
-/

namespace LoopLex

/-- How `c` is written on one line. -/
def oneLineChar (c : Char) : List Char :=
  if c = '\n' then ['\\', 'n'] else if c = '\x00' then ['\\', '0'] else [c]

/-- The text with every newline and NUL written visibly, and nothing else changed. -/
def oneLine (text : String) : String := String.ofList (text.toList.flatMap oneLineChar)

end LoopLex
