/-
**Laying tokens out as text**: each token at its own line and column, with newlines and spaces
between.

* `Layout.gap?` — the newlines and spaces from one place to another, if it is not behind the first;
* `Layout.render?` — a list of tokens as text, if every token starts where the one before allows.
-/

import LoopLex.Token.Basic

namespace LoopLex.Layout

/-- Newlines up to the line of `goal`, and spaces up to its column. -/
def gap? (place goal : Position) : Option (List Char) :=
  let column := if place.line < goal.line then 1 else place.column
  if place.line ≤ goal.line ∧ column ≤ goal.column then
    some (List.replicate (goal.line - place.line).toNat '\n' ++
      List.replicate (goal.column - column).toNat ' ')
  else none

/-- The text that a token stands for: nothing for the end of input. -/
def written (token : Token) : List Char :=
  if token.kind = .endOfInput then [] else token.lexeme.toList

/-- Tokens as text that starts at `place`. -/
def render? : Position → List Token → Option (List Char)
  | _, [] => some []
  | place, token :: tokens => do
    let gap ← gap? place ⟨token.line, token.columnStart⟩
    let text := gap ++ written token
    return text ++ (← render? (place.afterText text) tokens)

end LoopLex.Layout
