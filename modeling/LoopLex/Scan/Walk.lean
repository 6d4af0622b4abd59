/-
**Walking over a piece of a text**, one character at a time and with nothing but a cursor.

A walk decides by the next character, or by the next two, whether it goes on. Past the end of the
text it sees NULs. It has to tell them from a NUL of the text only inside of quotes, where any
character may stand, and there it asks for the end of the text.

* `Cursor.advanceWhile` — takes characters as long as a test of the cursor holds;
* `Cursor.takeIf` — takes one character if it is the expected one;
* `walk` — the piece behind the mark, taken to its end, and what it was found to be;
* `settle` — what a scan does with the finding;
* `length_ahead_of_walk` — every walk takes at least one character.
-/

import LoopLex.Scan.Basic

namespace LoopLex

open Unicode (isDigit isLetter)

/-- Takes characters as long as `going` holds of the cursor. -/
def Cursor.advanceWhile (going : Cursor → Bool) (cursor : Cursor) : Except Misuse Cursor :=
  if going cursor then
    match moved : cursor.advance with
    | .error misuse => .error misuse
    | .ok (_, next) =>
      have _shorter := length_ahead_of_advance moved
      next.advanceWhile going
  else .ok cursor
termination_by cursor.ahead.length

/-- Takes the next character if it is `expected`, and says whether it was. -/
def Cursor.takeIf (expected : Char) (cursor : Cursor) : Except Misuse (Bool × Cursor) := do
  if cursor.atEnd || cursor.peek ≠ expected then return (false, cursor)
  let (_, next) ← cursor.advance
  return (true, next)

namespace Scan

/-- What a piece of a text was found to be. -/
inductive Finding where
  /-- A character that separates words. -/
  | blank
  /-- A word. -/
  | word (shape : Shape)
  /-- No word, for the reason given. -/
  | flaw (cause : Cause)
deriving DecidableEq, Repr

/-- Takes a string whose opening quote is taken. -/
def walkString (cursor : Cursor) : Except Misuse (Finding × Cursor) := do
  let inside ← cursor.advanceWhile fun cursor => cursor.peek ≠ '"' && !cursor.atEnd
  if inside.atEnd then return (.flaw .openString, inside)
  let (_, last) ← inside.advance
  return (.word .string, last)

/-- Takes a character literal whose opening quote is taken. -/
def walkChar (cursor : Cursor) : Except Misuse (Finding × Cursor) := do
  if cursor.atEnd || cursor.peekNext = '\x00' then return (.flaw .openChar, cursor)
  let (_, inside) ← cursor.advance
  if inside.peek ≠ '\'' then return (.flaw .openChar, inside)
  let (_, last) ← inside.advance
  return (.word .char, last)

/-- What a number is whose last digit is taken. -/
def endOfNumber (shape : Shape) (cursor : Cursor) : Finding × Cursor :=
  (if isLetter cursor.peek then .flaw .letterAfterNumber else .word shape, cursor)

/-- Takes a number whose first digit is taken. -/
def walkNumber (cursor : Cursor) : Except Misuse (Finding × Cursor) := do
  let whole ← cursor.advanceWhile fun cursor => isDigit cursor.peek
  if whole.peek = '.' && isDigit whole.peekNext then
    let (_, dot) ← whole.advance
    let last ← dot.advanceWhile fun cursor => isDigit cursor.peek
    return endOfNumber .fraction last
  return endOfNumber .integer whole

/-- Takes a name whose first character is taken. -/
def walkName (cursor : Cursor) : Except Misuse (Finding × Cursor) := do
  let last ← cursor.advanceWhile fun cursor => isNamePart cursor.peek
  return (.word .name, last)

/-- Takes what `c` starts, which is no operator of the tables and is taken. -/
def walkOther (c : Char) (cursor : Cursor) : Except Misuse (Finding × Cursor) :=
  if c = '!' then do
    let (taken, last) ← cursor.takeIf '='
    return (if taken then .word (.symbol .notEqual) else .flaw .strayBang, last)
  else if c ∈ Vocabulary.blanks then .ok (.blank, cursor)
  else if c = '"' then walkString cursor
  else if c = '\'' then walkChar cursor
  else if isDigit c then walkNumber cursor
  else if isNameStart c then walkName cursor
  else .ok (.flaw .strayCharacter, cursor)

/-- Takes one piece of the text and tells what it is. -/
def walk (cursor : Cursor) : Except Misuse (Finding × Cursor) := do
  let (c, next) ← cursor.advance
  match Vocabulary.singles.lookup c, Vocabulary.equalsSuffix.lookup c with
  | some kind, _ => return (.word (.symbol kind), next)
  | none, some (plain, withEquals) =>
    let (taken, last) ← next.takeIf '='
    return (.word (.symbol (if taken then withEquals else plain)), last)
  | none, none => walkOther c next

/-- What a scan does with a finding: no token for a blank, a token for a word, and an end. -/
def settle (options : Options) : Finding × Cursor → Traced (Option Token × Cursor)
  | (.blank, last) => pure (none, last)
  | (.word shape, last) => do return (some (← tokenOf options shape last), last)
  | (.flaw cause, last) => abort options cause last

end Scan

/-! ### Every walk takes at least one character -/

namespace Cursor

variable {cursor last : Cursor}

theorem length_ahead_of_advanceWhile {going : Cursor → Bool}
    (looped : cursor.advanceWhile going = .ok last) :
    last.ahead.length ≤ cursor.ahead.length := by
  fun_induction advanceWhile going cursor with
  | case1 cursor goes misuse moved => cases looped
  | case2 cursor goes c next moved shorter ih =>
    have rest := ih looped
    omega
  | case3 cursor stops =>
    cases looped
    exact Nat.le_refl _

theorem length_ahead_of_takeIf {expected : Char} {taken : Bool}
    (moved : cursor.takeIf expected = .ok (taken, last)) :
    last.ahead.length ≤ cursor.ahead.length := by
  unfold takeIf at moved
  split at moved
  · cases moved
    exact Nat.le_refl _
  · obtain ⟨⟨c, next⟩, advanced, rest⟩ := exists_of_bind_eq_ok moved
    cases rest
    have shorter := length_ahead_of_advance advanced
    omega

end Cursor

namespace Scan

variable {cursor last : Cursor} {finding : Finding}

theorem length_ahead_of_walkString (walked : walkString cursor = .ok (finding, last)) :
    last.ahead.length ≤ cursor.ahead.length := by
  obtain ⟨inside, looped, rest⟩ := exists_of_bind_eq_ok walked
  have behind := Cursor.length_ahead_of_advanceWhile looped
  split at rest
  · cases rest
    exact behind
  · obtain ⟨⟨c, next⟩, advanced, ended⟩ := exists_of_bind_eq_ok rest
    cases ended
    have shorter := Cursor.length_ahead_of_advance advanced
    omega

theorem length_ahead_of_walkChar (walked : walkChar cursor = .ok (finding, last)) :
    last.ahead.length ≤ cursor.ahead.length := by
  unfold walkChar at walked
  split at walked
  · cases walked
    exact Nat.le_refl _
  · obtain ⟨⟨c, inside⟩, advanced, rest⟩ := exists_of_bind_eq_ok walked
    have shorter := Cursor.length_ahead_of_advance advanced
    dsimp only at rest
    split at rest
    · cases rest
      omega
    · obtain ⟨⟨quote, next⟩, closed, ended⟩ := exists_of_bind_eq_ok rest
      cases ended
      have behind : next.ahead.length + 1 = inside.ahead.length :=
        Cursor.length_ahead_of_advance closed
      show next.ahead.length ≤ cursor.ahead.length
      omega

theorem length_ahead_of_walkNumber (walked : walkNumber cursor = .ok (finding, last)) :
    last.ahead.length ≤ cursor.ahead.length := by
  obtain ⟨whole, looped, rest⟩ := exists_of_bind_eq_ok walked
  have behind := Cursor.length_ahead_of_advanceWhile looped
  split at rest
  · obtain ⟨⟨point, dot⟩, advanced, digits⟩ := exists_of_bind_eq_ok rest
    obtain ⟨stop, loopedAgain, ended⟩ := exists_of_bind_eq_ok digits
    cases ended
    have shorter := Cursor.length_ahead_of_advance advanced
    have farther := Cursor.length_ahead_of_advanceWhile loopedAgain
    omega
  · cases rest
    exact behind

theorem length_ahead_of_walkName (walked : walkName cursor = .ok (finding, last)) :
    last.ahead.length ≤ cursor.ahead.length := by
  obtain ⟨stop, looped, ended⟩ := exists_of_bind_eq_ok walked
  cases ended
  exact Cursor.length_ahead_of_advanceWhile looped

theorem length_ahead_of_walkOther {c : Char}
    (walked : walkOther c cursor = .ok (finding, last)) :
    last.ahead.length ≤ cursor.ahead.length := by
  unfold walkOther at walked
  split at walked
  · obtain ⟨⟨taken, next⟩, moved, ended⟩ := exists_of_bind_eq_ok walked
    cases ended
    exact Cursor.length_ahead_of_takeIf moved
  split at walked
  · cases walked
    exact Nat.le_refl _
  split at walked
  · exact length_ahead_of_walkString walked
  split at walked
  · exact length_ahead_of_walkChar walked
  split at walked
  · exact length_ahead_of_walkNumber walked
  split at walked
  · exact length_ahead_of_walkName walked
  · cases walked
    exact Nat.le_refl _

/-- **Every walk takes at least one character**, and no walk goes back. -/
theorem length_ahead_of_walk (walked : walk cursor = .ok (finding, last)) :
    last.ahead.length < cursor.ahead.length := by
  obtain ⟨⟨c, next⟩, advanced, rest⟩ := exists_of_bind_eq_ok walked
  have shorter := Cursor.length_ahead_of_advance advanced
  dsimp only at rest
  split at rest
  · cases rest
    omega
  · obtain ⟨⟨taken, stop⟩, moved, ended⟩ := exists_of_bind_eq_ok rest
    cases ended
    have behind : stop.ahead.length ≤ next.ahead.length := Cursor.length_ahead_of_takeIf moved
    show stop.ahead.length < cursor.ahead.length
    omega
  · have behind := length_ahead_of_walkOther rest
    omega

end Scan

end LoopLex
