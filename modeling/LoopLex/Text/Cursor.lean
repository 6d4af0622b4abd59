/-
**A cursor over a text, with a checkpoint at the start of the current token.**

The text is held in three parts: what stands in front of the checkpoint, what was taken since, and
what lies ahead. The first two are kept backwards, nearest character first, so that every step is
local. Line and column are counted along the way, for the cursor and for the checkpoint. The
characters of a text are Unicode scalar values, so a lone surrogate is none of them.

* `advance` takes one character and refuses at the end of the text;
* `peek` and `peekNext` look ahead and show a NUL past the end, as they do for a NUL in the text;
* `accept` takes the next character if it is the expected one;
* `mark` moves the checkpoint to the cursor.
-/

import LoopLex.Misuse
import LoopLex.Text.Position

namespace LoopLex

/-- A place in a text, and a checkpoint at or in front of it. -/
structure Cursor where
  /-- The text in front of the checkpoint, backwards. -/
  before : List Char
  /-- The text from the checkpoint to the cursor, backwards. -/
  taken : List Char
  /-- The text from the cursor on. -/
  ahead : List Char
  /-- Line and column of the cursor. -/
  here : Position
  /-- Line and column of the checkpoint. -/
  start : Position
deriving DecidableEq, Repr

namespace Cursor

/-- A cursor at the start of `text`, whose first line has number `line`. -/
def ofText (text : List Char) (line : Int) : Cursor :=
  ⟨[], [], text, .startOf line, .startOf line⟩

/-- The whole text. -/
def source (cursor : Cursor) : List Char :=
  cursor.before.reverse ++ cursor.taken.reverse ++ cursor.ahead

/-- The number of characters in front of the cursor. -/
def position (cursor : Cursor) : Nat := cursor.before.length + cursor.taken.length

/-- The number of characters in front of the checkpoint. -/
def startPosition (cursor : Cursor) : Nat := cursor.before.length

/-- Whether the whole text lies behind the cursor. -/
def atEnd (cursor : Cursor) : Bool := cursor.ahead.isEmpty

/-- Takes the next character. -/
def advance (cursor : Cursor) : Except Misuse (Char × Cursor) :=
  match cursor.ahead with
  | [] => .error .pastEnd
  | c :: ahead =>
    .ok (c, { cursor with taken := c :: cursor.taken, ahead, here := cursor.here.after c })

/-- Takes the next `n` characters. -/
def advanceBy : Nat → Cursor → Except Misuse Cursor
  | 0, cursor => .ok cursor
  | n + 1, cursor => do advanceBy n (← cursor.advance).2

/-- The next character, or NUL at the end. -/
def peek (cursor : Cursor) : Char := cursor.ahead.headD '\x00'

/-- The character after the next one, or NUL beyond the end. -/
def peekNext (cursor : Cursor) : Char := cursor.ahead.tail.headD '\x00'

/-- Takes the next character if it is all of `expected`, and says whether it was. -/
def accept (expected : String) (cursor : Cursor) : Bool × Cursor :=
  match cursor.advance with
  | .ok (c, next) => if expected.toList = [c] then (true, next) else (false, cursor)
  | .error _ => (false, cursor)

/-- Moves the checkpoint to the cursor. -/
def mark (cursor : Cursor) : Cursor :=
  { cursor with before := cursor.taken ++ cursor.before, taken := [], start := cursor.here }

/-- The text from the checkpoint to the cursor. -/
def lexeme (cursor : Cursor) : String := String.ofList cursor.taken.reverse

/-- The slice of the source from the checkpoint to the cursor, clipped to the end of the source. -/
def nearText (cursor : Cursor) : String :=
  let stop := min cursor.position cursor.source.length
  String.ofList ((cursor.source.take stop).drop cursor.startPosition)

/-- The line of the text that holds the checkpoint, without its newline. A newline belongs to the
line that it ends. -/
def currentLine (cursor : Cursor) : String :=
  String.ofList ((cursor.before.takeWhile (· ≠ '\n')).reverse ++
    (cursor.taken.reverse ++ cursor.ahead).takeWhile (· ≠ '\n'))

/-- One step leaves one character less ahead. -/
theorem length_ahead_of_advance {cursor next : Cursor} {c : Char}
    (moved : cursor.advance = .ok (c, next)) : next.ahead.length + 1 = cursor.ahead.length := by
  unfold advance at moved
  split at moved
  · cases moved
  · rename_i equal
    cases moved
    simp [equal]

/-- The text ahead shrinks by as many characters as were taken. -/
theorem length_ahead_of_advanceBy {n : Nat} {cursor next : Cursor}
    (moved : cursor.advanceBy n = .ok next) : next.ahead.length + n = cursor.ahead.length := by
  induction n generalizing cursor with
  | zero =>
    cases moved
    rfl
  | succ n ih =>
    cases stepped : cursor.advance with
    | error refusal =>
      rw [advanceBy, stepped] at moved
      cases moved
    | ok pair =>
      obtain ⟨c, first⟩ := pair
      rw [advanceBy, stepped] at moved
      have shorter := length_ahead_of_advance stepped
      have rest : next.ahead.length + n = first.ahead.length := ih moved
      omega

end Cursor

end LoopLex
