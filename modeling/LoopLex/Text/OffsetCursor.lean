/-
**A cursor that is kept as offsets** into a text that never changes.

It counts the line and the column along with its offset. It asks the text itself for the characters
ahead, for what was taken since the checkpoint, and for the newlines around the checkpoint, between
which the line of the checkpoint stands. An offset that is not in the text is refused.

* `slice`, `lineStart` and `lineEnd` — a text looked at by offsets;
* `OffsetCursor.perform` and `OffsetCursor.performAll` — operations, with their answers;
* `Cursor.offsets` — the offsets of a cursor that holds its text in parts.
-/

import LoopLex.Text.Operation

namespace LoopLex

/-! ### Offsets into a text -/

/-- The part of a text from the offset `first` to the offset `last`. -/
def slice (text : List Char) (first last : Nat) : List Char := (text.take last).drop first

/-- The offset of the last newline in front of an offset. -/
def newlineBefore? (text : List Char) : Nat → Option Nat
  | 0 => none
  | offset + 1 => if text[offset]? = some '\n' then some offset else newlineBefore? text offset

/-- The offset of the first newline from an offset on. -/
def newlineFrom? (text : List Char) (offset : Nat) : Option Nat :=
  ((text.drop offset).findIdx? (· = '\n')).map (offset + ·)

/-- Where the line of an offset starts: behind the last newline in front of the offset. -/
def lineStart (text : List Char) (offset : Nat) : Nat :=
  match newlineBefore? text offset with
  | some newline => newline + 1
  | none => 0

/-- Where the line of an offset ends: at the first newline from the offset on. -/
def lineEnd (text : List Char) (offset : Nat) : Nat :=
  (newlineFrom? text offset).getD text.length

/-- An offset into a text, and a checkpoint. -/
structure OffsetCursor where
  /-- The whole text. -/
  source : List Char
  /-- The number of characters that were taken. -/
  position : Nat
  /-- Line and column of the cursor. -/
  here : Position
  /-- The number of characters that were taken in front of the checkpoint. -/
  startPosition : Nat
  /-- Line and column of the checkpoint. -/
  start : Position
deriving DecidableEq, Repr

namespace OffsetCursor

/-- A cursor at the start of `text`, whose first line has number `line`. -/
def ofText (text : List Char) (line : Int) : OffsetCursor :=
  ⟨text, 0, .startOf line, 0, .startOf line⟩

/-! ### The operations -/

/-- The character at an offset. -/
def charAt (cursor : OffsetCursor) (offset : Nat) : Except Misuse Char :=
  match cursor.source[offset]? with
  | some c => .ok c
  | none => .error .pastEnd

/-- Whether the offset is that of the end of the text. -/
def atEnd (cursor : OffsetCursor) : Bool := cursor.position = cursor.source.length

/-- Takes the next character. -/
def advance (cursor : OffsetCursor) : Except Misuse (Char × OffsetCursor) :=
  if cursor.atEnd then .error .pastEnd
  else do
    let c ← cursor.charAt cursor.position
    return (c, { cursor with position := cursor.position + 1, here := cursor.here.after c })

/-- The next character, or NUL at the end. -/
def peek (cursor : OffsetCursor) : Except Misuse Char :=
  if cursor.atEnd then .ok '\x00' else cursor.charAt cursor.position

/-- The character after the next one, or NUL beyond the end. -/
def peekNext (cursor : OffsetCursor) : Except Misuse Char :=
  if cursor.source.length ≤ cursor.position + 1 then .ok '\x00'
  else cursor.charAt (cursor.position + 1)

/-- Takes the next character if it is all of `expected`, and says whether it was. -/
def accept (expected : String) (cursor : OffsetCursor) : Except Misuse (Bool × OffsetCursor) :=
  if cursor.atEnd then .ok (false, cursor)
  else do
    let c ← cursor.charAt cursor.position
    if expected.toList ≠ [c] then return (false, cursor)
    let (_, next) ← cursor.advance
    return (true, next)

/-- Moves the checkpoint to the cursor. -/
def mark (cursor : OffsetCursor) : OffsetCursor :=
  { cursor with startPosition := cursor.position, start := cursor.here }

/-- The text from the checkpoint to the cursor. -/
def lexeme (cursor : OffsetCursor) : String :=
  .ofList (slice cursor.source cursor.startPosition cursor.position)

/-- The same text, clipped to the end of the source. -/
def nearText (cursor : OffsetCursor) : String :=
  .ofList (slice cursor.source cursor.startPosition (min cursor.position cursor.source.length))

/-- The line of the text that holds the checkpoint, without its newline. -/
def currentLine (cursor : OffsetCursor) : String :=
  .ofList (slice cursor.source (lineStart cursor.source cursor.startPosition)
    (lineEnd cursor.source cursor.startPosition))

/-! ### Sequences of operations -/

open Cursor (Operation Answer)

/-- The answer of an operation and the cursor after it, which is the same if it was refused. -/
def reply (cursor : OffsetCursor) :
    Except Misuse (Answer × OffsetCursor) → Answer × OffsetCursor
  | .ok outcome => outcome
  | .error misuse => (.refused misuse, cursor)

/-- One operation: its answer, and the cursor after it. -/
def perform (cursor : OffsetCursor) : Operation → Answer × OffsetCursor
  | .advance => cursor.reply do
    let (c, next) ← cursor.advance
    return (.character c, next)
  | .peek => cursor.reply do return (.character (← cursor.peek), cursor)
  | .peekNext => cursor.reply do return (.character (← cursor.peekNext), cursor)
  | .atEnd => (.truth cursor.atEnd, cursor)
  | .accept expected => cursor.reply do
    let (taken, next) ← cursor.accept expected
    return (.truth taken, next)
  | .mark => (.done, cursor.mark)
  | .lexeme => (.text cursor.lexeme, cursor)
  | .nearText => (.text cursor.nearText, cursor)
  | .currentLine => (.text cursor.currentLine, cursor)

/-- The answers to operations in order, each with the cursor after it. -/
def performAll : OffsetCursor → List Operation → List (Answer × OffsetCursor)
  | _, [] => []
  | cursor, operation :: operations =>
    cursor.perform operation :: performAll (cursor.perform operation).2 operations

end OffsetCursor

namespace Cursor

/-- The offsets of a cursor that holds its text in parts. -/
def offsets (cursor : Cursor) : OffsetCursor :=
  ⟨cursor.source, cursor.position, cursor.here, cursor.startPosition, cursor.start⟩

end Cursor

end LoopLex
