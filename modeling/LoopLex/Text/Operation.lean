/-
**Operations on a cursor**, as data, so that any sequence of them can be run.

* `Cursor.perform` — one operation: its answer, and the cursor after it;
* `Cursor.performAll` — a sequence of them;
* `Cursor.performed` — the cursor at the end of it.
-/

import LoopLex.Text.Cursor

namespace LoopLex.Cursor

/-- What a cursor is asked to do. -/
inductive Operation where
  | advance | peek | peekNext | atEnd
  | accept (expected : String)
  | mark | lexeme | nearText | currentLine
deriving DecidableEq, Repr

/-- What a cursor answers. -/
inductive Answer where
  | character (c : Char)
  | truth (value : Bool)
  | text (value : String)
  /-- The operation has no result. -/
  | done
  /-- The operation was refused. -/
  | refused (misuse : Misuse)
deriving DecidableEq, Repr

/-- One operation: its answer, and the cursor after it. -/
def perform (cursor : Cursor) : Operation → Answer × Cursor
  | .advance =>
    match cursor.advance with
    | .ok (c, next) => (.character c, next)
    | .error misuse => (.refused misuse, cursor)
  | .peek => (.character cursor.peek, cursor)
  | .peekNext => (.character cursor.peekNext, cursor)
  | .atEnd => (.truth cursor.atEnd, cursor)
  | .accept expected => (.truth (cursor.accept expected).1, (cursor.accept expected).2)
  | .mark => (.done, cursor.mark)
  | .lexeme => (.text cursor.lexeme, cursor)
  | .nearText => (.text cursor.nearText, cursor)
  | .currentLine => (.text cursor.currentLine, cursor)

/-- The answers to operations in order, each with the cursor after it. -/
def performAll : Cursor → List Operation → List (Answer × Cursor)
  | _, [] => []
  | cursor, operation :: operations =>
    cursor.perform operation :: performAll (cursor.perform operation).2 operations

/-- The cursor after operations. -/
def performed (cursor : Cursor) (operations : List Operation) : Cursor :=
  operations.foldl (fun cursor operation => (cursor.perform operation).2) cursor

end LoopLex.Cursor
