/-
**What holds of a cursor after any operations.** Its checkpoint is at the cursor or behind it, by
any number of lines. Line and column of both are those of their offsets, though they are counted
one character at a time, and the line that is shown of the checkpoint is the line with its number.

* `Tracks` — a cursor that has counted right, and `Tracks.perform`: every operation keeps it so;
* `Tracks.performed` — so does any sequence of operations;
* `Faithful` — what a cursor tells of itself, by its offsets alone;
* `performed_faithful` — a cursor is faithful after any operations.
-/

import LoopLex.Proofs.Cursor.Frame
import LoopLex.Proofs.Text.Order

namespace LoopLex.Cursor

variable {cursor : Cursor} {source : String} {text : List Char} {line : Int}

/-! ### The counts -/

/-- A cursor over `text`, whose first line has number `line`, that has counted right. -/
structure Tracks (text : List Char) (line : Int) (cursor : Cursor) : Prop where
  source : cursor.source = text
  here : cursor.here = .behind line cursor.behind
  start : cursor.start = .behind line cursor.before.reverse

theorem tracks_ofText (text : List Char) (line : Int) : (ofText text line).Tracks text line where
  source := rfl
  here := (Position.behind_nil line).symm
  start := (Position.behind_nil line).symm

/-- **No operation miscounts.** The cursor goes on with the place behind each character that it
takes, and the checkpoint takes over a place that is right. -/
theorem Tracks.perform (tracks : cursor.Tracks text line) (operation : Operation) :
    (cursor.perform operation).2.Tracks text line := by
  have kept := cursor.source_perform operation
  have moves := cursor.perform_moves operation
  generalize cursor.perform operation = reply at moves kept ⊢
  refine ⟨kept.trans tracks.source, ?_, ?_⟩
  · cases moves with
    | stays => exact tracks.here
    | @takes _ answer c rest =>
      calc (cursor.past [c] rest).here
          = (Position.behind line cursor.behind).after c := congrArg (·.after c) tracks.here
        _ = .behind line (cursor.past [c] rest).behind := by
            rw [behind_past, Position.behind_append_singleton]
    | marks =>
      show cursor.here = _
      rw [behind_mark, tracks.here]
  · cases moves with
    | stays | takes => exact tracks.start
    | marks =>
      have front : cursor.mark.before.reverse = cursor.behind := List.reverse_append
      rw [front]
      exact tracks.here

/-- **No sequence of operations miscounts.** -/
theorem Tracks.performed (tracks : cursor.Tracks text line) (operations : List Operation) :
    (cursor.performed operations).Tracks text line := by
  induction operations generalizing cursor with
  | nil => exact tracks
  | cons operation operations ih => exact ih (tracks.perform operation)

/-! ### The line of the checkpoint -/

theorem Tracks.exists_line (tracks : cursor.Tracks source.toList line) :
    ∃ index : Nat, cursor.start.line = line + index ∧
      (lines source)[index]? = some cursor.currentLine := by
  refine ⟨cursor.before.reverse.count '\n', congrArg Position.line tracks.start, ?_⟩
  have found :=
    getElem?_splitOn_around cursor.before.reverse (cursor.taken.reverse ++ cursor.ahead)
  rw [← source_eq_append, tracks.source, List.reverse_reverse] at found
  rw [lines, List.getElem?_map, found]
  rfl

theorem newline_not_mem_currentLine (cursor : Cursor) : '\n' ∉ cursor.currentLine.toList := by
  have apart :=
    not_mem_around_newline cursor.before.reverse (cursor.taken.reverse ++ cursor.ahead)
  rw [List.reverse_reverse] at apart
  rw [currentLine, String.toList_ofList]
  exact apart

theorem Tracks.start_column (tracks : cursor.Tracks text line) :
    cursor.start.column = (cursor.before.takeWhile (· ≠ '\n')).length + 1 := by
  have counted : cursor.start.column = _ := congrArg Position.column tracks.start
  rw [counted, Position.behind, List.reverse_reverse]
  exact Int.add_comm _ _

/-- What lies behind the checkpoint starts with the character at its offset. -/
theorem Tracks.exists_behind_mark (tracks : cursor.Tracks text line) {c : Char}
    (found : text[cursor.startPosition]? = some c) :
    ∃ more, cursor.taken.reverse ++ cursor.ahead = c :: more := by
  rw [← tracks.source, ← List.head?_drop, drop_startPosition] at found
  exact List.head?_eq_some_iff.mp found

/-- **The line shows the character at the checkpoint** at the column of the checkpoint. -/
theorem Tracks.exists_column (tracks : cursor.Tracks text line) {c : Char} (other : c ≠ '\n')
    (found : text[cursor.startPosition]? = some c) :
    ∃ index : Nat, cursor.start.column = index + 1 ∧
      cursor.currentLine.toList[index]? = some c := by
  obtain ⟨more, behind⟩ := tracks.exists_behind_mark found
  obtain ⟨d, whole, shown⟩ := (onLine_around cursor.before.reverse more other).same
  rw [List.getElem?_append_right (Nat.le_refl _), Nat.sub_self] at whole
  obtain rfl : c = d := Option.some.inj whole
  rw [List.reverse_reverse] at shown
  refine ⟨_, tracks.start_column, ?_⟩
  rw [currentLine, String.toList_ofList, behind]
  exact shown

/-- A newline at the checkpoint is behind the line that it ends. -/
theorem Tracks.column_of_newline (tracks : cursor.Tracks text line)
    (found : text[cursor.startPosition]? = some '\n') :
    cursor.start.column = cursor.currentLine.length + 1 := by
  obtain ⟨more, behind⟩ := tracks.exists_behind_mark found
  have ended : ('\n' :: more).takeWhile (· ≠ '\n') = [] := List.takeWhile_cons_of_neg (by simp)
  rw [tracks.start_column, currentLine, behind, ended, List.append_nil, String.length_ofList,
    List.length_reverse]

/-! ### By the offsets alone -/

/-- What a cursor over `source`, whose first line has number `line`, tells of itself. -/
structure Faithful (source : String) (line : Int) (cursor : Cursor) : Prop where
  ordered : cursor.startPosition ≤ cursor.position
  within : cursor.position ≤ source.length
  here : cursor.here = .behind line (source.toList.take cursor.position)
  start : cursor.start = .behind line (source.toList.take cursor.startPosition)
  lexeme : cursor.lexeme = .ofList (slice source.toList cursor.startPosition cursor.position)
  /-- The clip to the end of the source never acts. -/
  nearText : cursor.nearText = cursor.lexeme
  /-- The line of the checkpoint is the one with its number. -/
  currentLine : ∃ index : Nat, cursor.start.line = line + index ∧
    (lines source)[index]? = some cursor.currentLine
  oneLine : '\n' ∉ cursor.currentLine.toList
  /-- The line shows the character at the checkpoint, unless that one ends the line. -/
  shown : ∀ c ≠ '\n', source.toList[cursor.startPosition]? = some c →
    ∃ index : Nat, cursor.start.column = index + 1 ∧ cursor.currentLine.toList[index]? = some c
  ending : source.toList[cursor.startPosition]? = some '\n' →
    cursor.start.column = cursor.currentLine.length + 1

theorem Tracks.faithful (tracks : cursor.Tracks source.toList line) :
    cursor.Faithful source line where
  ordered := Nat.le_add_right _ _
  within := by
    rw [← String.length_toList, ← tracks.source]
    exact cursor.position_le
  here := by rw [← tracks.source, take_position, tracks.here]
  start := by rw [← tracks.source, take_startPosition, tracks.start]
  lexeme := by
    rw [← tracks.source]
    exact (lexeme_offsets cursor).symm
  nearText := cursor.nearText_eq_lexeme
  currentLine := tracks.exists_line
  oneLine := cursor.newline_not_mem_currentLine
  shown _ other found := tracks.exists_column other found
  ending found := tracks.column_of_newline found

/-- **A cursor tells the truth after any operations.** Its offsets are in order and in the text, its
places and its texts are those of the offsets, and the line of its checkpoint is the one that the
source has there. A cursor that is kept as offsets answers the same and has the same offsets. -/
theorem performed_faithful (source : String) (line : Int) (operations : List Operation) :
    let first := Cursor.ofText source.toList line
    (first.performed operations).Faithful source line ∧
      (OffsetCursor.ofText source.toList line).performAll operations =
        (first.performAll operations).map fun reply => (reply.1, reply.2.offsets) :=
  ⟨((tracks_ofText source.toList line).performed operations).faithful,
    performAll_offsets (ofText source.toList line) operations⟩

/-- A checkpoint on a newline, one line behind the cursor, belongs to the line that it ends. -/
example :
    let cursor := (ofText "ab\ncd".toList 7).performed
      [.advance, .advance, .mark, .advance, .advance, .accept "d", .advance]
    (cursor.offsets, cursor.lexeme, cursor.currentLine) =
      (⟨"ab\ncd".toList, 5, ⟨8, 3⟩, 2, ⟨7, 3⟩⟩, "\ncd", "ab") := by
  decide +kernel

end LoopLex.Cursor
