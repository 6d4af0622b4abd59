/-
**A cursor over parts of a text is one over offsets.** What stands in front of the cursor, since the
checkpoint and ahead is what a cursor with offsets cuts out of the whole text, and the line of the
checkpoint stands between the newlines that it finds on either side.

* `slice_line` — the line of an offset is the line around the place there;
* `Cursor.take_position` and its like — the parts of the text by their offsets;
* `Cursor.perform_offsets` — an operation has the same answer on both and leads to the same offsets;
* `Cursor.performAll_offsets` — and so has any sequence of them.
-/

import LoopLex.Proofs.Scan.Step
import LoopLex.Proofs.Text.Lines
import LoopLex.Text.OffsetCursor

namespace LoopLex

/-! ### Lines by offsets -/

/-- A line starts behind the last newline in front of it, wherever on the line one looks from. -/
theorem lineStart_append {front row back : List Char} {offset : Nat}
    (started : ∀ c ∈ front.getLast?, c = '\n') (noNewline : '\n' ∉ row)
    (within : offset ≤ row.length) :
    lineStart (front ++ (row ++ back)) (front.length + offset) = front.length := by
  induction offset with
  | zero =>
    cases last : front.getLast? with
    | none =>
      obtain rfl := List.getLast?_eq_none_iff.mp last
      rfl
    | some c =>
      obtain ⟨init, rfl⟩ := List.getLast?_eq_some_iff.mp last
      obtain rfl := started c last
      have found : (init ++ ['\n'] ++ (row ++ back))[init.length]? = some '\n' := by
        rw [List.append_assoc, List.getElem?_append_right (Nat.le_refl _), Nat.sub_self]
        rfl
      rw [Nat.add_zero, List.length_append, List.length_singleton, lineStart, newlineBefore?,
        if_pos found]
  | succ offset ih =>
    have other : (front ++ (row ++ back))[front.length + offset]? ≠ some '\n' := by
      rw [List.getElem?_append_right (Nat.le_add_right _ _), Nat.add_sub_cancel_left,
        List.getElem?_append_left within]
      exact fun found => noNewline (List.mem_of_getElem? found)
    rw [← Nat.add_assoc, lineStart, newlineBefore?, if_neg other]
    exact ih (Nat.le_of_succ_le within)

/-- A line ends at the first newline behind it, or else at the end of the text. -/
theorem lineEnd_append {front row back : List Char} (noNewline : '\n' ∉ row)
    (ended : ∀ c ∈ back.head?, c = '\n') :
    lineEnd (front ++ (row ++ back)) front.length = front.length + row.length := by
  have apart : row.findIdx? (· = '\n') = none := by
    rw [List.findIdx?_eq_none_iff]
    intro c member
    exact decide_eq_false (ne_of_mem_of_not_mem member noNewline)
  rw [lineEnd, newlineFrom?, List.drop_left, List.findIdx?_append, apart]
  cases back with
  | nil => simp
  | cons c back =>
    obtain rfl := ended c rfl
    simp [List.findIdx?_cons]

theorem slice_append {front middle back : List Char} :
    slice (front ++ (middle ++ back)) front.length (front.length + middle.length) = middle := by
  rw [slice, ← List.length_append, ← List.append_assoc, List.take_left, List.drop_left]

/-- **The line of an offset**, cut out between the newlines around it, is the line around the place
there. -/
theorem slice_line (before ahead : List Char) :
    slice (before ++ ahead) (lineStart (before ++ ahead) before.length)
        (lineEnd (before ++ ahead) before.length) =
      (before.reverse.takeWhile (· ≠ '\n')).reverse ++ ahead.takeWhile (· ≠ '\n') := by
  obtain ⟨front, split, started⟩ := exists_line_start before
  have noNewline := not_mem_around_newline before ahead
  have ended : lineEnd (before ++ (ahead.takeWhile (· ≠ '\n') ++ ahead.dropWhile (· ≠ '\n')))
      before.length = _ :=
    lineEnd_append (not_mem_takeWhile_newline ahead) eq_newline_of_mem_head?_dropWhile
  rw [List.takeWhile_append_dropWhile] at ended
  rw [ended]
  generalize (before.reverse.takeWhile (· ≠ '\n')).reverse = left at split noNewline ⊢
  have whole : before ++ ahead = front ++
      (left ++ ahead.takeWhile (· ≠ '\n') ++ ahead.dropWhile (· ≠ '\n')) := by
    rw [split, List.append_assoc, List.append_assoc, List.takeWhile_append_dropWhile]
  have reach : before.length = front.length + left.length := by rw [split, List.length_append]
  have within : left.length ≤ (left ++ ahead.takeWhile (· ≠ '\n')).length := by
    rw [List.length_append]
    exact Nat.le_add_right _ _
  rw [whole, reach, lineStart_append started noNewline within, Nat.add_assoc,
    ← List.length_append, slice_append]

namespace Cursor

variable {cursor : Cursor}

/-! ### The parts of the text by their offsets -/

theorem length_behind (cursor : Cursor) : cursor.behind.length = cursor.position := by
  simp only [behind, position, List.length_append, List.length_reverse]

theorem length_source (cursor : Cursor) :
    cursor.source.length = cursor.position + cursor.ahead.length := by
  rw [← length_behind, ← List.length_append]
  rfl

theorem position_le (cursor : Cursor) : cursor.position ≤ cursor.source.length := by
  rw [length_source]
  exact Nat.le_add_right _ _

theorem take_position (cursor : Cursor) : cursor.source.take cursor.position = cursor.behind := by
  rw [← length_behind]
  exact List.take_left

theorem drop_position (cursor : Cursor) : cursor.source.drop cursor.position = cursor.ahead := by
  rw [← length_behind]
  exact List.drop_left

theorem source_eq_append (cursor : Cursor) :
    cursor.source = cursor.before.reverse ++ (cursor.taken.reverse ++ cursor.ahead) :=
  List.append_assoc _ _ _

theorem take_startPosition (cursor : Cursor) :
    cursor.source.take cursor.startPosition = cursor.before.reverse := by
  rw [source_eq_append, startPosition, ← List.length_reverse, List.take_left]

theorem drop_startPosition (cursor : Cursor) :
    cursor.source.drop cursor.startPosition = cursor.taken.reverse ++ cursor.ahead := by
  rw [source_eq_append, startPosition, ← List.length_reverse, List.drop_left]

theorem atEnd_iff (cursor : Cursor) :
    cursor.atEnd = true ↔ cursor.position = cursor.source.length := by
  rw [atEnd, List.isEmpty_iff, length_source, ← List.length_eq_zero_iff]
  omega

/-! ### Operations -/

theorem charAt_offsets (cursor : Cursor) (more : Nat) :
    cursor.offsets.charAt (cursor.position + more) =
      match cursor.ahead[more]? with
      | some c => .ok c
      | none => .error .pastEnd := by
  rw [← drop_position, List.getElem?_drop]
  rfl

theorem charAt_of_ahead {c : Char} {rest : List Char} (ahead : cursor.ahead = c :: rest) :
    cursor.offsets.charAt cursor.offsets.position = .ok c := by
  have first := charAt_offsets cursor 0
  rw [ahead] at first
  exact first

theorem atEnd_offsets (cursor : Cursor) : cursor.offsets.atEnd = cursor.atEnd := by
  rw [Bool.eq_iff_iff, atEnd_iff]
  exact decide_eq_true_iff

theorem source_past {text rest : List Char} (ahead : cursor.ahead = text ++ rest) :
    (cursor.past text rest).source = cursor.source := by
  simp only [source, past, ahead, List.reverse_append, List.reverse_reverse, List.append_assoc]

theorem source_mark (cursor : Cursor) : cursor.mark.source = cursor.source := by
  simp only [source, mark, List.reverse_append, List.reverse_nil, List.append_nil]

theorem behind_mark (cursor : Cursor) : cursor.mark.behind = cursor.behind := by
  simp only [behind, mark, List.reverse_append, List.reverse_nil, List.append_nil]

theorem position_past {text rest : List Char} :
    (cursor.past text rest).position = cursor.position + text.length := by
  rw [← length_behind, behind_past, List.length_append, length_behind]

theorem position_mark (cursor : Cursor) : cursor.mark.position = cursor.position := by
  rw [← length_behind, behind_mark, length_behind]

/-- What lies ahead is cut out of the text from the cursor on. -/
theorem slice_ahead {text rest : List Char} (ahead : cursor.ahead = text ++ rest) :
    slice cursor.source cursor.position (cursor.position + text.length) = text := by
  have split : cursor.source = cursor.behind ++ (text ++ rest) := congrArg (_ ++ ·) ahead
  rw [split, ← length_behind, slice_append]

/-- Behind a part of the text ahead, only the offset and the place of the cursor are others. -/
theorem offsets_past {text rest : List Char} (ahead : cursor.ahead = text ++ rest) :
    (cursor.past text rest).offsets =
      { cursor.offsets with
        position := cursor.position + text.length
        here := cursor.here.afterText text } := by
  rw [offsets, source_past ahead, position_past]
  rfl

theorem advance_offsets (cursor : Cursor) :
    cursor.offsets.advance = cursor.advance.map fun taken => (taken.1, taken.2.offsets) := by
  rw [OffsetCursor.advance, atEnd_offsets, atEnd]
  cases ahead : cursor.ahead with
  | nil =>
    rw [advance, ahead]
    rfl
  | cons c rest =>
    have next : (cursor.past [c] rest).offsets = _ := offsets_past ahead
    rw [charAt_of_ahead ahead, advance_of_ahead ahead, Except.map, next]
    rfl

theorem peek_offsets (cursor : Cursor) : cursor.offsets.peek = .ok cursor.peek := by
  rw [OffsetCursor.peek, atEnd_offsets, atEnd, peek]
  cases ahead : cursor.ahead with
  | nil => rfl
  | cons c rest => exact charAt_of_ahead ahead

theorem peekNext_offsets (cursor : Cursor) : cursor.offsets.peekNext = .ok cursor.peekNext := by
  have found := charAt_offsets cursor 1
  have length : cursor.offsets.source.length = cursor.position + cursor.ahead.length :=
    length_source cursor
  rw [OffsetCursor.peekNext, length, peekNext]
  show (if cursor.position + cursor.ahead.length ≤ cursor.position + 1 then _
    else cursor.offsets.charAt (cursor.position + 1)) = _
  match ahead : cursor.ahead with
  | [] | [_] => rw [if_pos (by simp)]; rfl
  | c :: next :: rest =>
    rw [ahead] at found
    rw [if_neg (by simp), found]
    rfl

theorem accept_of_end {expected : String} (ahead : cursor.ahead = []) :
    cursor.accept expected = (false, cursor) := by
  rw [accept, advance, ahead]

theorem accept_of_ahead {expected : String} {c : Char} {rest : List Char}
    (ahead : cursor.ahead = c :: rest) :
    cursor.accept expected =
      if expected.toList = [c] then (true, cursor.past [c] rest) else (false, cursor) := by
  rw [accept, advance_of_ahead ahead]

theorem accept_offsets (cursor : Cursor) (expected : String) :
    cursor.offsets.accept expected =
      .ok ((cursor.accept expected).1, (cursor.accept expected).2.offsets) := by
  rw [OffsetCursor.accept, atEnd_offsets, atEnd, advance_offsets]
  cases ahead : cursor.ahead with
  | nil =>
    rw [accept_of_end ahead]
    rfl
  | cons c rest =>
    rw [charAt_of_ahead ahead, advance_of_ahead ahead, accept_of_ahead ahead]
    show (if expected.toList ≠ [c] then Except.ok (false, cursor.offsets)
      else Except.ok (true, (cursor.past [c] rest).offsets)) = _
    by_cases equal : expected.toList = [c]
    · rw [if_neg (not_not_intro equal), if_pos equal]
    · rw [if_pos equal, if_neg equal]

theorem mark_offsets (cursor : Cursor) : cursor.offsets.mark = cursor.mark.offsets := by
  have start : cursor.mark.startPosition = cursor.position := by
    simp only [position, startPosition, mark, List.length_append]
    omega
  have same : cursor.mark.offsets =
      ⟨cursor.source, cursor.position, cursor.here, cursor.position, cursor.here⟩ := by
    rw [offsets, source_mark, position_mark, start]
    rfl
  rw [same]
  rfl

theorem lexeme_offsets (cursor : Cursor) : cursor.offsets.lexeme = cursor.lexeme := by
  have first : cursor.startPosition = cursor.before.reverse.length := List.length_reverse.symm
  have last : cursor.position = cursor.before.reverse.length + cursor.taken.reverse.length := by
    rw [List.length_reverse, List.length_reverse]
    rfl
  have cut : slice cursor.source cursor.startPosition cursor.position = cursor.taken.reverse := by
    rw [source_eq_append, first, last, slice_append]
  exact congrArg String.ofList cut

theorem currentLine_offsets (cursor : Cursor) :
    cursor.offsets.currentLine = cursor.currentLine := by
  have line := slice_line cursor.before.reverse (cursor.taken.reverse ++ cursor.ahead)
  rw [List.reverse_reverse, List.length_reverse, ← source_eq_append] at line
  exact congrArg String.ofList line

/-- **An operation on offsets is one on the parts of the text.** It has the same answer, and leads
to the same offsets. No character is looked up where none is. -/
theorem perform_offsets (cursor : Cursor) (operation : Operation) :
    cursor.offsets.perform operation =
      ((cursor.perform operation).1, (cursor.perform operation).2.offsets) := by
  cases operation with
  | advance =>
    rw [OffsetCursor.perform, advance_offsets, perform]
    cases cursor.advance <;> rfl
  | peek => rw [OffsetCursor.perform, peek_offsets]; rfl
  | peekNext => rw [OffsetCursor.perform, peekNext_offsets]; rfl
  | atEnd => rw [OffsetCursor.perform, atEnd_offsets]; rfl
  | accept expected => rw [OffsetCursor.perform, accept_offsets]; rfl
  | mark => rw [OffsetCursor.perform, mark_offsets]; rfl
  | lexeme => rw [OffsetCursor.perform, lexeme_offsets]; rfl
  | nearText => rfl
  | currentLine => rw [OffsetCursor.perform, currentLine_offsets]; rfl

/-- **Operations on offsets are operations on the parts of the text**, however many. -/
theorem performAll_offsets (cursor : Cursor) (operations : List Operation) :
    cursor.offsets.performAll operations =
      (cursor.performAll operations).map fun reply => (reply.1, reply.2.offsets) := by
  induction operations generalizing cursor with
  | nil => rfl
  | cons operation operations ih =>
    rw [OffsetCursor.performAll, perform_offsets, ih]
    rfl

end Cursor

end LoopLex
