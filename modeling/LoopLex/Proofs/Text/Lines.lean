/-
**The lines of a text**: what stands between one newline and the next.

* `lines` — the lines of a text, and `lines_intercalate`: joining them is undone;
* `OnLine` — the line that a character of a text is on, and the index that it has there;
* `onLine_around` — that line, gathered from the character on in both directions;
* `getElem?_splitOn_around` — the line around any place, found among the lines by the number of
  newlines in front of the place.
-/

import LoopLex.Text.Position

namespace LoopLex

/-- The lines of a text, one more than it has newlines. -/
def lines (text : String) : List String := (text.toList.splitOn '\n').map String.ofList

/-- **Rows without newlines in them are the lines of the text that joins them.** -/
theorem lines_intercalate {rows : List String} (some : rows ≠ [])
    (noNewline : ∀ row ∈ rows, '\n' ∉ row.toList) : lines ("\n".intercalate rows) = rows := by
  have apart : ∀ row ∈ rows.map String.toList, '\n' ∉ row := List.forall_mem_map.mpr noNewline
  have joined : ("\n".intercalate rows).toList = ['\n'].intercalate (rows.map String.toList) :=
    String.toList_intercalate
  have undone := List.splitOn_intercalate '\n' apart (mt List.map_eq_nil_iff.mp some)
  rw [lines, joined, undone, List.map_map]
  exact List.map_id'' (fun _ => String.ofList_toList) rows

/-- `row` is the line of `text` that the character at `offset` is on, without its newline, and the
character has the index `index` there. -/
structure OnLine (text row : List Char) (offset index : Nat) : Prop where
  /-- The line reaches from a newline or the start of the text to a newline or the end. -/
  between : ∃ front back, text = front ++ (row ++ back) ∧ offset = front.length + index ∧
    (∀ c ∈ front.getLast?, c = '\n') ∧ ∀ c ∈ back.head?, c = '\n'
  noNewline : '\n' ∉ row
  same : ∃ c, text[offset]? = some c ∧ row[index]? = some c

/-- No newline stands among the characters up to the first one. -/
theorem not_mem_takeWhile_newline (text : List Char) : '\n' ∉ text.takeWhile (· ≠ '\n') := by
  intro member
  have inside := List.all_eq_true.mp (List.all_takeWhile (p := (· ≠ '\n'))) _ member
  exact absurd rfl (of_decide_eq_true inside)

theorem eq_newline_of_mem_head?_dropWhile {text : List Char} :
    ∀ c ∈ (text.dropWhile (· ≠ '\n')).head?, c = '\n' := by
  intro c head
  have stops := List.head?_dropWhile_not (· ≠ '\n') text
  rw [Option.mem_def.mp head] at stops
  exact Classical.not_not.mp (of_decide_eq_false stops)

/-- What stands in front of a place is empty or ends with a newline, up to the start of a line. -/
theorem exists_line_start (before : List Char) :
    ∃ front, before = front ++ (before.reverse.takeWhile (· ≠ '\n')).reverse ∧
      ∀ c ∈ front.getLast?, c = '\n' := by
  refine ⟨(before.reverse.dropWhile (· ≠ '\n')).reverse, ?_, ?_⟩
  · rw [← List.reverse_append, List.takeWhile_append_dropWhile, List.reverse_reverse]
  · rw [List.getLast?_reverse]
    exact eq_newline_of_mem_head?_dropWhile

/-- No newline is in the line around a place. -/
theorem not_mem_around_newline (before ahead : List Char) :
    '\n' ∉ (before.reverse.takeWhile (· ≠ '\n')).reverse ++ ahead.takeWhile (· ≠ '\n') := by
  intro member
  rcases List.mem_append.mp member with front | back
  · exact not_mem_takeWhile_newline _ (List.mem_reverse.mp front)
  · exact not_mem_takeWhile_newline _ back

/-- **The line of a character**: what stands in front of it since the last newline, and from it on
up to the next. -/
theorem onLine_around (before more : List Char) {c : Char} (other : c ≠ '\n') :
    OnLine (before ++ c :: more)
      ((before.reverse.takeWhile (· ≠ '\n')).reverse ++ (c :: more).takeWhile (· ≠ '\n'))
      before.length (before.reverse.takeWhile (· ≠ '\n')).length where
  between := by
    obtain ⟨front, split, started⟩ := exists_line_start before
    refine ⟨front, (c :: more).dropWhile (· ≠ '\n'), ?_, ?_, started,
      eq_newline_of_mem_head?_dropWhile⟩
    · rw [List.append_assoc, List.takeWhile_append_dropWhile, ← List.append_assoc, ← split]
    · have lengths := congrArg List.length split
      rw [List.length_append, List.length_reverse] at lengths
      exact lengths
  noNewline := not_mem_around_newline before (c :: more)
  same := by
    refine ⟨c, ?_, ?_⟩
    · rw [List.getElem?_append_right (Nat.le_refl _), Nat.sub_self]
      rfl
    · have first : (c :: more).takeWhile (· ≠ '\n') = c :: more.takeWhile (· ≠ '\n') :=
        List.takeWhile_cons_of_pos (decide_eq_true other)
      rw [first, ← List.length_reverse, List.getElem?_append_right (Nat.le_refl _), Nat.sub_self]
      rfl

/-! ### Lines by their index -/

theorem length_splitOn_newline (text : List Char) :
    (text.splitOn '\n').length = text.count '\n' + 1 := by
  induction text with
  | nil => rfl
  | cons c text ih =>
    rw [List.splitOn_eq_splitOnP] at ih ⊢
    rw [List.splitOnP_cons_eq_if_modifyHead, List.count_cons]
    by_cases newline : (c == '\n') = true
    · rw [if_pos newline, if_pos newline, List.length_cons, ih]
    · rw [if_neg newline, if_neg newline, List.length_modifyHead, ih]

theorem splitOn_append_newline (front text : List Char) :
    (front ++ '\n' :: text).splitOn '\n' = front.splitOn '\n' ++ text.splitOn '\n' := by
  simp only [List.splitOn_eq_splitOnP]
  exact List.splitOnP_append_cons front text rfl

/-- A line stands behind as many others as there are newlines in front of it. -/
theorem getElem?_splitOn_newline {front row back : List Char}
    (started : ∀ c ∈ front.getLast?, c = '\n') (noNewline : '\n' ∉ row)
    (ended : ∀ c ∈ back.head?, c = '\n') :
    ((front ++ (row ++ back)).splitOn '\n')[front.count '\n']? = some row := by
  have first : ((row ++ back).splitOn '\n')[0]? = some row := by
    have alone : row.splitOn '\n' = [row] := by
      rw [List.splitOn_eq_splitOnP]
      refine List.splitOnP_eq_singleton fun c member => ?_
      exact beq_false_of_ne (ne_of_mem_of_not_mem member noNewline)
    cases back with
    | nil => rw [List.append_nil, alone]; rfl
    | cons c back =>
      obtain rfl := ended c rfl
      rw [splitOn_append_newline, alone]
      rfl
  cases last : front.getLast? with
  | none =>
    rw [List.getLast?_eq_none_iff.mp last]
    exact first
  | some c =>
    obtain ⟨init, rfl⟩ := List.getLast?_eq_some_iff.mp last
    obtain rfl := started c last
    have split : init ++ ['\n'] ++ (row ++ back) = init ++ '\n' :: (row ++ back) :=
      List.append_assoc _ _ _
    have index : (init ++ ['\n']).count '\n' = (init.splitOn '\n').length := by
      rw [length_splitOn_newline, List.count_append]
      rfl
    rw [split, splitOn_append_newline, index, List.getElem?_append_right (Nat.le_refl _),
      Nat.sub_self, first]

/-- **The line around a place** has the number of newlines in front of the place for its index. -/
theorem getElem?_splitOn_around (before ahead : List Char) :
    ((before ++ ahead).splitOn '\n')[before.count '\n']? =
      some ((before.reverse.takeWhile (· ≠ '\n')).reverse ++ ahead.takeWhile (· ≠ '\n')) := by
  obtain ⟨front, split, started⟩ := exists_line_start before
  have inFront : '\n' ∉ (before.reverse.takeWhile (· ≠ '\n')).reverse := fun member =>
    not_mem_takeWhile_newline _ (List.mem_reverse.mp member)
  have index : before.count '\n' = front.count '\n' := by
    have counts := congrArg (List.count '\n') split
    rw [List.count_append, List.count_eq_zero.mpr inFront, Nat.add_zero] at counts
    exact counts
  have whole : before ++ ahead = front ++
      ((before.reverse.takeWhile (· ≠ '\n')).reverse ++ ahead.takeWhile (· ≠ '\n') ++
        ahead.dropWhile (· ≠ '\n')) := by
    rw [List.append_assoc, List.takeWhile_append_dropWhile, ← List.append_assoc, ← split]
  rw [index, whole]
  exact getElem?_splitOn_newline started (not_mem_around_newline before ahead)
    eq_newline_of_mem_head?_dropWhile

end LoopLex
