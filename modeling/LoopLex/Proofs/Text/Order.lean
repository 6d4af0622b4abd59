/-
**The order of positions.** Along a text positions go on: to the right on a line, and from the end
of a line to the start of the next one.

* `Position.Precedes` — one place stands in front of another;
* `Position.Reaches` — the same, or the two are one place;
* `Position.precedes_afterText` — a text that is not empty ends behind the place where it starts;
* `Position.eq_of_behind_take_eq` — no two offsets of a text have one place;
* `Position.afterText_of_not_mem` and `Position.column_afterText_of_mem` — the column where a text
  ends, without a newline in it and with one;
* `Position.afterText_newlines` and `Position.afterText_spaces` — where runs of blanks end.
-/

import LoopLex.Text.Position

namespace LoopLex.Position

variable {p q r : Position}

/-! ### Behind one character -/

@[simp] theorem after_newline (p : Position) : p.after '\n' = ⟨p.line + 1, 1⟩ := rfl

theorem after_of_ne {c : Char} (noNewline : c ≠ '\n') (p : Position) :
    p.after c = ⟨p.line, p.column + 1⟩ := if_neg noNewline

/-! ### One place in front of another -/

/-- On an earlier line, or further left on the same line. A later line is entered at column 1. -/
def Precedes (p q : Position) : Prop :=
  p.line < q.line ∧ 1 ≤ q.column ∨ p.line = q.line ∧ p.column < q.column

/-- The place itself, or one in front of `q`. -/
def Reaches (p q : Position) : Prop := p = q ∨ p.Precedes q

theorem Precedes.trans (first : p.Precedes q) (second : q.Precedes r) : p.Precedes r := by
  unfold Precedes at first second ⊢
  omega

theorem Precedes.ne (before : p.Precedes q) : p ≠ q := by
  rintro rfl
  unfold Precedes at before
  omega

theorem Reaches.refl (p : Position) : p.Reaches p := .inl rfl

theorem Precedes.trans_reaches (first : p.Precedes q) (second : q.Reaches r) : p.Precedes r := by
  rcases second with rfl | second
  · exact first
  · exact first.trans second

theorem Reaches.trans_precedes (first : p.Reaches q) (second : q.Precedes r) : p.Precedes r := by
  rcases first with rfl | first
  · exact second
  · exact first.trans second

theorem Reaches.line_le (reach : p.Reaches q) : p.line ≤ q.line := by
  rcases reach with rfl | before
  · exact Int.le_refl _
  · unfold Precedes at before
    omega

/-- A later line is reached at column 1 or further right. -/
theorem Reaches.one_le_column (reach : p.Reaches q) (below : p.line < q.line) : 1 ≤ q.column := by
  rcases reach with rfl | before
  · exact absurd below (Int.lt_irrefl _)
  · unfold Precedes at before
    omega

theorem Reaches.column_le (reach : p.Reaches q) (sameLine : p.line = q.line) :
    p.column ≤ q.column := by
  rcases reach with rfl | before
  · exact Int.le_refl _
  · unfold Precedes at before
    omega

theorem precedes_after (p : Position) (c : Char) : p.Precedes (p.after c) := by
  by_cases newline : c = '\n'
  · subst newline
    exact .inl ⟨Int.lt_succ p.line, Int.le_refl 1⟩
  · rw [after_of_ne newline]
    exact .inr ⟨rfl, Int.lt_succ p.column⟩

theorem reaches_afterText (p : Position) (text : List Char) : p.Reaches (p.afterText text) := by
  induction text generalizing p with
  | nil => exact .refl p
  | cons c text ih => exact .inr ((precedes_after p c).trans_reaches (ih (p.after c)))

/-- **A text that is not empty ends behind the place where it starts.** -/
theorem precedes_afterText (p : Position) {text : List Char} (nonempty : text ≠ []) :
    p.Precedes (p.afterText text) := by
  cases text with
  | nil => exact absurd rfl nonempty
  | cons c text => exact (precedes_after p c).trans_reaches (reaches_afterText _ text)

/-! ### Where longer texts end -/

theorem behind_nil (line : Int) : behind line [] = startOf line := (afterText_startOf line []).symm

theorem behind_append (line : Int) (front text : List Char) :
    behind line (front ++ text) = (behind line front).afterText text := by
  rw [← afterText_startOf, afterText_append, afterText_startOf]

/-- A later offset of a text has a place further on. -/
theorem behind_take_precedes (line : Int) {text : List Char} {m n : Nat} (less : m < n)
    (within : n ≤ text.length) :
    (behind line (text.take m)).Precedes (behind line (text.take n)) := by
  have front : (text.take n).take m = text.take m := by
    rw [List.take_take, Nat.min_eq_left (Nat.le_of_lt less)]
  have split : text.take n = text.take m ++ (text.take n).drop m := by
    rw [← front, List.take_append_drop]
  have nonempty : (text.take n).drop m ≠ [] := by
    rw [← List.length_pos_iff, List.length_drop, List.length_take]
    omega
  rw [split, behind_append]
  exact precedes_afterText _ nonempty

/-- **A place belongs to one offset of a text.** -/
theorem eq_of_behind_take_eq {line : Int} {text : List Char} {m n : Nat} (mWithin : m ≤ text.length)
    (nWithin : n ≤ text.length) (same : behind line (text.take m) = behind line (text.take n)) :
    m = n := by
  rcases Nat.lt_trichotomy m n with less | equal | greater
  · exact absurd same (behind_take_precedes line less nWithin).ne
  · exact equal
  · exact absurd same.symm (behind_take_precedes line greater mWithin).ne

theorem afterText_concat (p : Position) (text : List Char) {c : Char} (noNewline : c ≠ '\n') :
    p.afterText (text ++ [c]) = ⟨(p.afterText text).line, (p.afterText text).column + 1⟩ := by
  rw [afterText_append, afterText_cons, afterText_nil, after_of_ne noNewline]

/-- Every newline after the first starts at column 1, so only their number counts. -/
theorem afterText_newlines (p : Position) (n : Nat) :
    p.afterText (List.replicate (n + 1) '\n') = ⟨p.line + (n + 1), 1⟩ := by
  induction n generalizing p with
  | zero => rfl
  | succ n ih =>
    rw [List.replicate_succ, afterText_cons, ih, after_newline, Int.add_assoc, Int.add_comm 1,
      Int.natCast_succ]

/-- **Without a newline a text goes on to the right**, by one column for each character. -/
theorem afterText_of_not_mem (p : Position) {text : List Char} (noNewline : '\n' ∉ text) :
    p.afterText text = ⟨p.line, p.column + text.length⟩ := by
  induction text generalizing p with
  | nil => simp
  | cons c text ih =>
    obtain ⟨other, later⟩ := List.ne_and_not_mem_of_not_mem_cons noNewline
    rw [afterText_cons, ih _ later, after_of_ne (Ne.symm other), List.length_cons, Int.add_assoc,
      Int.add_comm 1, Int.natCast_succ]

/-- **Behind a newline no column tells where the text started.** -/
theorem column_afterText_of_mem (p q : Position) {text : List Char} (newline : '\n' ∈ text) :
    (p.afterText text).column = (q.afterText text).column := by
  induction text generalizing p q with
  | nil => cases newline
  | cons c text ih =>
    rw [afterText_cons, afterText_cons]
    by_cases later : '\n' ∈ text
    · exact ih _ _ later
    · obtain rfl : '\n' = c := (List.mem_cons.mp newline).resolve_right later
      rw [afterText_of_not_mem _ later, afterText_of_not_mem _ later]
      rfl

theorem afterText_spaces (p : Position) (n : Nat) :
    p.afterText (List.replicate n ' ') = ⟨p.line, p.column + n⟩ := by
  have noNewline : '\n' ∉ List.replicate n ' ' := by simp [List.mem_replicate]
  rw [afterText_of_not_mem p noNewline, List.length_replicate]

end LoopLex.Position
