/-
**Positions in a text**: lines counted from any starting line, columns counted from 1 on each line.

A newline stands on the line that it ends; the character after it is at column 1 of the next line.

* `Position.afterText` — where a text ends, counted along the text;
* `Position.behind` — the same by counting newlines, and characters since the last of them;
* `Position.afterText_startOf` — the two agree.
-/

namespace LoopLex

/-- A line and a column. -/
structure Position where
  line : Int
  column : Int
deriving DecidableEq, Repr

namespace Position

/-- The start of line `line`. -/
def startOf (line : Int) : Position := ⟨line, 1⟩

/-- Where the character after `c` stands, if `c` stands at `p`. -/
def after (p : Position) (c : Char) : Position :=
  if c = '\n' then ⟨p.line + 1, 1⟩ else ⟨p.line, p.column + 1⟩

/-- Where a text that starts at `p` ends. -/
def afterText (p : Position) (text : List Char) : Position := text.foldl after p

@[simp] theorem afterText_nil (p : Position) : p.afterText [] = p := rfl

@[simp] theorem afterText_cons (p : Position) (c : Char) (text : List Char) :
    p.afterText (c :: text) = (p.after c).afterText text := rfl

/-- Where a text that starts at line `line` ends: one line further for every newline, and one column
further for every character since the last of them. -/
def behind (line : Int) (text : List Char) : Position :=
  ⟨line + text.count '\n', 1 + (text.reverse.takeWhile (· ≠ '\n')).length⟩

theorem afterText_append (p : Position) (first second : List Char) :
    p.afterText (first ++ second) = (p.afterText first).afterText second :=
  List.foldl_append

/-- One more character moves the end of a text by that character. -/
theorem behind_append_singleton (line : Int) (text : List Char) (c : Char) :
    behind line (text ++ [c]) = (behind line text).after c := by
  by_cases newline : c = '\n'
  · subst newline
    simp [behind, after, Int.add_assoc]
  · simp [behind, after, newline, Int.add_assoc]

/-- Counting along a text gives the place behind it. -/
theorem afterText_startOf (line : Int) (text : List Char) :
    (startOf line).afterText text = behind line text := by
  suffices reversed : ∀ back : List Char,
      (startOf line).afterText back.reverse = behind line back.reverse by
    simpa using reversed text.reverse
  intro back
  induction back with
  | nil => simp [behind, startOf]
  | cons c back ih =>
    rw [List.reverse_cons, afterText_append, ih, behind_append_singleton]
    rfl

end Position

end LoopLex
