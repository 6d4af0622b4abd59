/-
**Source locations**: a line and column of a named source.

A location has a text only if both of its numbers can be written. The file name is any text. As
everywhere in the library, texts are sequences of Unicode scalar values, so a lone surrogate is no
character of theirs.

* `Location.text` and `Location.debugText` — the two forms of a location;
* `Location.Writable` — whether it has them, and `Location.refusal` if it has not.
-/

import LoopLex.Number.Numeral
import LoopLex.Text.Quoted

namespace LoopLex

/-- A place in a named source. -/
structure Location where
  filename : String
  line : Int
  column : Int
deriving DecidableEq, Repr

namespace Location

/-- The line and the column as text. -/
def figures (location : Location) : Except Misuse (String × String) := do
  let line ← Numeral.write location.line
  let column ← Numeral.write location.column
  return (line, column)

/-- The location as messages show it: file name, line and column with colons between. -/
def text (location : Location) : Except Misuse String := do
  let (line, column) ← location.figures
  return location.filename ++ ":" ++ line ++ ":" ++ column

/-- The location with its fields named and the file name quoted. -/
def debugText (location : Location) : Except Misuse String := do
  let (line, column) ← location.figures
  return "SourceLocation(filename=" ++ quoted location.filename ++ ", line=" ++ line ++
    ", column=" ++ column ++ ")"

/-- Both numbers of the location can be written. -/
def Writable (location : Location) : Prop :=
  Numeral.Writable location.line ∧ Numeral.Writable location.column

instance : DecidablePred Writable := fun location =>
  inferInstanceAs (Decidable (Numeral.Writable location.line ∧ Numeral.Writable location.column))

/-- Why a location has no text: the line cannot be written, or else the column. -/
def refusal (location : Location) : Misuse :=
  .unwritable (if Numeral.Writable location.line then location.column else location.line)

variable {location : Location}

theorem exists_unwritable (long : ¬ location.Writable) :
    ∃ number, ¬ Numeral.Writable number ∧ .unwritable number = location.refusal := by
  refine ⟨_, ?_, rfl⟩
  by_cases line : Numeral.Writable location.line
  · rw [if_pos line]
    exact fun column => long ⟨line, column⟩
  · rw [if_neg line]
    exact line

theorem figures_of_writable (writable : location.Writable) :
    location.figures = .ok (toString location.line, toString location.column) := by
  unfold figures
  rw [Numeral.write_of_writable writable.1, Numeral.write_of_writable writable.2]
  rfl

theorem figures_of_not_writable (long : ¬ location.Writable) :
    location.figures = .error location.refusal := by
  unfold figures refusal
  by_cases line : Numeral.Writable location.line
  · have column : ¬ Numeral.Writable location.column := fun column => long ⟨line, column⟩
    rw [Numeral.write_of_writable line, Numeral.write_of_not_writable column, if_pos line]
    rfl
  · rw [Numeral.write_of_not_writable line, if_neg line]
    rfl

theorem text_of_writable (writable : location.Writable) :
    location.text = .ok (location.filename ++ ":" ++ toString location.line ++ ":" ++
      toString location.column) := by
  unfold text
  rw [figures_of_writable writable]
  rfl

theorem text_of_not_writable (long : ¬ location.Writable) :
    location.text = .error location.refusal := by
  unfold text
  rw [figures_of_not_writable long]
  rfl

theorem debugText_of_writable (writable : location.Writable) :
    location.debugText = .ok ("SourceLocation(filename=" ++ quoted location.filename ++
      ", line=" ++ toString location.line ++ ", column=" ++ toString location.column ++ ")") := by
  unfold debugText
  rw [figures_of_writable writable]
  rfl

theorem debugText_of_not_writable (long : ¬ location.Writable) :
    location.debugText = .error location.refusal := by
  unfold debugText
  rw [figures_of_not_writable long]
  rfl

end Location

end LoopLex
