/-
**Misuse of a partial operation.**

A cursor cannot move past the end of its text, only a numeral has a value, and only an integer with
a bounded number of digits can be written. An operation that is asked for more says so. Of the
three a scan meets only the last one, and only for the place of an error.
-/

namespace LoopLex

/-- Why a partial operation refused. -/
inductive Misuse where
  /-- The cursor stands at the end of its text. -/
  | pastEnd
  /-- The text is no numeral of the kind that was asked for. -/
  | notNumeral (text : String)
  /-- The integer has more digits than can be written. -/
  | unwritable (number : Int)
deriving DecidableEq, Repr

namespace Misuse

/-- The reason in words. -/
def message : Misuse → String
  | pastEnd => "advance() called at end of source"
  | notNumeral text => "not a numeral: " ++ text
  | unwritable _ => "Exceeds the limit (4300 digits) for integer string conversion"

end Misuse

/-- An operation after another one has a result only if both have. -/
theorem exists_of_bind_eq_ok {α β : Type} {operation : Except Misuse α}
    {next : α → Except Misuse β} {b : β} (done : (operation >>= next) = .ok b) :
    ∃ a, operation = .ok a ∧ next a = .ok b := by
  cases operation with
  | error misuse => cases done
  | ok a => exact ⟨a, rfl, done⟩

end LoopLex
