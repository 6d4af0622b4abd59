/-
**Diagnostics**: messages about a place of a source text, in up to four rows.

The header gives the place and what is wrong there. Below it stand the source line, a caret under
the column of the place, and a hint. A row that has nothing to show is left out. Rows can be of any
length, and so can the indentation of the caret. If the place has no text, there is no message.

* `Diagnostic.rows` and `Diagnostic.message` — the rows, and the rows with newlines between;
* `Fault.diagnostic` — the diagnostic of a lexical error.
-/

import LoopLex.Diagnostic.Cause
import LoopLex.Text.Location
import LoopLex.Text.OneLine

namespace LoopLex

/-- A message about a source text. -/
structure Diagnostic where
  /-- The rule that is broken, if it is one of the known ones. -/
  rule : Option Rule
  /-- What is wrong. -/
  description : String
  /-- The place that the message is about. -/
  location : Option Location
  /-- The source text at that place, as far as it was read. -/
  near : String
  /-- What helps. -/
  hint : Option String
  /-- The line of the source that the place is on. -/
  sourceLine : Option String
deriving DecidableEq, Repr

namespace Diagnostic

/-- The diagnostic of a cause, with the wording of that cause. -/
def ofCause (cause : Cause) (location : Option Location) (near : String)
    (sourceLine : Option String) : Diagnostic :=
  ⟨some cause.rule, cause.description, location, near, cause.hint?, sourceLine⟩

/-- What the header starts with: the place, if there is one. -/
def lead (diagnostic : Diagnostic) : Except Misuse String :=
  match diagnostic.location with
  | some location => do return (← location.text) ++ ": "
  | none => return ""

/-- The header behind its start: what is wrong, and the text near the place. -/
def headerBehind (diagnostic : Diagnostic) (lead : String) : String :=
  lead ++ "error: " ++ diagnostic.description ++ " near '" ++ oneLine diagnostic.near ++ "'"

/-- The row with the place and what is wrong. -/
def header (diagnostic : Diagnostic) : Except Misuse String := do
  return diagnostic.headerBehind (← diagnostic.lead)

/-- A row with a caret, under column `column` of a source line that is indented by four. -/
def caretRow (column : Int) : String :=
  String.ofList (List.replicate (column + 3).toNat ' ' ++ ['^'])

/-- The source line and the caret below it, which needs a column that the line can have. -/
def sourceRows (diagnostic : Diagnostic) : List String :=
  match diagnostic.location, diagnostic.sourceLine with
  | some location, some line =>
    ("    " ++ line) :: if 0 < location.column then [caretRow location.column] else []
  | _, _ => []

/-- The row with the hint, unless the hint is empty. -/
def hintRows (diagnostic : Diagnostic) : List String :=
  match diagnostic.hint with
  | some hint => if hint = "" then [] else ["hint: " ++ hint]
  | none => []

/-- The rows of the message. -/
def rows (diagnostic : Diagnostic) : Except Misuse (List String) := do
  return (← diagnostic.header) :: diagnostic.sourceRows ++ diagnostic.hintRows

/-- The whole message. -/
def message (diagnostic : Diagnostic) : Except Misuse String := do
  return "\n".intercalate (← diagnostic.rows)

variable {diagnostic : Diagnostic}

/-- Nothing but the place can keep a message from being put together. -/
theorem message_of_lead {lead : String} (start : diagnostic.lead = .ok lead) :
    diagnostic.message = .ok ("\n".intercalate (diagnostic.headerBehind lead ::
      (diagnostic.sourceRows ++ diagnostic.hintRows))) := by
  unfold message rows header
  rw [start]
  rfl

theorem exists_lead_of_message {text : String} (shown : diagnostic.message = .ok text) :
    ∃ lead, diagnostic.lead = .ok lead := by
  obtain ⟨rows, known, -⟩ := exists_of_bind_eq_ok shown
  obtain ⟨header, known, -⟩ := exists_of_bind_eq_ok known
  obtain ⟨lead, known, -⟩ := exists_of_bind_eq_ok known
  exact ⟨lead, known⟩

theorem lead_of_text {location : Location} {text : String}
    (place : diagnostic.location = some location) (shown : location.text = .ok text) :
    diagnostic.lead = .ok (text ++ ": ") := by
  unfold lead
  rw [place]
  dsimp only
  rw [shown]
  rfl

theorem lead_of_none (nowhere : diagnostic.location = none) : diagnostic.lead = .ok "" := by
  unfold lead
  rw [nowhere]
  rfl

theorem message_of_not_writable {location : Location} (place : diagnostic.location = some location)
    (long : ¬ location.Writable) : diagnostic.message = .error location.refusal := by
  unfold message rows header lead
  rw [place]
  dsimp only
  rw [Location.text_of_not_writable long]
  rfl

end Diagnostic

/-- A lexical error of a source text. -/
structure Fault where
  /-- Why no token starts at the location. -/
  cause : Cause
  /-- Where the token would start. -/
  location : Location
  /-- The source text from there on, as far as it was read. -/
  near : String
  /-- The line of the source that the location is on. -/
  sourceLine : String
deriving DecidableEq, Repr

/-- The diagnostic of a lexical error. -/
def Fault.diagnostic (fault : Fault) : Diagnostic :=
  .ofCause fault.cause (some fault.location) fault.near (some fault.sourceLine)

theorem Fault.location_diagnostic (fault : Fault) :
    fault.diagnostic.location = some fault.location := rfl

end LoopLex
