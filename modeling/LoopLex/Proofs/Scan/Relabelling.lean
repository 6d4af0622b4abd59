/-
**The options of a scan are labels.** What the source is called and where its first line is counted
from shows in the places of tokens and faults, and nowhere else.

No rule looks at a place. A scan that starts on another line takes the same pieces, each as many
lines further on, and the line that a fault shows is cut out of the text, whatever its number is. A
message shows the place first, and what follows does not depend on file name and line. Only a line
with too many digits shows itself, by the message that cannot be put together.

* `Position.shift`, `Token.shift` and `Fault.relabel` — places in other lines, and of another file;
* `Takes.shift` — what is taken from one line on is taken from every line on;
* `Fault.message_eq` — a message is the place, and a text that is the same for all labels;
* `scan_relabel` — the outcomes of two scans of one source.
-/

import LoopLex.Proofs.Scan.Taking
import Mathlib.Control.Monad.Basic

namespace LoopLex

/-! ### Other lines -/

/-- The place that many lines further on, or back. -/
def Position.shift (lines : Int) (place : Position) : Position :=
  ⟨place.line + lines, place.column⟩

/-- The token that many lines further on. -/
def Token.shift (lines : Int) (token : Token) : Token := { token with line := token.line + lines }

/-- The fault in a source of that name, and that many lines further on. -/
def Fault.relabel (filename : String) (lines : Int) (fault : Fault) : Fault :=
  { fault with
    location := ⟨filename, fault.location.line + lines, fault.location.column⟩ }

variable {lines : Int}

namespace Position

theorem after_shift (place : Position) (c : Char) :
    (place.shift lines).after c = (place.after c).shift lines := by
  by_cases newline : c = '\n'
  · simp only [after, if_pos newline, shift, Int.add_right_comm]
  · simp only [after, if_neg newline, shift]

/-- **A text that starts on another line ends as many lines further on.** -/
theorem afterText_shift (place : Position) (text : List Char) :
    (place.shift lines).afterText text = (place.afterText text).shift lines := by
  induction text generalizing place with
  | nil => rfl
  | cons c text ih => rw [afterText_cons, afterText_cons, after_shift, ih]

end Position

theorem Token.ofWord_shift (place : Position) (word : List Char) (kind : Kind)
    (literal : Option Literal) :
    Token.ofWord (place.shift lines) word kind literal =
      (Token.ofWord place word kind literal).shift lines := by
  unfold ofWord
  rw [Position.afterText_shift]
  rfl

/-- **What is taken from one line on is taken from every line on.** -/
theorem Scan.Takes.shift {place : Position} {text rest : List Char} {tokens : List Token}
    (takes : Takes place text rest tokens) (lines : Int) :
    Takes (place.shift lines) text rest (tokens.map (Token.shift lines)) := by
  induction takes with
  | nil place rest => exact .nil _ rest
  | blank blank later ih =>
    rw [← Position.after_shift] at ih
    exact .blank blank ih
  | word reads decoded later ih =>
    rw [← Position.afterText_shift] at ih
    rw [List.map_cons, ← Token.ofWord_shift]
    exact .word reads decoded ih

/-! ### The message of a fault -/

/-- What a message says behind the place of the fault. -/
def Fault.wording (fault : Fault) : String :=
  "\n".intercalate ((": " ++ "error: " ++ fault.cause.description ++ " near '" ++
    oneLine fault.near ++ "'") :: (fault.diagnostic.sourceRows ++ fault.diagnostic.hintRows))

/-- **A message is the place and its wording.** -/
theorem Fault.message_eq {fault : Fault} {place : String}
    (shown : fault.location.text = .ok place) :
    fault.diagnostic.message = .ok (place ++ fault.wording) := by
  have header : fault.diagnostic.headerBehind (place ++ ": ") = place ++
      (": " ++ "error: " ++ fault.cause.description ++ " near '" ++ oneLine fault.near ++ "'") := by
    simp only [← String.append_assoc]
    rfl
  rw [Diagnostic.message_of_lead (Diagnostic.lead_of_text fault.location_diagnostic shown), header,
    wording, ← String.intercalate_cons_append]

/-- The caret depends on the column alone, and no other row on the place. -/
theorem Fault.wording_relabel (fault : Fault) (filename : String) (lines : Int) :
    (fault.relabel filename lines).wording = fault.wording := rfl

/-! ### Two scans of one source -/

namespace Scan

variable {source : String} {options others : Options}

theorem startOf_lineNumber (options others : Options) :
    Position.startOf others.lineNumber =
      (Position.startOf options.lineNumber).shift (others.lineNumber - options.lineNumber) := by
  simp only [Position.startOf, Position.shift, Int.add_comm options.lineNumber,
    Int.sub_add_cancel]

theorem behind_lineNumber (options others : Options) (text : List Char) :
    Position.behind others.lineNumber text =
      (Position.behind options.lineNumber text).shift
        (others.lineNumber - options.lineNumber) := by
  rw [← Position.afterText_startOf, ← Position.afterText_startOf, ← Position.afterText_shift,
    startOf_lineNumber options others]

theorem scan_relabel_of_ok {tokens : List Token} (done : scan source options = .ok { tokens }) :
    scan source others =
      .ok { tokens := tokens.map (Token.shift (others.lineNumber - options.lineNumber)) } := by
  obtain ⟨words, takes, rfl⟩ := scan_eq_ok_iff.mp done
  have taken := takes.shift (others.lineNumber - options.lineNumber)
  rw [← startOf_lineNumber] at taken
  refine scan_eq_ok_iff.mpr ⟨_, taken, ?_⟩
  rw [behind_lineNumber options others, List.map_append]
  rfl

theorem Meets.relabel {fault : Fault} (meets : Meets source options fault) :
    Meets source others
      (fault.relabel others.filename (others.lineNumber - options.lineNumber)) := by
  obtain ⟨front, near, rest, words, cause, split, takes, flaw, rfl⟩ := meets
  have taken := takes.shift (others.lineNumber - options.lineNumber)
  rw [← startOf_lineNumber] at taken
  refine ⟨_, _, _, _, _, split, taken, flaw, ?_⟩
  rw [behind_lineNumber options others]
  rfl

end Scan

end LoopLex
