/-
**The script of digits does not matter.** A text with all its decimal digits written as ASCII digits
of the same value is scanned in the same way.

A digit of any script is a digit for every rule, and counts with its value in a number. Nothing else
is looked for in it, so writing it as another digit respells the text. Digits in names, in strings
and in what is near a fault are respelled with the rest. No digit is a NUL, so all NULs stay.

* `plainDigit` — the ASCII digit of the value of a digit;
* `lt_ten_of_digitValueFrom` — a digit has a value below ten, and so an ASCII digit;
* `respelling_plainDigit` — writing digits as ASCII digits respells;
* `scan_plainDigits` — both outcomes of a scan.
-/

import LoopLex.Proofs.Scan.Respelling
import Mathlib.Control.Monad.Basic

namespace LoopLex

open Unicode (isDigit isLetter digitValue? digitValueFrom)

/-- The ASCII digit of the same value for a decimal digit of any script, and every other character
for itself. -/
def plainDigit (c : Char) : Char :=
  match digitValue? c with
  | some value => Nat.digitChar value
  | none => c

theorem plainDigit_of_not_digit {c : Char} (noDigit : digitValue? c = none) : plainDigit c = c := by
  unfold plainDigit
  rw [noDigit]

/-! ### The values of digits -/

/-- Every script has ten digits. -/
theorem lt_ten_of_digitValueFrom {zeros : List Nat} {n value : Nat}
    (found : digitValueFrom zeros n = some value) : value < 10 := by
  induction zeros with
  | nil => cases found
  | cons first zeros ih =>
    unfold digitValueFrom at found
    split at found
    · cases found
    · split at found
      · cases found
        omega
      · exact ih found

theorem digitValue?_digitChar {value : Nat} (less : value < 10) :
    digitValue? (Nat.digitChar value) = some value := by
  have found : ∀ value < 10, digitValue? (Nat.digitChar value) = some value := by decide
  exact found value less

/-- **The ASCII digit has the value of the digit.** -/
theorem digitValue?_plainDigit (c : Char) : digitValue? (plainDigit c) = digitValue? c := by
  unfold plainDigit
  cases found : digitValue? c with
  | some value => exact digitValue?_digitChar (lt_ten_of_digitValueFrom found)
  | none => exact found

/-! ### Writing digits as ASCII digits -/

/-- No rule looks for a digit but for its value. -/
theorem isFree_of_isDigit {c : Char} (digit : isDigit c = true) : isFree c = true := by
  have unmarked : c ∉ '_' :: '.' :: openers := by
    have kept : (('_' :: '.' :: openers).all fun c => !isDigit c) = true := by decide
    intro member
    have other : isDigit c = false := Bool.not_eq_eq_eq_not.mp (List.all_eq_true.mp kept c member)
    exact absurd digit (Bool.eq_false_iff.mp other)
  simp [isFree, isLetter_of_isDigit digit, unmarked]

/-- **Writing digits as ASCII digits respells.** -/
theorem respelling_plainDigit : Respelling plainDigit where
  free c := by
    cases found : digitValue? c with
    | none => exact .inl (plainDigit_of_not_digit found)
    | some value =>
      have found' := (digitValue?_plainDigit c).trans found
      have digit : isDigit c = true := Option.isSome_iff_exists.mpr ⟨value, found⟩
      have digit' : isDigit (plainDigit c) = true := Option.isSome_iff_exists.mpr ⟨value, found'⟩
      exact .inr ⟨isFree_of_isDigit digit, isFree_of_isDigit digit'⟩
  digitValue := digitValue?_plainDigit
  nul c nul := by
    have value := digitValue?_plainDigit c
    rw [nul] at value
    have noDigit : digitValue? c = none := value.symm
    rw [plainDigit_of_not_digit noDigit] at nul
    exact nul

namespace Scan

/-- The end of input has no digit. -/
theorem map_respell_append_endOfInput (words : List Token) (place : Position) :
    (words ++ [Token.endOfInput place]).map (Token.respell plainDigit) =
      words.map (Token.respell plainDigit) ++ [.endOfInput place] := by
  have nul : respell plainDigit Token.endLexeme = Token.endLexeme := by decide
  rw [List.map_append, List.map_singleton]
  unfold Token.endOfInput Token.respell
  rw [nul]
  rfl

theorem scan_plainDigits_of_ok {source : String} {options : Options} {tokens : List Token}
    (done : scan source options = .ok { tokens }) :
    scan (respell plainDigit source) options =
      .ok { tokens := tokens.map (Token.respell plainDigit) } := by
  obtain ⟨words, place, rfl, _, respelled⟩ := scan_respell_of_ok respelling_plainDigit done
  rw [map_respell_append_endOfInput]
  exact respelled

/-- **The script of digits does not matter.** Where all digits are written as ASCII digits of the
same value, a scan has the same tokens at the same places, with the same numbers for their values,
or the same fault. Only texts are written in ASCII digits: lexemes, the values of strings and
characters, what is near a fault, and its line. -/
theorem scan_plainDigits (source : String) (options : Options) :
    ((∃ tokens, scan (respell plainDigit source) options = .ok { tokens }) ↔
      ∃ tokens, scan source options = .ok { tokens }) ∧
    (∀ tokens, scan source options = .ok { tokens } →
      scan (respell plainDigit source) options =
        .ok { tokens := tokens.map (Token.respell plainDigit) }) ∧
    ∀ fault, scan source options = .ok { fault := some fault } →
      scan (respell plainDigit source) options =
        .ok { fault := some (fault.respell plainDigit) } := by
  refine ⟨⟨?_, ?_⟩, fun tokens => scan_plainDigits_of_ok, ?_⟩
  · rintro ⟨tokens, done⟩
    rcases scan_outcome source options with found | ⟨fault, meets⟩
    · exact found
    · have met := meets.respell respelling_plainDigit (by decide)
      exact absurd (met.scan_eq.symm.trans done) Fault.outcome_ne_tokens
  · rintro ⟨tokens, done⟩
    exact ⟨_, scan_plainDigits_of_ok done⟩
  · intro fault stopped
    obtain ⟨meets, writable⟩ := scan_eq_fault_iff.mp stopped
    exact scan_eq_fault_iff.mpr ⟨meets.respell respelling_plainDigit (by decide), writable⟩

/-- Digits of three scripts in a number, a name and a string, and a letter behind others. -/
theorem scan_plainDigits_of_three_scripts :
    (∃ tokens, scan "٣.५ x１\n\"１\"" ⟨"f", 1⟩ = .ok { tokens } ∧
      scan "3.5 x1\n\"1\"" ⟨"f", 1⟩ = .ok { tokens := tokens.map (Token.respell plainDigit) }) ∧
    ∃ fault, scan "'५' १１a" ⟨"f", 1⟩ = .ok { fault := some fault } ∧
      fault.cause = .letterAfterNumber ∧
      scan "'5' 11a" ⟨"f", 1⟩ = .ok { fault := some { fault with
        near := "11"
        sourceLine := "'5' 11a" } } := by
  have first : respell plainDigit "٣.५ x１\n\"１\"" = "3.5 x1\n\"1\"" := by decide +kernel
  have second : respell plainDigit "'५' १１a" = "'5' 11a" := by decide +kernel
  have done : scan "٣.५ x１\n\"１\"" ⟨"f", 1⟩ = .ok
      { tokens := [⟨.floatLiteral, "٣.५", some (.float (.ofRatio 35 10)), 1, 1, 3⟩,
        ⟨.identifier, "x１", none, 1, 5, 6⟩, ⟨.stringLiteral, "\"１\"", some (.text "１"), 2, 1, 3⟩,
        ⟨.endOfInput, "\x00", none, 2, 4, 4⟩] } := by
    decide +kernel
  have stopped : scan "'५' १１a" ⟨"f", 1⟩ =
      .ok { fault := some ⟨.letterAfterNumber, ⟨"f", 1, 5⟩, "१１", "'५' १１a"⟩ } := by
    decide +kernel
  have tokens := (scan_plainDigits "٣.५ x１\n\"１\"" ⟨"f", 1⟩).2.1 _ done
  have fault := (scan_plainDigits "'५' १１a" ⟨"f", 1⟩).2.2 _ stopped
  have near : respell plainDigit "१１" = "11" := by decide +kernel
  unfold Fault.respell at fault
  rw [first] at tokens
  simp only [second, near] at fault
  exact ⟨⟨_, done, tokens⟩, _, stopped, rfl, fault⟩

end Scan

end LoopLex
