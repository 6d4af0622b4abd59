/-
**Scanning a text in fragments.** A text can be cut at a newline and its fragments scanned one after
the other, if each is told the number of its first line.

A newline ends every word, so a first fragment that is scanned to its end gives the same tokens when
more lines follow. What follows starts on a line of its own, with the number it is told, and no
column or source line of it depends on the lines before. Only a string or a character literal that
the first fragment leaves open can reach across the newline.

* `Takes.append_newline` — a fragment and a newline are taken as the fragment alone;
* `lineAround_append_newline` and `lineAround_newline_append` — a source line ends at a newline;
* `scan_append_newline` — the scan of two fragments with a newline between.
-/

import LoopLex.Proofs.Scan.Taking
import LoopLex.Proofs.Text.Order
import Mathlib.Control.Monad.Basic

namespace LoopLex

/-- The options for the lines that follow `text` and a newline. -/
def Options.after (options : Options) (text : String) : Options :=
  { options with lineNumber := options.lineNumber + text.toList.count '\n' + 1 }

/-! ### Places behind a newline -/

theorem behind_concat_newline (line : Int) (text : List Char) :
    Position.behind line (text ++ ['\n']) = .startOf (line + text.count '\n' + 1) := by
  rw [Position.behind_append_singleton, Position.after, if_pos rfl]
  rfl

/-- Behind a newline, places are counted from the line that starts there. -/
theorem behind_newline_append (line : Int) (first second : List Char) :
    Position.behind line (first ++ ['\n'] ++ second) =
      .behind (line + first.count '\n' + 1) second := by
  rw [Position.behind_append, behind_concat_newline, Position.afterText_startOf]

theorem takeWhile_append_newline (front back : List Char) :
    (front ++ '\n' :: back).takeWhile (· ≠ '\n') = front.takeWhile (· ≠ '\n') := by
  have stop : ('\n' :: back).takeWhile (· ≠ '\n') = [] := by simp
  rw [List.takeWhile_append, stop]
  split
  · rename_i whole
    rw [List.append_nil]
    exact ((List.takeWhile_prefix _).eq_of_length whole).symm
  · rfl

theorem lineAround_append_newline (before ahead back : List Char) :
    lineAround before (ahead ++ '\n' :: back) = lineAround before ahead := by
  unfold lineAround
  rw [takeWhile_append_newline]

theorem lineAround_newline_append (first before ahead : List Char) :
    lineAround (first ++ ['\n'] ++ before) ahead = lineAround before ahead := by
  have reversed :
      (first ++ ['\n'] ++ before).reverse = before.reverse ++ '\n' :: first.reverse := by
    simp only [List.reverse_append, List.reverse_singleton, List.singleton_append]
  unfold lineAround
  rw [reversed, takeWhile_append_newline]

namespace Scan

/-! ### Two fragments -/

theorem startsBlank_newline (text : List Char) : StartsBlank ('\n' :: text) := by
  intro c head
  cases head
  decide

/-- **A fragment and a newline are taken as the fragment alone**, whatever follows. -/
theorem Takes.append_newline {line : Int} {first : List Char} {words : List Token}
    (takes : Takes (.startOf line) first [] words) (rest : List Char) :
    Takes (.startOf line) (first ++ ['\n']) rest words := by
  have front : Takes (.startOf line) first (['\n'] ++ rest) words :=
    takes.append_blank (startsBlank_newline rest)
  have newline : Takes ((Position.startOf line).afterText first) ['\n'] rest [] :=
    .blank (by decide) (.nil _ rest)
  have both := front.append newline
  rw [List.append_nil] at both
  exact both

theorem Takes.newline_append {line : Int} {first second rest : List Char} {words more : List Token}
    (front : Takes (.startOf line) first [] words)
    (back : Takes (.startOf (line + first.count '\n' + 1)) second rest more) :
    Takes (.startOf line) (first ++ ['\n'] ++ second) rest (words ++ more) := by
  refine (front.append_newline (second ++ rest)).append ?_
  rw [Position.afterText_startOf, behind_concat_newline]
  exact back

theorem toList_append_newline (first second : String) :
    (first ++ "\n" ++ second).toList = first.toList ++ ['\n'] ++ second.toList := by
  rw [String.toList_append, String.toList_append]
  rfl

variable {first second : String} {options : Options} {words : List Token} {last : Token}

theorem scan_newline_of_ok {more : List Token}
    (front : scan first options = .ok { tokens := words ++ [last] })
    (back : scan second (options.after first) = .ok { tokens := more }) :
    scan (first ++ "\n" ++ second) options = .ok { tokens := words ++ more } := by
  obtain ⟨words', takesFirst, same⟩ := scan_eq_ok_iff.mp front
  obtain ⟨more', takesSecond, rfl⟩ := scan_eq_ok_iff.mp back
  obtain ⟨rfl, _⟩ := List.append_inj' same rfl
  have takes := takesFirst.newline_append takesSecond
  refine scan_eq_ok_iff.mpr ⟨words ++ more', ?_, ?_⟩
  · rw [toList_append_newline]
    exact takes
  · rw [toList_append_newline, behind_newline_append, List.append_assoc]
    rfl

/-- A fault that is met in the second fragment is met in both. -/
theorem meets_newline {fault : Fault}
    (front : scan first options = .ok { tokens := words ++ [last] })
    (back : Meets second (options.after first) fault) :
    Meets (first ++ "\n" ++ second) options fault := by
  obtain ⟨words', takesFirst, _⟩ := scan_eq_ok_iff.mp front
  obtain ⟨before, near, rest, more, cause, split, takesSecond, flaw, rfl⟩ := back
  refine ⟨first.toList ++ ['\n'] ++ before, near, rest, words' ++ more, cause,
    ?_, takesFirst.newline_append takesSecond, flaw, ?_⟩
  · rw [toList_append_newline, split, List.append_assoc (first.toList ++ ['\n'])]
  · unfold Fault.ofFlaw
    rw [lineAround_newline_append, behind_newline_append]
    rfl

/-- A fault of the first fragment is that of both, unless a literal is open there. -/
theorem meets_newline_first {fault : Fault} (front : Meets first options fault)
    (closed : fault.cause.rule = .unexpectedCharacter ∨ fault.cause.rule = .malformedNumber) :
    Meets (first ++ "\n" ++ second) options fault := by
  obtain ⟨before, near, rest, words, cause, split, takes, flaw, rfl⟩ := front
  have closed : cause.rule = .unexpectedCharacter ∨ cause.rule = .malformedNumber := closed
  have noString : cause ≠ .openString := by
    rintro rfl
    rcases closed with other | other <;> cases other
  have noChar : cause ≠ .openChar := by
    rintro rfl
    rcases closed with other | other <;> cases other
  have blank := startsBlank_newline second.toList
  have goesOn : near ++ rest ++ '\n' :: second.toList = near ++ (rest ++ '\n' :: second.toList) :=
    List.append_assoc _ _ _
  refine ⟨before, near, rest ++ '\n' :: second.toList, words, cause, ?_, ?_,
    flaw.append noString noChar blank, ?_⟩
  · rw [toList_append_newline, split, ← goesOn]
    simp only [List.append_assoc, List.singleton_append]
  · rw [← goesOn]
    exact takes.append_blank blank
  · unfold Fault.ofFlaw
    rw [← goesOn, lineAround_append_newline]

/-- **The scan of two fragments with a newline between.** If the first is scanned to its end, the
scan of both is that of the second behind it, with the tokens of the first in front, or with the
same fault. If the first has a fault and leaves no literal open, the scan of both has that fault. -/
theorem scan_append_newline (first second : String) (options : Options) :
    (∀ words last, scan first options = .ok { tokens := words ++ [last] } →
      (∀ tokens, scan (first ++ "\n" ++ second) options = .ok { tokens } ↔
        ∃ more, scan second (options.after first) = .ok { tokens := more } ∧
          tokens = words ++ more) ∧
      ∀ fault, scan (first ++ "\n" ++ second) options = .ok { fault := some fault } ↔
        scan second (options.after first) = .ok { fault := some fault }) ∧
    ∀ fault, scan first options = .ok { fault := some fault } →
      fault.cause.rule = .unexpectedCharacter ∨ fault.cause.rule = .malformedNumber →
        scan (first ++ "\n" ++ second) options = .ok { fault := some fault } := by
  constructor
  · intro words last front
    constructor
    · intro tokens
      constructor
      · intro done
        rcases scan_outcome second (options.after first) with ⟨more, back⟩ | ⟨fault, back⟩
        · refine ⟨more, back, ?_⟩
          rw [scan_newline_of_ok front back] at done
          exact (congrArg Result.tokens (Except.ok.inj done)).symm
        · exact absurd ((meets_newline front back).scan_eq.symm.trans done)
            Fault.outcome_ne_tokens
      · rintro ⟨more, back, rfl⟩
        exact scan_newline_of_ok front back
    · intro fault
      constructor
      · intro stopped
        rcases scan_outcome second (options.after first) with ⟨more, back⟩ | ⟨other, back⟩
        · rw [scan_newline_of_ok front back] at stopped
          exact absurd stopped tokens_ne_fault
        · rw [back.scan_eq, ← (meets_newline front back).scan_eq]
          exact stopped
      · intro stopped
        obtain ⟨back, writable⟩ := scan_eq_fault_iff.mp stopped
        exact scan_eq_fault_iff.mpr ⟨meets_newline front back, writable⟩
  · intro fault stopped closed
    obtain ⟨front, writable⟩ := scan_eq_fault_iff.mp stopped
    exact scan_eq_fault_iff.mpr ⟨meets_newline_first front closed, writable⟩

/-- A fault of the second fragment, and one of the first in front of a literal that is left open. -/
theorem scan_append_newline_cases :
    (∃ words fault, scan "a\n 3" ⟨"f", 7⟩ = .ok { tokens := words ++ [.endOfInput ⟨8, 3⟩] } ∧
      scan "." ⟨"f", 9⟩ = .ok { fault := some fault } ∧
      scan "a\n 3\n." ⟨"f", 7⟩ = .ok { fault := some fault }) ∧
    ∃ fault, scan "3a \"" ⟨"f", 7⟩ = .ok { fault := some fault } ∧
      scan "3a \"\n\"" ⟨"f", 7⟩ = .ok { fault := some fault } := by
  have words : scan "a\n 3" ⟨"f", 7⟩ = .ok { tokens := [⟨.identifier, "a", none, 7, 1, 1⟩,
      ⟨.intLiteral, "3", some (.int 3), 8, 2, 2⟩] ++ [.endOfInput ⟨8, 3⟩] } := by
    decide +kernel
  have dot : scan "." ⟨"f", 9⟩ =
      .ok { fault := some ⟨.strayCharacter, ⟨"f", 9, 1⟩, ".", "."⟩ } := by
    decide +kernel
  have letter : scan "3a \"" ⟨"f", 7⟩ =
      .ok { fault := some ⟨.letterAfterNumber, ⟨"f", 7, 1⟩, "3", "3a \""⟩ } := by
    decide +kernel
  exact ⟨⟨_, _, words, dot, (((scan_append_newline "a\n 3" "." ⟨"f", 7⟩).1 _ _ words).2 _).mpr dot⟩,
    _, letter, (scan_append_newline "3a \"" "\"" ⟨"f", 7⟩).2 _ letter (.inr rfl)⟩

end Scan

end LoopLex
