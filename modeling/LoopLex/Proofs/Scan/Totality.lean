/-
**Every scan ends, in one of two ways.** It has all tokens, the end of input behind them, or it has
none of them and a fault.

Nothing that a scan does on the way is refused. A step is a walk from a mark with text ahead, and
the walk takes no character past the end of the text. What it finds to be a number has the form of
one. So a value is refused only to an integer with too many digits, and that is a fault of the text.

There is one exception, at the very end: the message of a fault shows its place, and a line or a
column with too many digits cannot be written. Then a scan has neither tokens nor a fault. It takes
a source that is counted from so large a line, or is as long itself.

* `exists_finding` — a step with text ahead settles what a walk finds there;
* `Finding.Convertible` — the form of a number whose value is asked for;
* `Result.Settled` — the two outcomes of a scan;
* `Meets.writable` — the places that can be written, by the first line and the length of the source;
* `scan_total` — every scan ends, and `tokenize` tells the same.
-/

import LoopLex.Proofs.Scan.Taking
import LoopLex.Proofs.Scan.Walking
import Mathlib.Control.Monad.Basic

namespace LoopLex

open Unicode (isDigit isLetter)

/-! ### What is converted to a number -/

/-- An integer is refused a value exactly if it has too many digits. -/
theorem integer_eq_error_iff {digits : List Char} (run : DigitRun digits)
    {refusal : Numeral.Refusal} :
    Numeral.integer digits = .error refusal ↔
      4300 < digits.length ∧ refusal = .tooLong digits.length := by
  rw [integer_of_digitRun run, Numeral.maxDigits]
  by_cases long : 4300 < digits.length
  · rw [if_pos long]
    simp [long, eq_comm]
  · rw [if_neg long]
    simp [long]

namespace Scan

/-- The form of the text of a finding, where a value of it is asked for. -/
structure Finding.Convertible (finding : Finding) (text : List Char) : Prop where
  /-- An integer is a run of digits. Its value is refused exactly if there are too many. -/
  integer : finding = .word .integer → DigitRun text ∧ ∀ refusal,
    Numeral.integer text = .error refusal ↔ 4300 < text.length ∧ refusal = .tooLong text.length
  /-- A fraction is two runs of digits with a dot between. It has a value. -/
  fraction : finding = .word .fraction →
    (∃ whole digits, DigitRun whole ∧ DigitRun digits ∧ text = whole ++ '.' :: digits) ∧
      ∃ value, Numeral.fraction text = .ok value

theorem Finding.convertible_of_fits {finding : Finding} {text : List Char}
    (fits : ∀ shape, finding = .word shape → shape.Fits text) : finding.Convertible text where
  integer isInteger := by
    cases fits _ isInteger with
    | integer run => exact ⟨run, fun _ => integer_eq_error_iff run⟩
  fraction isFraction := by
    cases fits _ isFraction with
    | @fraction whole digits left right =>
      exact ⟨⟨whole, digits, left, right, rfl⟩, _, fraction_of_digitRuns left right⟩

/-! ### Pieces -/

/-- The start of a text that is a word is read as the word, or as a number that runs into a
letter. -/
theorem read_word_or_flaw {shape : Shape} {c : Char} {more rest : List Char}
    (fits : shape.Fits (c :: more)) (ends : shape.EndsBefore rest) :
    Head.read c (more ++ rest) = .word shape more ∨
      Head.read c (more ++ rest) = .flaw .letterAfterNumber more := by
  rw [Head.read_of_fits fits ends, Head.closeNumber]
  by_cases number : shape.isNumber = true
  · by_cases led : rest.head?.any isLetter = true
    · simp [number, led]
    · simp [number, led]
  · simp [number]

/-- **A walk with text ahead finds something.** A word is one of the shape that the walk tells. -/
theorem exists_walk {cursor : Cursor} (more : cursor.atEnd = false) :
    ∃ finding text rest, walk cursor = .ok (finding, cursor.past text rest) ∧
      ∀ shape, finding = .word shape → shape.Fits text := by
  obtain ⟨c, behind, ahead⟩ := List.exists_cons_of_ne_nil (List.isEmpty_eq_false_iff.mp more)
  have walked : walk cursor = found (cursor.past [c] behind) (Head.read c behind) := by
    rw [walk_eq, bind_of_ok (Cursor.advance_of_ahead ahead)]
    rfl
  rw [walked]
  cases opening c behind with
  | blank blank =>
    refine ⟨.blank, [c], behind, ?_, nofun⟩
    rw [Head.read_of_blank behind blank]
    rfl
  | @word shape more rest split fits ends =>
    subst split
    rcases read_word_or_flaw fits ends with read | read
    · refine ⟨.word shape, c :: more, rest, ?_, ?_⟩
      · rw [read, found_word rfl, Cursor.past_past]
        rfl
      · rintro shape ⟨⟩
        exact fits
    · refine ⟨.flaw .letterAfterNumber, c :: more, rest, ?_, nofun⟩
      rw [read, found_flaw rfl, Cursor.past_past]
      rfl
  | @stray cause more rest split stray =>
    subst split
    refine ⟨.flaw cause, c :: more, rest, ?_, nofun⟩
    rw [Head.read_of_stray stray, found_flaw rfl, Cursor.past_past]
    rfl

/-- **A step with text ahead settles what a walk finds there.** -/
theorem exists_finding (options : Options) {cursor : Cursor} (more : cursor.atEnd = false) :
    ∃ finding last, walk cursor.mark = .ok (finding, last) ∧
      (∀ shape, finding = .word shape → shape.Fits last.lexeme.toList) ∧
      step options cursor.mark = settle options (finding, last) := by
  have marked : cursor.mark.atEnd = false := more
  obtain ⟨finding, text, rest, walked, fits⟩ := exists_walk marked
  refine ⟨finding, cursor.mark.past text rest, walked, ?_, ?_⟩
  · rw [Cursor.lexeme_mark_past, String.toList_ofList]
    exact fits
  · rw [step_eq_walk, attempt_ok_bind walked]

/-! ### Whole texts -/

/-- One of the two outcomes of a scan: no error and all tokens, the last of which is the end of
input, or no token and an error that breaks one of the four rules. -/
def Result.Settled (result : Result) : Prop :=
  (result.ok = true ∧ result.fault = none ∧
      ∃ words place, result.tokens = words ++ [.endOfInput place]) ∨
    (result.ok = false ∧ result.tokens = [] ∧
      ∃ fault rule, result.fault = some fault ∧ fault.diagnostic.rule = some rule ∧
        rule ∈ Rule.all)

/-- **A scan is settled**, or refused for the place of a fault. -/
theorem settled_or_refused (source : String) (options : Options) :
    (∃ result, scan source options = .ok result ∧ result.Settled) ∨
      ∃ number, ¬ Numeral.Writable number ∧ scan source options = .error (.unwritable number) := by
  rcases takes_or_meets source options with ⟨words, takes⟩ | ⟨fault, meets⟩
  · have done := scan_eq_ok_iff.mpr ⟨words, takes, rfl⟩
    exact .inl ⟨_, done, .inl ⟨rfl, rfl, words, _, rfl⟩⟩
  · by_cases writable : fault.location.Writable
    · have stopped := scan_eq_fault_iff.mpr ⟨meets, writable⟩
      refine .inl ⟨_, stopped, .inr ⟨rfl, rfl, fault, _, rfl, rfl, ?_⟩⟩
      cases fault.cause.rule <;> decide
    · obtain ⟨number, long, refused⟩ := Location.exists_unwritable writable
      have stopped := scan_eq_error_iff.mpr ⟨fault, meets, writable, refused⟩
      exact .inr ⟨number, long, stopped⟩

/-- **A fault is in a place that can be written**, if line and length of the source are small. -/
theorem Meets.writable {source : String} {options : Options} {fault : Fault}
    (meets : Meets source options fault)
    (short : options.lineNumber.natAbs + source.length < Numeral.limit) :
    fault.location.Writable := by
  obtain ⟨front, near, rest, words, cause, split, takes, flaw, rfl⟩ := meets
  have some : 0 < near.length := List.length_pos_iff.mpr flaw.ne_nil
  have length := congrArg List.length split
  rw [String.length_toList, List.length_append, List.length_append] at length
  have newlines : front.count '\n' ≤ front.length := List.count_le_length
  have last : (front.reverse.takeWhile (· ≠ '\n')).length ≤ front.reverse.length :=
    (List.takeWhile_prefix _).length_le
  rw [List.length_reverse] at last
  constructor
  · show (options.lineNumber + front.count '\n').natAbs < Numeral.limit
    omega
  · show (1 + ((front.reverse.takeWhile (· ≠ '\n')).length : Int)).natAbs < Numeral.limit
    omega

theorem tokenize_eq_ok_iff {source filename : String} {tokens : List Token} :
    tokenize source filename = .ok tokens ↔ scan source { filename } = .ok { tokens } := by
  unfold tokenize scan
  cases (run source { filename }).result with
  | ok tokens => simp
  | error stop => cases stop <;> simp

theorem tokenize_eq_fault_iff {source filename : String} {fault : Fault} :
    tokenize source filename = .error (.fault fault) ↔
      scan source { filename } = .ok { fault := some fault } := by
  unfold tokenize scan
  cases (run source { filename }).result with
  | ok tokens => simp
  | error stop => cases stop <;> simp

theorem tokenize_eq_misuse_iff {source filename : String} {misuse : Misuse} :
    tokenize source filename = .error (.misuse misuse) ↔
      scan source { filename } = .error misuse := by
  unfold tokenize scan
  cases (run source { filename }).result with
  | ok tokens => simp
  | error stop => cases stop <;> simp

end Scan

end LoopLex
