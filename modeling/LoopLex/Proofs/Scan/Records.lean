/-
**The records of a scan tell its outcome.** There are two: of the start, and of how it ended.

Whatever stops with a fault has kept a record of that fault, and no part of a scan keeps any other
record. That holds of a piece, so it holds of all pieces together. The start and the end of a scan
are recorded around them, the end only if all tokens are there. A scan that is refused for the place
of a fault has the first record alone.

* `Traced.RecordsFault` — a computation keeps a record of its fault and no other;
* `Traced.RecordsFault.bind` — two such computations, one after the other;
* `step_recordsFault` and `tokensFrom_recordsFault` — the pieces of a scan, one and all;
* `log_tells_outcome` — the records of a whole scan.
-/

import LoopLex.Proofs.Scan.Totality

namespace LoopLex

namespace Traced

variable {α β : Type} {filename : String}

/-- The record of a fault. No other result has one. -/
def faultRecords (filename : String) : Except Stop α → List Record
  | .ok _ => []
  | .error (.fault fault) => [.aborted filename fault.diagnostic.description fault.location]
  | .error (.misuse _) => []

/-- A computation keeps a record of the fault that it stops with, and no other record. -/
def RecordsFault (filename : String) (traced : Traced α) : Prop :=
  traced.log = faultRecords filename traced.result

theorem recordsFault_pure (value : α) : RecordsFault filename (pure value) := rfl

theorem recordsFault_attempt (operation : Except Misuse α) :
    RecordsFault filename (attempt operation) := by
  cases operation <;> rfl

theorem recordsFault_misuse (misuse : Misuse) :
    RecordsFault filename (stop (.misuse misuse) : Traced α) := rfl

/-- **Two computations that record their faults do so one after the other.** If the first stops, its
fault is the fault of both, and if it does not, it has no record. -/
theorem RecordsFault.bind {first : Traced α} {next : α → Traced β}
    (recorded : first.RecordsFault filename)
    (later : ∀ value, first.result = .ok value → (next value).RecordsFault filename) :
    (first >>= next).RecordsFault filename := by
  obtain ⟨log, result⟩ := first
  obtain rfl : log = faultRecords filename result := recorded
  cases result with
  | ok value => exact later value rfl
  | error stop => cases stop <;> rfl

end Traced

namespace Scan

open Traced

variable {options : Options} {source : String}

/-! ### The pieces of a scan -/

theorem abort_recordsFault {α : Type} (options : Options) (cause : Cause) (cursor : Cursor) :
    RecordsFault options.filename (abort options cause cursor : Traced α) := by
  rw [abort_eq, RecordsFault]
  by_cases writable : (faultAt options cause cursor).location.Writable
  · rw [Fault.records_of_writable writable, Fault.stop_of_writable writable]
    rfl
  · rw [Fault.records_of_not_writable writable, Fault.stop_of_not_writable writable]
    rfl

theorem tokenOf_recordsFault (options : Options) (shape : Shape) (cursor : Cursor) :
    (tokenOf options shape cursor).RecordsFault options.filename := by
  unfold tokenOf
  cases shape.decode cursor.lexeme.toList with
  | ok value => exact recordsFault_pure _
  | error refusal =>
    cases refusal with
    | tooLong digits => exact abort_recordsFault options _ cursor
    | malformed => exact recordsFault_misuse _

/-- **A step records the fault that it meets**, whichever rule it is that meets one. -/
theorem step_recordsFault (options : Options) (cursor : Cursor) :
    (step options cursor).RecordsFault options.filename := by
  refine (recordsFault_attempt _).bind fun (c, next) _ => ?_
  dsimp only
  cases Head.read c next.ahead with
  | blank => exact recordsFault_pure _
  | flaw cause more =>
    exact (recordsFault_attempt _).bind fun last _ => abort_recordsFault options cause last
  | word shape more =>
    exact (recordsFault_attempt _).bind fun last _ =>
      (tokenOf_recordsFault options shape last).bind fun token _ => recordsFault_pure _

/-- A scan with text ahead takes a step and goes on behind it. -/
theorem tokensFrom_eq_bind {cursor : Cursor} (more : cursor.ahead ≠ []) :
    tokensFrom options cursor = (do
      let (token, next) ← step options cursor.mark
      let tokens ← tokensFrom options next
      return token.toList ++ tokens) := by
  cases stepped : step options cursor.mark with
  | mk log result =>
    cases result with
    | error stop => exact tokensFrom_of_error more stepped
    | ok taken =>
      rw [tokensFrom_of_ok more stepped]
      cases rest : tokensFrom options taken.2 with
      | mk later tokens =>
        show _ = Traced.andThen ⟨log, .ok taken⟩ _
        cases tokens with
        | error stop => simp only [Traced.andThen, rest, bind, Except.map]
        | ok tokens => simp only [Traced.andThen, rest, bind, pure, Except.map, List.append_nil]

/-- **All steps together record the fault that ends the scan**, by induction on the length of the text
ahead, of which every step takes some. -/
theorem tokensFrom_recordsFault (options : Options) (cursor : Cursor) :
    (tokensFrom options cursor).RecordsFault options.filename := by
  induction size : cursor.ahead.length using Nat.strongRecOn generalizing cursor with
  | _ n ih =>
    by_cases done : cursor.ahead = []
    · rw [tokensFrom_of_atEnd done]
      exact recordsFault_pure _
    · rw [tokensFrom_eq_bind done]
      refine (step_recordsFault options cursor.mark).bind fun (token, next) stepped => ?_
      have shorter : next.ahead.length < cursor.mark.ahead.length := length_ahead_of_step stepped
      exact (ih _ (size ▸ shorter) next rfl).bind fun tokens _ => recordsFault_pure _

/-! ### Whole scans -/

/-- The last record of a scan: the number of its tokens or the fault that it stops with. -/
def lastRecord (filename : String) : Except Stop (List Token) → List Record
  | .ok tokens => [.finished filename tokens.length]
  | .error stop => faultRecords filename (.error stop : Except Stop (List Token))

/-- **The records of a scan are those of its start and of its result.** -/
theorem run_log (source : String) (options : Options) :
    (run source options).log = .started options.filename source.length ::
      lastRecord options.filename (run source options).result := by
  have recorded := tokensFrom_recordsFault options (.ofText source.toList options.lineNumber)
  rw [run_result]
  unfold run
  cases made : tokensFrom options (.ofText source.toList options.lineNumber) with
  | mk log result =>
    rw [made] at recorded
    obtain rfl : log = faultRecords options.filename result := recorded
    cases result with
    | ok tokens => rfl
    | error stop => rfl

/-- The records of a scan with all tokens: the number of characters, and the number of tokens, which
the end of input is one of. -/
structure LogsTokens (source : String) (options : Options) (words : List Token)
    (log : List Record) : Prop where
  records : log =
    [.started options.filename source.length, .finished options.filename (words.length + 1)]
  texts : log.map Record.text =
    [.ok ("Scanning " ++ options.filename ++ " (" ++ toString source.length ++ " chars)"),
      .ok ("Scanned " ++ toString (words.length + 1) ++ " tokens from " ++ options.filename)]

/-- The records of a scan with a fault: the number of characters, and the fault with its place. -/
structure LogsFault (source : String) (options : Options) (fault : Fault) (log : List Record) :
    Prop where
  records : log =
    [.started options.filename source.length,
      .aborted options.filename fault.diagnostic.description fault.location]
  texts : log.map Record.text =
    [.ok ("Scanning " ++ options.filename ++ " (" ++ toString source.length ++ " chars)"),
      .ok ("Scan of " ++ options.filename ++ " aborted: " ++ fault.diagnostic.description ++ " at " ++
        (options.filename ++ ":" ++ toString fault.location.line ++ ":" ++
          toString fault.location.column))]

theorem logsTokens_of_run {words : List Token} {place : Position}
    (done : (run source options).result = .ok (words ++ [.endOfInput place])) :
    LogsTokens source options words (run source options).log := by
  have records := run_log source options
  rw [done, lastRecord, List.length_append, List.length_singleton] at records
  refine ⟨records, ?_⟩
  rw [records]
  rfl

theorem aborted_text (filename description : String) {location : Location}
    (writable : location.Writable) :
    (Record.aborted filename description location).text =
      .ok ("Scan of " ++ filename ++ " aborted: " ++ description ++ " at " ++
        (location.filename ++ ":" ++ toString location.line ++ ":" ++ toString location.column)) := by
  rw [Record.text, Location.text_of_writable writable]
  rfl

theorem logsFault_of_scan {fault : Fault}
    (stopped : scan source options = .ok { fault := some fault }) :
    LogsFault source options fault (run source options).log := by
  obtain ⟨meets, writable⟩ := scan_eq_fault_iff.mp stopped
  have records := run_log source options
  rw [meets.run_result, Fault.stop_of_writable writable, lastRecord, faultRecords] at records
  refine ⟨records, ?_⟩
  rw [records, List.map_cons, List.map_singleton, aborted_text _ _ writable,
    meets.filename]
  rfl

example : (run "x =\n @" {}).log.map Record.text = [.ok "Scanning <input> (6 chars)",
    .ok "Scan of <input> aborted: unexpected character at <input>:2:2"] := by decide +kernel

end Scan

end LoopLex
