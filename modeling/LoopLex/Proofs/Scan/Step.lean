/-
**One piece of a scan**: what a step takes, and what it makes of it.

A step starts at the mark and takes the first piece of the text ahead, no character more. Where it
meets a flaw, the place of the fault decides whether the scan stops with the fault and a record of
it, or because that place has no text.

* `Cursor.past` — the cursor behind a part of the text ahead;
* `Fault.stop` and `abort_eq` — how a scan stops that meets a fault;
* `step_of_blank`, `step_of_reads` and `step_of_flaw` — the step over each kind of piece;
* `tokensFrom_of_step` and `tokensFrom_of_abort` — what the scan does with it.
-/

import LoopLex.Proofs.Word.FirstPiece
import LoopLex.Scan.Basic

namespace LoopLex

/-! ### Moving a cursor over a text -/

namespace Cursor

/-- The cursor behind `text`, with `rest` ahead. -/
def past (cursor : Cursor) (text rest : List Char) : Cursor :=
  { cursor with
    taken := text.reverse ++ cursor.taken
    ahead := rest
    here := cursor.here.afterText text }

variable {cursor : Cursor} {c : Char} {text more rest : List Char}

@[simp] theorem past_ahead : (cursor.past text rest).ahead = rest := rfl

theorem past_nil (ahead : cursor.ahead = rest) : cursor.past [] rest = cursor := by
  subst ahead
  rfl

theorem past_past {middle : List Char} :
    (cursor.past text middle).past more rest = cursor.past (text ++ more) rest := by
  simp only [past, List.reverse_append, List.append_assoc, Position.afterText_append]

theorem advance_of_ahead (ahead : cursor.ahead = c :: rest) :
    cursor.advance = .ok (c, cursor.past [c] rest) := by
  unfold advance
  rw [ahead]
  rfl

/-- **Characters are taken one after the other.** -/
theorem advanceBy_of_ahead (ahead : cursor.ahead = text ++ rest) :
    cursor.advanceBy text.length = .ok (cursor.past text rest) := by
  induction text generalizing cursor with
  | nil =>
    have same : cursor.past [] rest = cursor := past_nil ahead
    rw [same]
    rfl
  | cons c text ih =>
    have first : cursor.advance = .ok (c, cursor.past [c] (text ++ rest)) :=
      advance_of_ahead ahead
    have later : (cursor.past [c] (text ++ rest)).advanceBy text.length =
        .ok ((cursor.past [c] (text ++ rest)).past text rest) := ih rfl
    rw [past_past] at later
    rw [List.length_cons, advanceBy, first]
    exact later

theorem advanceBy_past : (cursor.past [c] (more ++ rest)).advanceBy more.length =
    .ok (cursor.past (c :: more) rest) := by
  rw [advanceBy_of_ahead rfl, past_past]
  rfl

/-- A mark in between is lost by a later one. -/
theorem mark_past_mark : (cursor.mark.past text rest).mark = (cursor.past text rest).mark := by
  simp only [past, mark, List.append_nil, List.append_assoc]

theorem lexeme_mark_past : (cursor.mark.past text rest).lexeme = String.ofList text := by
  simp only [lexeme, past, mark, List.append_nil, List.reverse_reverse]

/-- **The clip to the end of the source never acts.** -/
theorem nearText_eq_lexeme (cursor : Cursor) : cursor.nearText = cursor.lexeme := by
  have front : cursor.source.take cursor.position =
      cursor.before.reverse ++ cursor.taken.reverse := by
    have behind : cursor.position = (cursor.before.reverse ++ cursor.taken.reverse).length := by
      simp [position]
    rw [source, behind, List.take_left]
  have within : cursor.position ≤ cursor.source.length := by
    simp only [position, source, List.length_append, List.length_reverse]
    omega
  unfold nearText lexeme
  rw [Nat.min_eq_left within]
  show String.ofList ((cursor.source.take cursor.position).drop cursor.startPosition) = _
  rw [front, startPosition, ← List.length_reverse, List.drop_left]

/-- The text behind the cursor. -/
def behind (cursor : Cursor) : List Char := cursor.before.reverse ++ cursor.taken.reverse

theorem behind_past : (cursor.past text rest).behind = cursor.behind ++ text := by
  simp only [behind, past, List.reverse_append, List.reverse_reverse, List.append_assoc]

end Cursor

/-! ### Tokens and faults at a place -/

/-- The token of a word at `place`. -/
def Token.ofWord (place : Position) (word : List Char) (kind : Kind) (literal : Option Literal) :
    Token :=
  ⟨kind, String.ofList word, literal, place.line, place.column, (place.afterText word).column - 1⟩

/-- The line of a text around a place, `before` being the text in front of it and `ahead` the text
behind it. -/
def lineAround (before ahead : List Char) : String :=
  String.ofList ((before.reverse.takeWhile (· ≠ '\n')).reverse ++ ahead.takeWhile (· ≠ '\n'))

/-- The fault of a flaw at `place`. -/
def Fault.ofFlaw (filename : String) (place : Position) (before : List Char) (cause : Cause)
    (near rest : List Char) : Fault :=
  ⟨cause, ⟨filename, place.line, place.column⟩, String.ofList near,
    lineAround before (near ++ rest)⟩

/-- How a scan stops that meets the fault: with the fault, if its place can be written. -/
def Fault.stop (fault : Fault) : Stop :=
  if fault.location.Writable then .fault fault else .misuse fault.location.refusal

/-- The records that a scan keeps of the fault: one, if its place can be written. -/
def Fault.records (fault : Fault) : List Record :=
  if fault.location.Writable then
    [.aborted fault.location.filename fault.cause.description fault.location]
  else []

namespace Fault

variable {fault : Fault}

theorem stop_of_writable (writable : fault.location.Writable) :
    fault.stop = .fault fault :=
  if_pos writable

theorem stop_of_not_writable (long : ¬ fault.location.Writable) :
    fault.stop = .misuse fault.location.refusal :=
  if_neg long

theorem records_of_writable (writable : fault.location.Writable) :
    fault.records = [.aborted fault.location.filename fault.cause.description fault.location] :=
  if_pos writable

theorem records_of_not_writable (long : ¬ fault.location.Writable) : fault.records = [] :=
  if_neg long

end Fault

namespace Scan

variable {options : Options} {cursor : Cursor} {shape : Shape} {cause : Cause} {c : Char}
  {word near rest : List Char} {kind : Kind} {literal : Option Literal}

/-- **The place of a fault decides how the scan stops.** -/
theorem abort_eq {α : Type} (options : Options) (cause : Cause) (cursor : Cursor) :
    (abort options cause cursor : Traced α) =
      ⟨(faultAt options cause cursor).records, .error (faultAt options cause cursor).stop⟩ := by
  have place := (faultAt options cause cursor).location_diagnostic
  unfold abort
  dsimp only
  by_cases writable : (faultAt options cause cursor).location.Writable
  · have shown := Location.text_of_writable writable
    rw [Diagnostic.message_of_lead (Diagnostic.lead_of_text place shown),
      Fault.records_of_writable writable, Fault.stop_of_writable writable]
    rfl
  · rw [Diagnostic.message_of_not_writable place writable, Fault.records_of_not_writable writable,
      Fault.stop_of_not_writable writable]
    rfl

theorem error_bind {α β : Type} {log : List Record} {stop : Stop} (next : α → Traced β) :
    ((⟨log, .error stop⟩ : Traced α) >>= next) = ⟨log, .error stop⟩ := rfl

theorem abort_bind {α β : Type} (next : α → Traced β) :
    (abort options cause cursor >>= next) = abort options cause cursor := by
  rw [abort_eq, abort_eq, error_bind]

theorem faultAt_mark_past :
    faultAt options cause (cursor.mark.past near rest) =
      .ofFlaw options.filename cursor.here cursor.behind cause near rest := by
  have line : (cursor.mark.past near rest).currentLine =
      lineAround cursor.behind (near ++ rest) := by
    simp only [Cursor.currentLine, lineAround, Cursor.past, Cursor.mark, Cursor.behind,
      List.append_nil, List.reverse_append, List.reverse_reverse]
  unfold faultAt
  rw [Cursor.nearText_eq_lexeme, Cursor.lexeme_mark_past, line]
  rfl

theorem tokenOf_of_decode (decoded : shape.decode word = .ok (kind, literal)) :
    tokenOf options shape (cursor.mark.past word rest) =
      pure (.ofWord cursor.here word kind literal) := by
  unfold tokenOf
  rw [Cursor.lexeme_mark_past, String.toList_ofList, decoded]
  show pure (stamp kind literal (cursor.mark.past word rest)) = _
  unfold stamp
  rw [Cursor.lexeme_mark_past]
  rfl

theorem tokenOf_of_tooLong (run : DigitRun near) (long : Numeral.maxDigits < near.length) :
    tokenOf options .integer (cursor.mark.past near rest) =
      abort options (.tooManyDigits near.length) (cursor.mark.past near rest) := by
  unfold tokenOf
  rw [Cursor.lexeme_mark_past, String.toList_ofList, Shape.decode_of_tooLong run long]

/-! ### The step over each kind of piece -/

theorem attempt_ok_bind {α β : Type} {operation : Except Misuse α} {a : α}
    (done : operation = .ok a) (next : α → Traced β) :
    (Traced.attempt operation >>= next) = next a := by
  rw [done]
  rfl

theorem step_of_blank (blank : c ∈ Vocabulary.blanks) (ahead : cursor.ahead = c :: rest) :
    step options cursor = pure (none, cursor.past [c] rest) := by
  have read : Head.read c rest = .blank := Head.read_of_blank rest blank
  unfold step
  rw [attempt_ok_bind (Cursor.advance_of_ahead ahead)]
  simp only [Cursor.past_ahead, read]

theorem step_of_read_word (cursor : Cursor) {more : List Char}
    (read : Head.read c (more ++ rest) = .word shape more)
    (ahead : cursor.ahead = c :: (more ++ rest)) :
    step options cursor = (do
      let token ← tokenOf options shape (cursor.past (c :: more) rest)
      return (some token, cursor.past (c :: more) rest)) := by
  unfold step
  rw [attempt_ok_bind (Cursor.advance_of_ahead ahead)]
  simp only [Cursor.past_ahead, read, attempt_ok_bind Cursor.advanceBy_past]

theorem step_of_read_flaw (cursor : Cursor) {more : List Char}
    (read : Head.read c (more ++ rest) = .flaw cause more)
    (ahead : cursor.ahead = c :: (more ++ rest)) :
    step options cursor = abort options cause (cursor.past (c :: more) rest) := by
  unfold step
  rw [attempt_ok_bind (Cursor.advance_of_ahead ahead)]
  simp only [Cursor.past_ahead, read, attempt_ok_bind Cursor.advanceBy_past]

/-- **A word that is read becomes its token.** -/
theorem step_of_reads (reads : shape.Reads word rest)
    (decoded : shape.decode word = .ok (kind, literal)) (ahead : cursor.ahead = word ++ rest) :
    step options cursor.mark =
      pure (some (.ofWord cursor.here word kind literal), cursor.mark.past word rest) := by
  obtain ⟨c, more, rfl⟩ := reads.fits.exists_cons
  rw [step_of_read_word cursor.mark reads.read ahead, tokenOf_of_decode decoded]
  rfl

/-- **A flaw ends the scan with its fault.** -/
theorem step_of_flaw (flaw : Flaw cause near rest) (ahead : cursor.ahead = near ++ rest) :
    step options cursor.mark = abort options cause (cursor.mark.past near rest) := by
  cases near with
  | nil => exact absurd rfl flaw.ne_nil
  | cons c more =>
    cases flaw with
    | stray stray => exact step_of_read_flaw cursor.mark (Head.read_of_stray stray) ahead
    | letter fits ends number led =>
      refine step_of_read_flaw cursor.mark ?_ ahead
      rw [Head.read_of_fits fits ends, if_pos number, Head.closeNumber, if_pos led]
    | tooLong run reads long =>
      rw [step_of_read_word cursor.mark reads.read ahead, tokenOf_of_tooLong run long, abort_bind]

/-! ### The scan from a piece on -/

/-- More tokens in front of those of a scan. -/
def prepend (tokens : List Token) (later : Traced (List Token)) : Traced (List Token) :=
  ⟨later.log, later.result.map (tokens ++ ·)⟩

theorem prepend_nil (later : Traced (List Token)) : prepend [] later = later := by
  obtain ⟨log, result⟩ := later
  cases result <;> rfl

theorem prepend_prepend (first second : List Token) (later : Traced (List Token)) :
    prepend first (prepend second later) = prepend (first ++ second) later := by
  obtain ⟨log, result⟩ := later
  cases result with
  | error stop => rfl
  | ok tokens =>
    show Traced.mk log (.ok (first ++ (second ++ tokens))) = _
    rw [← List.append_assoc]
    rfl

theorem tokensFrom_of_atEnd (done : cursor.ahead = []) :
    tokensFrom options cursor = pure [.endOfInput cursor.here] := by
  rw [tokensFrom, if_pos]
  rw [Cursor.atEnd, done]
  rfl

/-- A scan goes on behind the piece that a step takes, with the records of that step in front. -/
theorem tokensFrom_of_ok {log : List Record} {token : Option Token} {next : Cursor}
    (more : cursor.ahead ≠ []) (stepped : step options cursor.mark = ⟨log, .ok (token, next)⟩) :
    tokensFrom options cursor =
      ⟨log ++ (tokensFrom options next).log,
        (tokensFrom options next).result.map (token.toList ++ ·)⟩ := by
  have goes : ¬ cursor.atEnd = true := mt List.isEmpty_iff.mp more
  rw [tokensFrom, if_neg goes]
  split
  · rename_i equal
    rw [stepped] at equal
    cases equal
  · rename_i equal
    rw [stepped] at equal
    cases equal
    rfl

/-- A scan ends with a step that has no result. -/
theorem tokensFrom_of_error {log : List Record} {stop : Stop} (more : cursor.ahead ≠ [])
    (stepped : step options cursor.mark = ⟨log, .error stop⟩) :
    tokensFrom options cursor = ⟨log, .error stop⟩ := by
  have goes : ¬ cursor.atEnd = true := mt List.isEmpty_iff.mp more
  rw [tokensFrom, if_neg goes]
  split
  · rename_i equal
    rw [stepped] at equal
    cases equal
    rfl
  · rename_i equal
    rw [stepped] at equal
    cases equal

theorem tokensFrom_of_step {token : Option Token} {next : Cursor} (more : cursor.ahead ≠ [])
    (stepped : step options cursor.mark = pure (token, next)) :
    tokensFrom options cursor = prepend token.toList (tokensFrom options next) :=
  tokensFrom_of_ok more stepped

theorem tokensFrom_of_abort {last : Cursor} (more : cursor.ahead ≠ [])
    (stepped : step options cursor.mark = abort options cause last) :
    tokensFrom options cursor = abort options cause last := by
  rw [abort_eq] at stepped ⊢
  exact tokensFrom_of_error more stepped

/-- A scan starts with a mark, so one more does not matter. -/
theorem tokensFrom_mark (options : Options) (cursor : Cursor) :
    tokensFrom options cursor.mark = tokensFrom options cursor := by
  rw [tokensFrom, tokensFrom]
  rfl

theorem tokensFrom_mark_past {text : List Char} :
    tokensFrom options (cursor.mark.past text rest) =
      tokensFrom options (cursor.past text rest) := by
  rw [← tokensFrom_mark options (cursor.mark.past text rest), Cursor.mark_past_mark,
    tokensFrom_mark]

end Scan

end LoopLex
