/-
**Every turn of a scan makes progress, and accounts for one piece of the text.** It ends the scan
with a fault, or takes a blank and adds no token, or takes a word and adds its token. So a scan
turns no more often than its text has characters. If it ends well, it has turned once for each token
in front of the end of input and once for each blank outside of the tokens.

* `Cursor.LoopEnds` and `Cursor.loopEnds_of_class` — a loop over a class of characters ends;
* `Scan.loops_end` — so do all loops of a walk;
* `LiveSession.Accounts` — what a turn has done that met no error;
* `LiveSession.Reads.turn_accounts` — a turn accounts for what it takes, or meets a fault;
* `LiveSession.Keeps` and `LiveSession.Running.keeps` — what each turn keeps at the head of the loop;
* `LiveSession.Proceeds` and `LiveSession.Completes` — a scan on its way, and one that ended well;
* `LiveSession.scan_progresses` — the turns of a whole scan.
-/

import LoopLex.Proofs.Scan.Gaps
import LoopLex.Proofs.Scan.Independence
import LoopLex.Scan.Turns

namespace LoopLex

open Unicode (isDigit)

/-! ### Loops of a walk -/

/-- A loop from `cursor` on has ended at `last` after a number of turns. It has taken a character in
each of them, in which `going` held, and `going` does not hold any more. -/
structure Cursor.LoopEnds (going : Cursor → Bool) (cursor : Cursor) (turns : Nat) (last : Cursor) :
    Prop where
  done : cursor.advanceWhile going = .ok last
  moved : cursor.advanceBy turns = .ok last
  held : ∀ n < turns, ∃ here, cursor.advanceBy n = .ok here ∧ going here = true
  stopped : going last = false
  within : turns ≤ cursor.ahead.length

/-- **A loop over a class of characters ends**, at the end of the text at the latest. -/
theorem Cursor.loopEnds_of_class {going : Cursor → Bool} {p : Char → Bool}
    (sees : ∀ cursor, going cursor = cursor.ahead.head?.any p) (cursor : Cursor) :
    cursor.LoopEnds going (cursor.ahead.takeWhile p).length
      (cursor.past (cursor.ahead.takeWhile p) (cursor.ahead.dropWhile p)) where
  done := advanceWhile_eq sees cursor
  moved := advanceBy_of_ahead List.takeWhile_append_dropWhile.symm
  held n less := by
    have within : n < cursor.ahead.length :=
      Nat.lt_of_lt_of_le less (List.takeWhile_prefix p).length_le
    have reached : cursor.advanceBy (cursor.ahead.take n).length =
        .ok (cursor.past (cursor.ahead.take n) (cursor.ahead.drop n)) :=
      advanceBy_of_ahead (List.take_append_drop n cursor.ahead).symm
    rw [List.length_take, Nat.min_eq_left (Nat.le_of_lt within)] at reached
    refine ⟨_, reached, ?_⟩
    have same : cursor.ahead[n] = (cursor.ahead.takeWhile p)[n] :=
      ((List.takeWhile_prefix p).getElem less).symm
    rw [sees, past_ahead, List.head?_drop, List.getElem?_eq_getElem within, same]
    exact of_mem_takeWhile _ (List.getElem_mem less)
  stopped := by rw [sees, past_ahead, head?_dropWhile_any]
  within := (List.takeWhile_prefix p).length_le

namespace Scan

/-- What the loops of a walk ask for: those of `walkString`, of `walkNumber`, in front of a dot and
behind it, and of `walkName`. -/
def loops : List (Cursor → Bool) :=
  [fun cursor => cursor.peek ≠ '"' && !cursor.atEnd, fun cursor => isDigit cursor.peek,
    fun cursor => isNamePart cursor.peek]

/-- **All loops of a walk end**, wherever they start. -/
theorem loops_end (cursor : Cursor) :
    ∀ going ∈ loops, ∃ turns last, cursor.LoopEnds going turns last := by
  have digits : ∀ cursor : Cursor, isDigit cursor.peek = cursor.ahead.head?.any isDigit :=
    Cursor.peek_of_class (isDigit_of_mem_signs (by decide))
  have names : ∀ cursor : Cursor, isNamePart cursor.peek = cursor.ahead.head?.any isNamePart :=
    Cursor.peek_of_class (isNamePart_of_mem_signs _ (by decide))
  simp only [loops, List.forall_mem_cons]
  exact ⟨⟨_, _, Cursor.loopEnds_of_class Cursor.peek_ne_quote cursor⟩,
    ⟨_, _, Cursor.loopEnds_of_class digits cursor⟩,
    ⟨_, _, Cursor.loopEnds_of_class names cursor⟩, nofun⟩

/-! ### Pieces -/

variable {options : Options} {cursor : Cursor}

/-- A piece of a text with the token that is made of it: none of a blank, and one of a word. -/
inductive IsPiece : List Char → Option Token → Prop where
  | blank {c : Char} (blank : c ∈ Vocabulary.blanks) : IsPiece [c] none
  | word {text : List Char} {token : Token} (lexeme : token.lexeme.toList = text)
    (nonempty : text ≠ []) (other : ∀ c ∈ Vocabulary.blanks, text ≠ [c]) : IsPiece text (some token)

theorem IsPiece.ne_nil {text : List Char} {token : Option Token} (piece : IsPiece text token) :
    text ≠ [] := by
  cases piece with
  | blank => exact List.cons_ne_nil _ _
  | word _ nonempty => exact nonempty

/-- A blank is no word. -/
theorem ne_blank_of_reads {shape : Shape} {word rest : List Char} (reads : shape.Reads word rest) :
    ∀ c ∈ Vocabulary.blanks, word ≠ [c] := by
  rintro c blank rfl
  have read := reads.read
  rw [Head.read_of_blank _ blank] at read
  cases read

/-- **A step with text ahead takes one piece of it or ends the scan with a fault.** -/
theorem step_takes_piece (options : Options) (more : cursor.ahead ≠ []) :
    (∃ text rest token, cursor.ahead = text ++ rest ∧ IsPiece text token ∧
      step options cursor.mark = pure (token, cursor.mark.past text rest)) ∨
    ∃ cause last, step options cursor.mark = abort options cause last := by
  cases firstPiece more with
  | @blank c rest split blank =>
    have marked : cursor.mark.ahead = c :: rest := split
    exact .inl ⟨[c], rest, none, split, .blank blank, step_of_blank blank marked⟩
  | @word shape word rest kind literal split reads decoded =>
    have piece : IsPiece word (some (.ofWord cursor.here word kind literal)) :=
      .word String.toList_ofList reads.fits.ne_nil (ne_blank_of_reads reads)
    exact .inl ⟨word, rest, _, split, piece, step_of_reads reads decoded split⟩
  | flaw split flaw => exact .inr ⟨_, _, step_of_flaw flaw split⟩

end Scan

namespace LiveSession

variable {live here next : LiveSession} {cursor : Cursor} {turns : Nat}

/-! ### Turns -/

/-- What a turn has done that met no error. -/
structure Accounts (here next : LiveSession) : Prop where
  same : next.toSession = here.toSession
  reads : next.Reads next.reader
  farther : here.reader.position < next.reader.position
  within : next.reader.position ≤ here.source.length
  /-- No token is added exactly if one blank is taken. -/
  blank_iff : next.tokens = here.tokens ↔ ∃ c ∈ Vocabulary.blanks, here.taken next = [c]
  /-- Otherwise one token is added, whose lexeme is the text that is taken. -/
  word : next.tokens ≠ here.tokens →
    ∃ token, next.tokens = here.tokens ++ [token] ∧ token.lexeme.toList = here.taken next

/-- **A piece is accounted for** by a session that stands behind it and has its token. -/
theorem Reads.accounts_of_piece (reads : here.Reads cursor) {text rest : List Char}
    {token : Option Token} (ahead : cursor.ahead = text ++ rest)
    (piece : Scan.IsPiece text token) :
    here.Accounts { here with
      cursor := some (cursor.mark.past text rest), tokens := here.tokens ++ token.toList } := by
  have marked : cursor.mark.ahead = text ++ rest := ahead
  have kept : (cursor.mark.past text rest).source = here.source.toList :=
    (Cursor.source_past marked).trans (cursor.source_mark.trans reads.source)
  have reached : (cursor.mark.past text rest).position = cursor.position + text.length := by
    rw [Cursor.position_past, Cursor.position_mark]
  have taken : here.taken { here with
      cursor := some (cursor.mark.past text rest), tokens := here.tokens ++ token.toList } =
      text := by
    rw [LiveSession.taken, reads.reader_eq, ← reads.source]
    show slice _ _ (cursor.mark.past text rest).position = _
    rw [reached, Cursor.slice_ahead ahead]
  refine ⟨rfl, ⟨rfl, kept⟩, ?_, ?_, ?_, ?_⟩
  · have positive : 0 < text.length := List.length_pos_iff.mpr piece.ne_nil
    rw [reads.reader_eq]
    show cursor.position < (cursor.mark.past text rest).position
    omega
  · show (cursor.mark.past text rest).position ≤ _
    rw [← String.length_toList, ← kept]
    exact Cursor.position_le _
  · rw [taken]
    cases piece with
    | blank blank => simp [blank]
    | word _ _ other => simpa using other
  · rw [taken]
    cases piece with
    | blank blank => simp
    | @word _ token lexeme => exact fun _ => ⟨token, rfl, lexeme⟩

/-- **A turn accounts for one piece of the text, or meets a fault**, with which it stops. -/
theorem Reads.turn_accounts (reads : here.Reads cursor) (more : cursor.ahead ≠ []) :
    (∃ (fault : Fault) (left : LiveSession), here.turn = (⟨fault.records, .error fault.stop⟩, left)) ∨
      ∃ log next, here.turn = (⟨log, .ok ()⟩, next) ∧ here.Accounts next := by
  have follows : (here.moveTo cursor.mark).FollowsStep
      (Scan.step here.options cursor.mark) here.turn := by
    rw [turn, reads.reader_eq]
    exact (reads.moveTo cursor.source_mark).takePiece_follows
  generalize here.turn = outcome at follows ⊢
  rcases Scan.step_takes_piece here.options more with
    ⟨text, rest, token, ahead, piece, stepped⟩ | ⟨cause, last, aborted⟩
  · rw [stepped] at follows
    cases follows with
    | ok => exact .inr ⟨_, _, rfl, reads.accounts_of_piece ahead piece⟩
  · rw [aborted, Scan.abort_eq] at follows
    obtain ⟨left, failed⟩ := follows.exists_left
    exact .inl ⟨_, left, failed⟩

/-! ### The head of the loop -/

/-- What holds at the head of the loop after a number of turns. -/
structure Keeps (live : LiveSession) (turns : Nat) (here : LiveSession) : Prop where
  same : here.toSession = live.toSession
  reads : here.Reads here.reader
  /-- Each turn has taken one blank, or the characters of one token. -/
  counted : turns + (here.tokens.flatMap (·.lexeme.toList)).length =
    here.tokens.length + here.reader.position
  tokens_le : here.tokens.length ≤ turns
  turns_le : turns ≤ here.reader.position
  /-- The loop goes on from here as it does from its start. -/
  resumes : live.restart.takePieces.1.result = here.takePieces.1.result ∧
    live.restart.takePieces.2 = here.takePieces.2

theorem keeps_start (live : LiveSession) : live.Keeps 0 live.restart where
  same := rfl
  reads := Reads.restart live
  counted := rfl
  tokens_le := Nat.le_refl 0
  turns_le := Nat.zero_le _
  resumes := ⟨rfl, rfl⟩

theorem Accounts.length_taken (accounts : here.Accounts next) :
    here.reader.position + (here.taken next).length = next.reader.position := by
  have farther := accounts.farther
  have within := accounts.within
  rw [taken, slice, List.length_drop, List.length_take, String.length_toList,
    Nat.min_eq_left within]
  omega

theorem Keeps.after_turn (keeps : live.Keeps turns here) {log : List Record}
    (more : here.reader.ahead ≠ []) (turned : here.turn = (⟨log, .ok ()⟩, next))
    (accounts : here.Accounts next) : live.Keeps (turns + 1) next := by
  have farther := accounts.farther
  have length := accounts.length_taken
  have counted := keeps.counted
  have fewer := keeps.tokens_le
  have before := keeps.turns_le
  have goes := takePieces_of_ok more turned
  have resumes := keeps.resumes
  rw [goes] at resumes
  by_cases blank : next.tokens = here.tokens
  · obtain ⟨c, _, one⟩ := accounts.blank_iff.mp blank
    rw [one, List.length_singleton] at length
    refine ⟨accounts.same.trans keeps.same, accounts.reads, ?_, ?_, by omega, resumes⟩
    · rw [blank]
      omega
    · rw [blank]
      omega
  · obtain ⟨token, added, lexeme⟩ := accounts.word blank
    refine ⟨accounts.same.trans keeps.same, accounts.reads, ?_, ?_, by omega, resumes⟩
    · rw [added, List.flatMap_append, List.length_append, List.length_append,
        List.flatMap_singleton, lexeme, List.length_singleton]
      omega
    · rw [added, List.length_append, List.length_singleton]
      omega

/-- **The head of the loop is kept**, however often it turns. -/
theorem Running.keeps (running : live.Running turns here) : live.Keeps turns here := by
  induction running with
  | start => exact live.keeps_start
  | @next turns log here next running more turned keeps =>
    have ahead : here.reader.ahead ≠ [] := List.isEmpty_eq_false_iff.mp more
    rcases keeps.reads.turn_accounts ahead with ⟨_, _, failed⟩ | ⟨_, _, went, accounts⟩
    · have results := congrArg (·.1.result) (turned.symm.trans failed)
      cases results
    · rw [turned] at went
      cases went
      exact keeps.after_turn ahead turned accounts

/-! ### Whole scans -/

/-- **A loop that ends well turns until the end of the text.** -/
theorem Running.exists_last (running : live.Running turns here)
    (done : here.takePieces.1.result = .ok ()) :
    ∃ turns last, live.Running turns last ∧ last.reader.atEnd = true := by
  induction size : here.reader.ahead.length using Nat.strongRecOn generalizing here turns with
  | _ n ih =>
    cases ended : here.reader.atEnd with
    | true => exact ⟨turns, here, running, ended⟩
    | false =>
      have more : here.reader.ahead ≠ [] := List.isEmpty_eq_false_iff.mp ended
      rcases running.keeps.reads.turn_accounts more with
        ⟨fault, left, failed⟩ | ⟨log, next, went, _⟩
      · rw [takePieces_of_error more failed] at done
        cases done
      · have shorter : next.reader.ahead.length < here.reader.mark.ahead.length :=
          (length_ahead_of_takePiece went :)
        rw [takePieces_of_ok more went] at done
        exact ih _ (size ▸ shorter) (running.next ended went) done rfl

theorem takePieces_of_atEnd (ended : live.reader.atEnd = true) :
    live.takePieces = (pure (), live) := by
  rw [takePieces, if_pos ended]

/-- A scan has the result of its loop, and the tokens that the loop has left behind. -/
theorem scan_result (live : LiveSession) : live.scan.1.result =
    live.restart.takePieces.1.result.map fun _ => live.restart.takePieces.2.close.tokens := by
  unfold scan
  generalize live.restart.takePieces = outcome
  obtain ⟨⟨log, result⟩, last⟩ := outcome
  cases result <;> rfl

theorem takePieces_of_scan {tokens : List Token} (done : live.scan.1.result = .ok tokens) :
    live.restart.takePieces.1.result = .ok () := by
  rw [scan_result] at done
  cases result : live.restart.takePieces.1.result with
  | error stop =>
    rw [result] at done
    cases done
  | ok => rfl

/-- The scan has the tokens of the session that is at the end, and leaves that one behind. -/
theorem Running.scan_eq (running : live.Running turns here) (ended : here.reader.atEnd = true) :
    live.scan.1.result = .ok here.close.tokens ∧ live.scan.2 = here.close := by
  obtain ⟨result, left⟩ := running.keeps.resumes
  rw [takePieces_of_atEnd ended] at result left
  unfold scan
  generalize live.restart.takePieces = outcome at result left ⊢
  obtain ⟨⟨log, _⟩, _⟩ := outcome
  cases result
  cases left
  exact ⟨rfl, rfl⟩

/-- A scan ends with the error of its last turn. -/
theorem Running.scan_of_error (running : live.Running turns here) (more : here.reader.ahead ≠ [])
    {log : List Record} {stop : Stop} {left : LiveSession}
    (failed : here.turn = (⟨log, .error stop⟩, left)) : live.scan.1.result = .error stop := by
  rw [scan_result, running.keeps.resumes.1, takePieces_of_error more failed]
  rfl

/-- The tokens in front of the end of input are spread over the source. -/
theorem exists_spread_of_scan {words : List Token} {place : Position}
    (done : live.scan.1.result = .ok (words ++ [.endOfInput place])) :
    ∃ spans, Spread live.options.lineNumber live.source.toList 0 live.source.toList.length words
      spans := by
  rw [live.scan_and_toSession.1] at done
  obtain ⟨words', takes, equal⟩ := Scan.scan_eq_ok_iff.mp (Scan.scan_of_run_ok done)
  obtain rfl : words = words' := List.append_inj_left' equal rfl
  have fromStart : Scan.Takes (.behind live.options.lineNumber []) live.source.toList [] words := by
    rw [Position.behind_nil]
    exact takes
  obtain ⟨spans, spread⟩ := fromStart.exists_spread
  rw [List.nil_append, List.append_nil, List.length_nil, Nat.zero_add] at spread
  exact ⟨spans, spread⟩

/-- The cursor at the head of the loop is over the source of the scan. -/
theorem Keeps.length_source (keeps : live.Keeps turns here) :
    here.reader.source.length = live.source.length := by
  have same : here.source = live.source := congrArg Session.source keeps.same
  rw [keeps.reads.source, same, String.length_toList]

theorem Keeps.position_le (keeps : live.Keeps turns here) :
    here.reader.position ≤ live.source.length := by
  rw [← keeps.length_source]
  exact here.reader.position_le

theorem Keeps.atEnd_iff (keeps : live.Keeps turns here) :
    here.reader.atEnd = true ↔ here.reader.position = live.source.length := by
  rw [Cursor.atEnd_iff, keeps.length_source]

/-- **At the end of a scan all turns are accounted for**, by tokens and by blanks. -/
theorem Keeps.turns_eq {spans : List (Nat × Nat)} (keeps : live.Keeps turns here)
    (ended : here.reader.position = live.source.length)
    (spread : Spread live.options.lineNumber live.source.toList 0 live.source.toList.length
      here.tokens spans) :
    turns = here.tokens.length + blanksOutside live.source.toList spans := by
  have outside := spread.blanksOutside_add
  have counted := keeps.counted
  rw [String.length_toList] at outside
  omega

/-- What is true at the head of the loop after a number of turns, and of the turn that follows. -/
structure Proceeds (live : LiveSession) (turns : Nat) (here : LiveSession) : Prop where
  turns_le : turns ≤ here.reader.position
  within : here.reader.position ≤ live.source.length
  /-- The loop stops nowhere but at the end of the source. -/
  atEnd_iff : here.reader.atEnd = true ↔ here.reader.position = live.source.length
  /-- The turn meets a fault, with which it ends the scan, or accounts for what it takes. -/
  turns : here.reader.atEnd = false →
    (∃ (fault : Fault) (left : LiveSession), here.turn = (⟨fault.records, .error fault.stop⟩, left) ∧
      live.scan.1.result = .error fault.stop) ∨
    ∃ log next, here.turn = (⟨log, .ok ()⟩, next) ∧ here.Accounts next

/-- What is true of a scan with `tokens` that has stopped at `last` after a number of turns. -/
structure Completes (live : LiveSession) (tokens : List Token) (turns : Nat)
    (last : LiveSession) : Prop where
  reached : last.reader.position = live.source.length
  left : live.scan.2 = last.close
  tokens_eq : tokens = last.tokens ++ [.endOfInput last.reader.here]
  bounded : tokens.length ≤ live.source.length + 1
  /-- There was a turn for each token in front of the end of input, and for each blank outside. -/
  counted : ∃ spans,
    Spread live.options.lineNumber live.source.toList 0 live.source.toList.length last.tokens
      spans ∧ turns = last.tokens.length + blanksOutside live.source.toList spans

theorem Running.proceeds (running : live.Running turns here) : live.Proceeds turns here where
  turns_le := running.keeps.turns_le
  within := running.keeps.position_le
  atEnd_iff := running.keeps.atEnd_iff
  turns more := by
    have ahead : here.reader.ahead ≠ [] := List.isEmpty_eq_false_iff.mp more
    rcases running.keeps.reads.turn_accounts ahead with ⟨fault, left, failed⟩ | accounted
    · exact .inl ⟨fault, left, failed, running.scan_of_error ahead failed⟩
    · exact .inr accounted

theorem Running.completes {tokens : List Token} (running : live.Running turns here)
    (ended : here.reader.atEnd = true) (done : live.scan.1.result = .ok tokens) :
    live.Completes tokens turns here := by
  have keeps := running.keeps
  have reached := keeps.atEnd_iff.mp ended
  obtain ⟨result, left⟩ := running.scan_eq ended
  obtain rfl : here.close.tokens = tokens := Except.ok.inj (result.symm.trans done)
  obtain ⟨spans, spread⟩ := exists_spread_of_scan result
  refine ⟨reached, left, rfl, ?_, spans, spread, keeps.turns_eq reached spread⟩
  have fewer := keeps.tokens_le
  have before := keeps.turns_le
  rw [close, List.length_append, List.length_singleton]
  omega

end LiveSession

end LoopLex
