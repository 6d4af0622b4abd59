/-
**No scan remembers an earlier one.** A live session keeps a cursor and tokens from scan to scan,
but whatever an earlier scan has left behind, a scan starts with a new cursor and with no tokens.

While it runs, its cursor is over the source of the session, so the value of a string that is cut
out of that source is the text between the quotes. It changes neither the source nor the options,
and an error that asks for the options gets those that the scan has started with. So a live session
does what is said of a session, which holds nothing but the source and the options.

* `LiveSession.Reads` — the cursor of a session is over its source;
* `LiveSession.Reads.takePiece_follows` — a piece is taken as in a step of a scan;
* `LiveSession.Reads.takePieces_follows` — and so are all pieces of a text;
* `LiveSession.scan_and_toSession` — a whole scan;
* `LiveSession.performAll_eq` — commands;
* `LiveSession.scan_independent` — a scan after any commands.
-/

import LoopLex.Proofs.Cursor.Offsets
import LoopLex.Proofs.Scan.Walking
import LoopLex.Scan.LiveSession

namespace LoopLex

/-! ### The source of a cursor -/

namespace Cursor

variable {cursor next : Cursor}

theorem source_of_advance {c : Char} (moved : cursor.advance = .ok (c, next)) :
    next.source = cursor.source := by
  unfold advance at moved
  split at moved
  · cases moved
  · rename_i ahead
    cases moved
    simp [source, ahead]

theorem source_of_advanceBy {n : Nat} (moved : cursor.advanceBy n = .ok next) :
    next.source = cursor.source := by
  induction n generalizing cursor with
  | zero =>
    cases moved
    rfl
  | succ n ih =>
    cases stepped : cursor.advance with
    | error misuse =>
      rw [advanceBy, stepped] at moved
      cases moved
    | ok taken =>
      obtain ⟨c, first⟩ := taken
      rw [advanceBy, stepped] at moved
      exact (ih moved).trans (source_of_advance stepped)

theorem source_of_walk {finding : Scan.Finding} (walked : Scan.walk cursor = .ok (finding, next)) :
    next.source = cursor.source := by
  obtain ⟨c, first, n, moved, reached⟩ := Scan.exists_moves_of_walk walked
  exact (source_of_advanceBy reached).trans (source_of_advance moved)

/-- **Between the quotes.** The slice of the source from behind the mark to in front of the cursor
is the lexeme without its first and its last character. -/
theorem slice_eq_inner (cursor : Cursor) :
    String.ofList ((cursor.source.take (cursor.position - 1)).drop (cursor.startPosition + 1)) =
      Shape.inner cursor.lexeme.toList := by
  rw [Shape.inner, lexeme, String.toList_ofList, source, position, startPosition]
  cases cursor.taken with
  | nil =>
    have short : cursor.before.length + 0 - 1 ≤ cursor.before.length + 1 := by omega
    rw [List.length_nil, List.drop_eq_nil_of_le (Nat.le_trans (List.length_take_le _ _) short)]
    rfl
  | cons last back =>
    have front : (cursor.before.reverse ++ (last :: back).reverse ++ cursor.ahead).take
        (cursor.before.length + (last :: back).length - 1) =
        cursor.before.reverse ++ back.reverse := by
      have reach : cursor.before.length + (last :: back).length - 1 =
          (cursor.before.reverse ++ back.reverse).length := by simp
      rw [reach, List.reverse_cons, List.append_assoc, List.append_assoc, ← List.append_assoc,
        List.take_left]
    rw [front, ← List.drop_drop, ← List.length_reverse, List.drop_left, List.drop_one,
      List.reverse_cons, ← List.tail_dropLast, List.dropLast_concat]

end Cursor

namespace LiveSession

variable {live : LiveSession} {cursor : Cursor}

/-! ### Pieces -/

/-- The cursor of a session is over its source. -/
structure Reads (live : LiveSession) (cursor : Cursor) : Prop where
  current : live.cursor = some cursor
  source : cursor.source = live.source.toList

theorem Reads.reader_eq (reads : live.Reads cursor) : live.reader = cursor := by
  rw [reader, reads.current]
  rfl

theorem Reads.moveTo {next : Cursor} (reads : live.Reads cursor)
    (same : next.source = cursor.source) : (live.moveTo next).Reads next :=
  ⟨rfl, same.trans reads.source⟩

theorem Reads.restart (live : LiveSession) :
    live.restart.Reads (.ofText live.source.toList live.options.lineNumber) :=
  ⟨rfl, rfl⟩

/-- The value of a string is the text between its quotes. -/
theorem Reads.decode_eq (reads : live.Reads cursor) (shape : Shape) :
    live.decode shape = shape.decode cursor.lexeme.toList := by
  have value : live.stringValue = Shape.inner cursor.lexeme.toList := by
    rw [stringValue, reads.reader_eq, ← reads.source, Cursor.slice_eq_inner]
  cases shape with
  | string => rw [decode, value, Shape.decode]
  | _ =>
    rw [← reads.reader_eq]
    rfl

/-- What a session does follows a step of a scan: it has the same records and the same end, and the
token of the step is added to its own. Nothing else changes but the cursor. -/
inductive FollowsStep (live : LiveSession) :
    Traced (Option Token × Cursor) → Traced Unit × LiveSession → Prop where
  | ok {log : List Record} {token : Option Token} {next : Cursor}
    (same : next.source = live.source.toList) :
    FollowsStep live ⟨log, .ok (token, next)⟩
      (⟨log, .ok ()⟩, { live with cursor := some next, tokens := live.tokens ++ token.toList })
  | error {log : List Record} {stop : Stop} (cursor : Option Cursor) :
    FollowsStep live ⟨log, .error stop⟩ (⟨log, .error stop⟩, { live with cursor })

theorem FollowsStep.exists_left {log : List Record} {stop : Stop}
    {outcome : Traced Unit × LiveSession} (follows : live.FollowsStep ⟨log, .error stop⟩ outcome) :
    ∃ left, outcome = (⟨log, .error stop⟩, left) := by
  cases follows with
  | error cursor => exact ⟨_, rfl⟩

/-- An error ends a session as it ends a scan. -/
theorem fail_follows (live : LiveSession) (cause : Cause) (last : Cursor) :
    live.FollowsStep (Scan.abort live.options cause last) ((live.moveTo last).fail cause) := by
  show live.FollowsStep _ (Scan.abort live.options cause last, _)
  rw [Scan.abort_eq, Scan.abort_eq]
  exact .error (some last)

theorem Reads.addWord_follows {last : Cursor} (reads : (live.moveTo last).Reads last)
    (shape : Shape) :
    live.FollowsStep
      (do return (some (← Scan.tokenOf live.options shape last), last))
      ((live.moveTo last).addWord shape) := by
  unfold addWord Scan.tokenOf
  rw [reads.decode_eq]
  cases shape.decode last.lexeme.toList with
  | ok decoded => exact .ok reads.source
  | error refusal =>
    cases refusal with
    | malformed => exact .error (some last)
    | tooLong digits =>
      dsimp only
      rw [Scan.abort_bind]
      exact live.fail_follows _ last

/-- **A piece is taken as in a step of a scan.** -/
theorem Reads.takePiece_follows (reads : live.Reads cursor) :
    live.FollowsStep (Scan.step live.options cursor) live.takePiece := by
  rw [Scan.step_eq_walk, takePiece, reads.reader_eq]
  cases walked : Scan.walk cursor with
  | error misuse => exact .error live.cursor
  | ok found =>
    obtain ⟨finding, last⟩ := found
    have moved := reads.moveTo (Cursor.source_of_walk walked)
    rw [Scan.attempt_ok_bind rfl]
    cases finding with
    | blank =>
      have same : live.moveTo last =
          { live with cursor := some last, tokens := live.tokens ++ none.toList } := by
        rw [Option.toList_none, List.append_nil]
        rfl
      show live.FollowsStep _ (pure (), live.moveTo last)
      rw [same]
      exact .ok moved.source
    | word shape => exact moved.addWord_follows shape
    | flaw cause => exact live.fail_follows cause last

/-! ### All pieces -/

theorem takePieces_of_ok {log : List Record} {next : LiveSession} (more : live.reader.ahead ≠ [])
    (taken : (live.moveTo live.reader.mark).takePiece = (⟨log, .ok ()⟩, next)) :
    live.takePieces =
      (⟨log ++ next.takePieces.1.log, next.takePieces.1.result⟩, next.takePieces.2) := by
  have goes : ¬ live.reader.atEnd = true := mt List.isEmpty_iff.mp more
  rw [takePieces, if_neg goes]
  split
  · rename_i equal
    rw [taken] at equal
    cases equal
  · rename_i equal
    rw [taken] at equal
    cases equal
    rfl

theorem takePieces_of_error {log : List Record} {stop : Stop} {left : LiveSession}
    (more : live.reader.ahead ≠ [])
    (taken : (live.moveTo live.reader.mark).takePiece = (⟨log, .error stop⟩, left)) :
    live.takePieces = (⟨log, .error stop⟩, left) := by
  have goes : ¬ live.reader.atEnd = true := mt List.isEmpty_iff.mp more
  rw [takePieces, if_neg goes]
  split
  · rename_i equal
    rw [taken] at equal
    cases equal
    rfl
  · rename_i equal
    rw [taken] at equal
    cases equal

/-- What a session does follows a scan: it has the same records and the same end, and the tokens of
the scan are added to its own. The end of input is where its cursor stops. -/
inductive FollowsScan (live : LiveSession) :
    Traced (List Token) → Traced Unit × LiveSession → Prop where
  | ok {log : List Record} {words : List Token} {last : Cursor} :
    FollowsScan live ⟨log, .ok (words ++ [.endOfInput last.here])⟩
      (⟨log, .ok ()⟩, { live with cursor := some last, tokens := live.tokens ++ words })
  | error {log : List Record} {stop : Stop} (cursor : Option Cursor) (tokens : List Token) :
    FollowsScan live ⟨log, .error stop⟩ (⟨log, .error stop⟩, { live with cursor, tokens })

/-- A session that goes on behind a piece follows the scan that goes on behind it. -/
theorem FollowsScan.behind {log : List Record} {token : Option Token} {next : Cursor}
    {later : Traced (List Token)} {rest : Traced Unit × LiveSession}
    (follows : FollowsScan
      { live with cursor := some next, tokens := live.tokens ++ token.toList } later rest) :
    live.FollowsScan ⟨log ++ later.log, later.result.map (token.toList ++ ·)⟩
      (⟨log ++ rest.1.log, rest.1.result⟩, rest.2) := by
  cases follows with
  | @ok records words last =>
    have tokens : token.toList ++ (words ++ [.endOfInput last.here]) =
        token.toList ++ words ++ [.endOfInput last.here] := (List.append_assoc _ _ _).symm
    show live.FollowsScan ⟨_, .ok (token.toList ++ (words ++ [.endOfInput last.here]))⟩ _
    rw [tokens, List.append_assoc live.tokens]
    exact .ok
  | error cursor tokens => exact .error cursor tokens

/-- **All pieces of a text are taken as in a scan.** -/
theorem Reads.takePieces_follows (reads : live.Reads cursor) :
    live.FollowsScan (Scan.tokensFrom live.options cursor) live.takePieces := by
  induction size : cursor.ahead.length using Nat.strongRecOn generalizing live cursor with
  | _ n ih =>
    by_cases done : cursor.ahead = []
    · have ended : live.reader.atEnd = true := by
        rw [reads.reader_eq]
        exact List.isEmpty_iff.mpr done
      have same : live = { live with cursor := some cursor, tokens := live.tokens ++ [] } := by
        rw [← reads.current, List.append_nil]
      have follows : live.FollowsScan ⟨[], .ok ([] ++ [.endOfInput cursor.here])⟩
          (⟨[], .ok ()⟩, { live with cursor := some cursor, tokens := live.tokens ++ [] }) := .ok
      rw [← same] at follows
      rw [Scan.tokensFrom_of_atEnd done, takePieces, if_pos ended]
      exact follows
    · have more : live.reader.ahead ≠ [] := by
        rw [reads.reader_eq]
        exact done
      have marked : live.moveTo live.reader.mark = live.moveTo cursor.mark := by
        rw [reads.reader_eq]
      have follows : (live.moveTo cursor.mark).FollowsStep
          (Scan.step live.options cursor.mark) (live.moveTo live.reader.mark).takePiece :=
        marked ▸ (reads.moveTo cursor.source_mark).takePiece_follows
      generalize stepped : Scan.step live.options cursor.mark = step at follows
      generalize taken : (live.moveTo live.reader.mark).takePiece = outcome at follows
      cases follows with
      | @ok log token next same =>
        have fewer : next.ahead.length < cursor.mark.ahead.length :=
          Scan.length_ahead_of_step (congrArg Traced.result stepped)
        have shorter : next.ahead.length < n := size ▸ fewer
        rw [Scan.tokensFrom_of_ok done stepped, takePieces_of_ok more taken]
        exact .behind (ih _ shorter ⟨rfl, same⟩ rfl)
      | error left =>
        rw [Scan.tokensFrom_of_error done stepped, takePieces_of_error more taken]
        exact .error left live.tokens

/-! ### Whole scans -/

/-- **A scan does what is said of its source and its options**, and changes neither of them. -/
theorem scan_and_toSession (live : LiveSession) :
    live.scan.1 = Scan.run live.source live.options ∧
      live.scan.2.toSession = live.toSession := by
  have follows : live.restart.FollowsScan
      (Scan.tokensFrom live.options
        (.ofText live.source.toList live.options.lineNumber)) live.restart.takePieces :=
    (Reads.restart live).takePieces_follows
  unfold scan Scan.run
  generalize Scan.tokensFrom live.options _ = made at follows ⊢
  generalize live.restart.takePieces = outcome at follows ⊢
  cases follows with
  | ok => exact ⟨rfl, rfl⟩
  | error cursor tokens => exact ⟨rfl, rfl⟩

/-! ### Commands -/

/-- A live session answers a command as a session does, and is set as the session is after it. -/
theorem perform_eq (live : LiveSession) (command : Session.Command) :
    (live.perform command).1 = live.toSession.answer? command ∧
      (live.perform command).2.toSession = live.toSession.after command := by
  cases command with
  | scan =>
    obtain ⟨scanned, kept⟩ := live.scan_and_toSession
    exact ⟨congrArg (fun traced : Traced (List Token) => some traced.result) scanned, kept⟩
  | _ => exact ⟨rfl, rfl⟩

/-- **A live session does what a session does**, which holds nothing but source and options. -/
theorem performAll_eq (live : LiveSession) (commands : List Session.Command) :
    (live.performAll commands).map (fun reply => (reply.1, reply.2.toSession)) =
      live.toSession.run commands := by
  induction commands generalizing live with
  | nil => rfl
  | cons command commands ih =>
    obtain ⟨answered, set⟩ := live.perform_eq command
    rw [performAll, List.map_cons, ih, Session.run, answered, set]

/-- **No scan depends on an earlier one.** After any commands, scans among them that have ended with
tokens or with an error, a scan has the records and the outcome that it has in a new session with
the same source and options, and changes neither of these. So the answers to the commands, and the
source and the options after each of them, are those of a session that holds nothing else. -/
theorem scan_independent (session : Session) (commands : List Session.Command) :
    let live := (ofSession session).performed commands
    live.scan.1 = (ofSession live.toSession).scan.1 ∧
      live.scan.2.toSession = live.toSession ∧
      ((ofSession session).performAll commands).map (fun reply => (reply.1, reply.2.toSession)) =
        session.run commands := by
  intro live
  obtain ⟨scanned, kept⟩ := live.scan_and_toSession
  have anew := (ofSession live.toSession).scan_and_toSession.1
  exact ⟨scanned.trans anew.symm, kept, (ofSession session).performAll_eq commands⟩

/-- An error leaves behind what the scan has got so far. -/
example : ((ofSession ⟨"a \"", {}⟩).performed [.scan]).tokens =
    [⟨.identifier, "a", none, 1, 1, 1⟩] := by
  decide +kernel

end LiveSession

end LoopLex
