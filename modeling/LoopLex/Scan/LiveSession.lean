/-
**Live sessions**: sessions that keep what their latest scan has left behind.

A scan that is running moves the cursor of the session and adds to its tokens, and an error leaves
both where they are. The next scan starts with a new cursor and with no tokens. Whatever else a scan
needs it asks the session for: it cuts the value of a string out of the source, and reads the file
name of an error from the options.

* `LiveSession.takePiece` — one piece of the text;
* `LiveSession.takePieces` — every piece up to the end of the text;
* `LiveSession.scan` — a whole scan;
* `LiveSession.perform` and `LiveSession.performAll` — commands.
-/

import LoopLex.Scan.Session
import LoopLex.Scan.Walk

namespace LoopLex

/-- A session with what the latest scan has left behind. -/
structure LiveSession extends Session where
  /-- The cursor of the latest scan, if there was one. -/
  cursor : Option Cursor := none
  /-- The tokens of the latest scan, as far as it got. -/
  tokens : List Token := []
deriving DecidableEq, Repr

namespace LiveSession

/-- A session that has not scanned yet. -/
def ofSession (session : Session) : LiveSession := { toSession := session }

/-- The cursor of the scan that is running. No text is read before the first scan. -/
def reader (live : LiveSession) : Cursor :=
  live.cursor.getD (.ofText [] live.options.lineNumber)

/-- The session with its cursor at another place. -/
def moveTo (live : LiveSession) (cursor : Cursor) : LiveSession :=
  { live with cursor := some cursor }

/-! ### One piece of the text -/

/-- The text between the quotes of a string that reaches from the mark to the cursor, cut out of the
source. -/
def stringValue (live : LiveSession) : String :=
  .ofList ((live.source.toList.take (live.reader.position - 1)).drop
    (live.reader.startPosition + 1))

/-- The kind and the value of a word that reaches from the mark to the cursor. -/
def decode (live : LiveSession) : Shape → Except Numeral.Refusal (Kind × Option Literal)
  | .string => .ok (.stringLiteral, some (.text live.stringValue))
  | shape => shape.decode live.reader.lexeme.toList

/-- Ends the scan with an error at the mark. -/
def fail (live : LiveSession) (cause : Cause) : Traced Unit × LiveSession :=
  (Scan.abort live.options cause live.reader, live)

/-- Adds the token of a word that reaches from the mark to the cursor. -/
def addWord (live : LiveSession) (shape : Shape) : Traced Unit × LiveSession :=
  match live.decode shape with
  | .ok (kind, literal) =>
    (pure (), { live with tokens := live.tokens ++ [Scan.stamp kind literal live.reader] })
  | .error (.tooLong digits) => live.fail (.tooManyDigits digits)
  | .error .malformed => (.stop (.misuse (.notNumeral live.reader.lexeme)), live)

/-- What is done with a finding whose characters are taken. -/
def conclude (live : LiveSession) : Scan.Finding → Traced Unit × LiveSession
  | .blank => (pure (), live)
  | .word shape => live.addWord shape
  | .flaw cause => live.fail cause

/-- Takes the piece of the text that starts at the cursor. -/
def takePiece (live : LiveSession) : Traced Unit × LiveSession :=
  match Scan.walk live.reader with
  | .error misuse => (.stop (.misuse misuse), live)
  | .ok (finding, last) => (live.moveTo last).conclude finding

@[simp] theorem reader_moveTo (live : LiveSession) (cursor : Cursor) :
    (live.moveTo cursor).reader = cursor := rfl

theorem reader_addWord (live : LiveSession) (shape : Shape) :
    (live.addWord shape).2.reader = live.reader := by
  unfold addWord
  split <;> rfl

theorem reader_conclude (live : LiveSession) (finding : Scan.Finding) :
    (live.conclude finding).2.reader = live.reader := by
  cases finding with
  | word shape => exact live.reader_addWord shape
  | _ => rfl

/-- After a piece, less of the text lies ahead. -/
theorem length_ahead_of_takePiece {live next : LiveSession} {log : List Record}
    (taken : live.takePiece = (⟨log, .ok ()⟩, next)) :
    next.reader.ahead.length < live.reader.ahead.length := by
  unfold takePiece at taken
  split at taken
  · cases taken
  · rename_i finding last walked
    have shorter := Scan.length_ahead_of_walk walked
    have reached := reader_conclude (live.moveTo last) finding
    rw [taken, reader_moveTo] at reached
    rw [reached]
    exact shorter

/-! ### The whole text -/

/-- Takes every piece from the cursor on, with a mark in front of each. -/
def takePieces (live : LiveSession) : Traced Unit × LiveSession :=
  if live.reader.atEnd then (pure (), live)
  else
    match taken : (live.moveTo live.reader.mark).takePiece with
    | (⟨log, .error stop⟩, left) => (⟨log, .error stop⟩, left)
    | (⟨log, .ok ()⟩, next) =>
      have _shorter : next.reader.ahead.length < live.reader.mark.ahead.length :=
        (length_ahead_of_takePiece taken :)
      let rest := next.takePieces
      (⟨log ++ rest.1.log, rest.1.result⟩, rest.2)
termination_by live.reader.ahead.length

/-- The session at the start of a scan, with a new cursor and no tokens. -/
def restart (live : LiveSession) : LiveSession :=
  { live with
    cursor := some (.ofText live.source.toList live.options.lineNumber)
    tokens := [] }

/-- The session at the end of its text, with the token for the end of input. -/
def close (live : LiveSession) : LiveSession :=
  { live with tokens := live.tokens ++ [.endOfInput live.reader.here] }

/-- Scans the source anew. -/
def scan (live : LiveSession) : Traced (List Token) × LiveSession :=
  let started := Record.started live.options.filename live.source.length
  match live.restart.takePieces with
  | (⟨log, .error stop⟩, left) => (⟨started :: log, .error stop⟩, left)
  | (⟨log, .ok ()⟩, last) =>
    let finished := Record.finished last.close.options.filename last.close.tokens.length
    (⟨started :: log ++ [finished], .ok last.close.tokens⟩, last.close)

/-! ### Commands -/

/-- One command: the outcome of the scan, if it asks for one, and the session after it. -/
def perform (live : LiveSession) :
    Session.Command → Option (Except Stop (List Token)) × LiveSession
  | .scan => (some live.scan.1.result, live.scan.2)
  | command => (none, { live with toSession := live.toSession.after command })

/-- The session after commands. -/
def performed (live : LiveSession) (commands : List Session.Command) : LiveSession :=
  commands.foldl (fun live command => (live.perform command).2) live

/-- The answers to commands in order, each with the session after it. -/
def performAll : LiveSession → List Session.Command →
    List (Option (Except Stop (List Token)) × LiveSession)
  | _, [] => []
  | live, command :: commands =>
    live.perform command :: performAll (live.perform command).2 commands

end LiveSession

end LoopLex
