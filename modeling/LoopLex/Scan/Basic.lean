/-
**Scanning**: from source text to tokens.

The cursor is marked in front of each piece of the text. A blank is passed over, a word becomes a
token, and anything else ends the scan with an error at the mark. The message of the error comes
first, so if the place of the mark has no text, neither the error nor a record of it comes about. A
token for the end of input closes the list.

* `Scan.step` — one piece of the text;
* `Scan.tokensFrom` — every piece from the cursor on;
* `Scan.run` — a whole text, with the records of the scan;
* `scan` and `tokenize` — a whole text, without them.
-/

import LoopLex.Scan.Traced
import LoopLex.Text.Cursor
import LoopLex.Token.Basic
import LoopLex.Word.Head

namespace LoopLex

/-- What a scan is told about its source. -/
structure Options where
  /-- The name of the source in locations and records. -/
  filename : String := "<input>"
  /-- The line number of the first line, for a text that is cut out of a larger one. -/
  lineNumber : Int := 1
deriving DecidableEq, Repr

namespace Scan

/-- The location of the mark. -/
def markedLocation (options : Options) (cursor : Cursor) : Location :=
  ⟨options.filename, cursor.start.line, cursor.start.column⟩

/-- The error at the mark. -/
def faultAt (options : Options) (cause : Cause) (cursor : Cursor) : Fault :=
  ⟨cause, markedLocation options cursor, cursor.nearText, cursor.currentLine⟩

/-- Ends the scan with an error at the mark: puts its message together, keeps a record of it, and
stops. -/
def abort {α : Type} (options : Options) (cause : Cause) (cursor : Cursor) : Traced α := do
  let fault := faultAt options cause cursor
  let _message ← .attempt fault.diagnostic.message
  .note (.aborted options.filename cause.description fault.location)
  .stop (.fault fault)

/-- The token from the mark to the cursor. -/
def stamp (kind : Kind) (literal : Option Literal) (cursor : Cursor) : Token :=
  ⟨kind, cursor.lexeme, literal, cursor.start.line, cursor.start.column, cursor.here.column - 1⟩

/-- The token of a word that reaches from the mark to the cursor. -/
def tokenOf (options : Options) (shape : Shape) (cursor : Cursor) : Traced Token :=
  match shape.decode cursor.lexeme.toList with
  | .ok (kind, literal) => pure (stamp kind literal cursor)
  | .error (.tooLong digits) => abort options (.tooManyDigits digits) cursor
  | .error .malformed => .stop (.misuse (.notNumeral cursor.lexeme))

/-- Takes one piece of the text. A blank has no token. -/
def step (options : Options) (cursor : Cursor) : Traced (Option Token × Cursor) := do
  let (c, next) ← .attempt cursor.advance
  match Head.read c next.ahead with
  | .blank => return (none, next)
  | .flaw cause more =>
    let last ← .attempt (next.advanceBy more.length)
    abort options cause last
  | .word shape more =>
    let last ← .attempt (next.advanceBy more.length)
    return (some (← tokenOf options shape last), last)

/-! ### Every piece takes at least one character -/

/-- A misuse gives no result, so an attempt with one has met none. -/
theorem attempt_bind_ok {α β : Type} {operation : Except Misuse α} {next : α → Traced β} {b : β}
    (done : (Traced.attempt operation >>= next).result = .ok b) :
    ∃ a, operation = .ok a ∧ (next a).result = .ok b := by
  cases operation with
  | error misuse => cases done
  | ok a => exact ⟨a, rfl, done⟩

/-- After a step, less of the text lies ahead. -/
theorem length_ahead_of_step {options : Options} {cursor next : Cursor} {token : Option Token}
    (stepped : (step options cursor).result = .ok (token, next)) :
    next.ahead.length < cursor.ahead.length := by
  obtain ⟨⟨c, first⟩, advanced, rest⟩ := attempt_bind_ok stepped
  have shorter := Cursor.length_ahead_of_advance advanced
  cases head : Head.read c first.ahead with
  | blank =>
    simp only [head] at rest
    cases rest
    omega
  | flaw cause more =>
    simp only [head] at rest
    obtain ⟨last, _, aborted⟩ := attempt_bind_ok rest
    obtain ⟨message, _, stopped⟩ := attempt_bind_ok aborted
    cases stopped
  | word shape more =>
    simp only [head] at rest
    obtain ⟨last, taken, decoded⟩ := attempt_bind_ok rest
    have fewer := Cursor.length_ahead_of_advanceBy taken
    cases made : tokenOf options shape last with
    | mk log result =>
      rw [made] at decoded
      cases result with
      | error stop => cases decoded
      | ok token =>
        cases decoded
        omega

/-! ### The whole text -/

/-- The tokens from the cursor on, the end of input included. -/
def tokensFrom (options : Options) (cursor : Cursor) : Traced (List Token) :=
  if cursor.atEnd then pure [.endOfInput cursor.here]
  else
    match stepped : step options cursor.mark with
    | ⟨log, .error stop⟩ => ⟨log, .error stop⟩
    | ⟨log, .ok (token, next)⟩ =>
      have _shorter : next.ahead.length < cursor.mark.ahead.length :=
        length_ahead_of_step (congrArg Traced.result stepped)
      let rest := tokensFrom options next
      ⟨log ++ rest.log, rest.result.map (token.toList ++ ·)⟩
termination_by cursor.ahead.length

/-- Scans a whole text and keeps records of it. -/
def run (source : String) (options : Options) : Traced (List Token) := do
  .note (.started options.filename source.length)
  let tokens ← tokensFrom options (.ofText source.toList options.lineNumber)
  .note (.finished options.filename tokens.length)
  return tokens

/-- The outcome of a scan: all tokens, or the error that ended it. -/
structure Result where
  tokens : List Token := []
  fault : Option Fault := none
deriving DecidableEq, Repr

/-- Whether the scan met no error. -/
def Result.ok (result : Result) : Bool := result.fault.isNone

end Scan

/-- The outcome of a scan of `source`, unless the place of an error has no text. -/
def scan (source : String) (options : Options) : Except Misuse Scan.Result :=
  match (Scan.run source options).result with
  | .ok tokens => .ok { tokens }
  | .error (.fault fault) => .ok { fault := some fault }
  | .error (.misuse misuse) => .error misuse

/-- The tokens of `source`, whose first line is line 1 of the file `filename`. -/
def tokenize (source : String) (filename : String) : Except Stop (List Token) :=
  (Scan.run source { filename }).result

end LoopLex
