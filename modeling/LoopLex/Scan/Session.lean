/-
**Scanning sessions**: a source and options that are changed and scanned over and over.

All that a session holds is the source and the options, so no scan leaves a mark on a later one.
-/

import LoopLex.Scan.Basic

namespace LoopLex

/-- A source with the options for its scans. -/
structure Session where
  source : String
  options : Options := {}
deriving DecidableEq, Repr

namespace Session

/-- What a session is asked to do. -/
inductive Command where
  | scan
  | setSource (source : String)
  | setFilename (filename : String)
  | setLineNumber (line : Int)
  | resetOptions
deriving DecidableEq, Repr

/-- The scan of the current source with the current options. -/
def scan (session : Session) : Except Stop (List Token) :=
  (Scan.run session.source session.options).result

/-- The outcome of the scan, if the command asks for one. -/
def answer? (session : Session) : Command → Option (Except Stop (List Token))
  | .scan => some session.scan
  | _ => none

/-- The session after a command. -/
def after (session : Session) : Command → Session
  | .scan => session
  | .setSource source => { session with source }
  | .setFilename filename => { session with options := { session.options with filename } }
  | .setLineNumber lineNumber => { session with options := { session.options with lineNumber } }
  | .resetOptions => { session with options := {} }

/-- The answers to commands in order, each with the session after it. -/
def run : Session → List Command → List (Option (Except Stop (List Token)) × Session)
  | _, [] => []
  | session, command :: commands =>
    (session.answer? command, session.after command) :: run (session.after command) commands

end Session

end LoopLex
