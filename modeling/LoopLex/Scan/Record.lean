/-
**Records of a scan**: when it starts, and how it ends.

Characters and tokens are counted, and a count is never too long to be written. The place of an
error can be.
-/

import LoopLex.Text.Location

namespace LoopLex

/-- What a scan reports about itself. -/
inductive Record where
  /-- A scan of that many characters has started. -/
  | started (filename : String) (characters : Nat)
  /-- A scan has ended with that many tokens. -/
  | finished (filename : String) (tokens : Nat)
  /-- A scan has met an error. -/
  | aborted (filename : String) (description : String) (location : Location)
deriving DecidableEq, Repr

namespace Record

/-- The record in words. -/
def text : Record → Except Misuse String
  | started filename characters =>
    return "Scanning " ++ filename ++ " (" ++ toString characters ++ " chars)"
  | finished filename tokens => return "Scanned " ++ toString tokens ++ " tokens from " ++ filename
  | aborted filename description location => do
    return "Scan of " ++ filename ++ " aborted: " ++ description ++ " at " ++ (← location.text)

end Record

end LoopLex
