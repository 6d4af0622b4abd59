/-
**The places that a scan visits**: where it looks for the next piece of its source.

A scan starts in front of its source and goes on behind every piece that it takes, until it stands
at the end or meets an error.
-/

import LoopLex.Scan.Basic

namespace LoopLex.Scan

/-- The scan of `source` looks for a piece at the cursor, or ends there. -/
inductive Visits (source : String) (options : Options) : Cursor → Prop where
  | start : Visits source options (.ofText source.toList options.lineNumber)
  | next {cursor next : Cursor} {token : Option Token} (visited : Visits source options cursor)
    (stepped : (step options cursor.mark).result = .ok (token, next)) : Visits source options next

end LoopLex.Scan
