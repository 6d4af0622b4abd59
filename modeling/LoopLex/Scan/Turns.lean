/-
**The turns of a scan.** In each turn of its loop a scan takes a checkpoint, and the piece of the
text that starts there.

* `LiveSession.turn` — one turn;
* `LiveSession.Running` — the sessions at the head of the loop, with the number of turns so far;
* `LiveSession.taken` — the text that is taken from one session to another.
-/

import LoopLex.Scan.LiveSession
import LoopLex.Text.OffsetCursor

namespace LoopLex.LiveSession

/-- One turn of the loop. -/
def turn (live : LiveSession) : Traced Unit × LiveSession :=
  (live.moveTo live.reader.mark).takePiece

/-- The scan of `live` is at the head of its loop after a number of turns. -/
inductive Running (live : LiveSession) : Nat → LiveSession → Prop where
  | start : Running live 0 live.restart
  | next {turns : Nat} {log : List Record} {here next : LiveSession}
    (running : Running live turns here) (more : here.reader.atEnd = false)
    (turned : here.turn = (⟨log, .ok ()⟩, next)) : Running live (turns + 1) next

/-- The text that is taken on the way from `here` to `next`. -/
def taken (here next : LiveSession) : List Char :=
  slice here.source.toList here.reader.position next.reader.position

end LoopLex.LiveSession
