/-
**Computations that keep records** and can stop before they have a result.

The records of a computation are those of its parts, in order, as far as it got.

* `Traced.note` — keeps one record;
* `Traced.stop` — stops without a result;
* `Traced.attempt` — an operation that keeps no record and may be misused.
-/

import LoopLex.Diagnostic.Report
import LoopLex.Misuse
import LoopLex.Scan.Record

namespace LoopLex

/-- Why a scan has no tokens. -/
inductive Stop where
  /-- The source text has a lexical error. -/
  | fault (fault : Fault)
  /-- An operation was misused. A scan can only ask for the text of a place that has none. -/
  | misuse (misuse : Misuse)
deriving DecidableEq, Repr

/-- A result with the records that were kept on the way to it. -/
structure Traced (α : Type) where
  log : List Record
  result : Except Stop α

namespace Traced

/-- The second computation after the first, on its result. -/
def andThen {α β : Type} (first : Traced α) (next : α → Traced β) : Traced β :=
  match first.result with
  | .error stop => ⟨first.log, .error stop⟩
  | .ok value =>
    let second := next value
    ⟨first.log ++ second.log, second.result⟩

instance : Monad Traced where
  pure value := ⟨[], .ok value⟩
  bind := andThen

/-- Keeps a record. -/
def note (record : Record) : Traced Unit := ⟨[record], .ok ()⟩

/-- Stops without a result. -/
def stop {α : Type} (reason : Stop) : Traced α := ⟨[], .error reason⟩

/-- An operation that keeps no record and may be misused. -/
def attempt {α : Type} (operation : Except Misuse α) : Traced α :=
  ⟨[], operation.mapError .misuse⟩

end Traced

end LoopLex
