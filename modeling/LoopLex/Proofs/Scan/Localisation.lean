/-
**The place of a fault.** A fault tells where the source stops to be one of words and blanks.

In front of the place the source can be scanned to its end, and the end is the place. From there on,
scanned by itself, it has the same fault at its start. The scan takes a text in the same way when
less lies behind it, and nothing that it has taken decides what it makes of the rest.

* `Takes.of_append` — a text is taken in the same way when less lies behind it;
* `Flaw.not_blank` — a flaw starts with no blank, so its first character is on its line;
* `Fault.LocatedAt` — what an offset has to satisfy to be the one of a fault;
* `Fault.RecursAt` — the scan of the text from an offset on stops with the same fault;
* `scan_fault_localised` — the fault of a scan has one offset.
-/

import LoopLex.Proofs.Scan.Taking
import LoopLex.Proofs.Text.Lines
import LoopLex.Proofs.Text.Order
import LoopLex.Proofs.Word.LongestWord
import Mathlib.Control.Monad.Basic

namespace LoopLex

/-! ### Less text behind -/

/-- A word is read in front of every start of a text that it is read in front of. -/
theorem Shape.Reads.of_append {shape : Shape} {word rest tail : List Char}
    (reads : shape.Reads word (rest ++ tail)) : shape.Reads word rest :=
  ⟨reads.fits, reads.ends.of_append, fun number => any_head?_of_append (reads.apart number)⟩

/-- **A text is taken in the same way when less lies behind it.** -/
theorem Scan.Takes.of_append {place : Position} {text rest tail : List Char} {tokens : List Token}
    (takes : Takes place text (rest ++ tail) tokens) : Takes place text rest tokens := by
  generalize whole : rest ++ tail = behind at takes
  induction takes with
  | nil place behind => exact .nil place rest
  | blank blank later ih => exact .blank blank (ih whole)
  | word reads decoded later ih =>
    subst whole
    rw [← List.append_assoc] at reads
    exact .word reads.of_append decoded (ih rfl)

/-! ### The first character of a flaw -/

theorem not_blank_of_not_mem_openers {c : Char} (unknown : c ∉ openers) :
    c ∉ Vocabulary.blanks := fun blank =>
  unknown (List.mem_append_left _ (List.mem_append_right _ blank))

/-- **A flaw starts with no blank.** -/
theorem Flaw.not_blank {cause : Cause} {c : Char} {more rest : List Char}
    (flaw : Flaw cause (c :: more) rest) : c ∉ Vocabulary.blanks := by
  generalize equal : c :: more = near at flaw
  cases flaw with
  | stray stray =>
    cases stray with
    | character unknown noPart =>
      cases equal
      exact not_blank_of_not_mem_openers unknown
    | _ =>
      cases equal
      decide
  | letter fits =>
    subst equal
    exact fits.not_blank
  | tooLong run reads =>
    subst equal
    exact reads.fits.not_blank

theorem Flaw.exists_cons {cause : Cause} {near rest : List Char} (flaw : Flaw cause near rest) :
    ∃ c more, near = c :: more ∧ c ≠ '\n' := by
  obtain ⟨c, more, rfl⟩ := List.exists_cons_of_ne_nil flaw.ne_nil
  refine ⟨c, more, rfl, ?_⟩
  rintro rfl
  exact absurd flaw.not_blank (by decide)

/-! ### The offset of a fault -/

/-- The place that a fault tells. -/
def Fault.place (fault : Fault) : Position := ⟨fault.location.line, fault.location.column⟩

/-- The fault of the scan of `source` stands at `offset`. -/
structure Fault.LocatedAt (source : String) (options : Options) (fault : Fault) (offset : Nat) :
    Prop where
  within : offset < source.toList.length
  /-- The text in front of the offset is scanned to its end, which is the place of the fault. -/
  front : ∃ words, scan (.ofList (source.toList.take offset)) options =
    .ok { tokens := words ++ [.endOfInput fault.place] }
  /-- The text from the offset on has the same fault at its start. -/
  back : ∃ line, ∀ filename,
    scan (.ofList (source.toList.drop offset)) { filename, lineNumber := fault.location.line } =
      Fault.outcome { fault with
        location := ⟨filename, fault.location.line, 1⟩
        sourceLine := line }
  filename : fault.location.filename = options.filename
  near : fault.near.toList ≠ [] ∧ fault.near.toList <+: source.toList.drop offset
  /-- The source line is the one of the offset, and the column counts from its start. -/
  sourceLine : ∃ index : Nat, fault.location.column = index + 1 ∧
    OnLine source.toList fault.sourceLine.toList offset index

/-- The scan of the text from the offset on stops with the same fault at its start. -/
def Fault.RecursAt (source : String) (fault : Fault) (offset : Nat) : Prop :=
  ∃ line, ∀ filename,
    scan (.ofList (source.toList.drop offset)) { filename, lineNumber := fault.location.line } =
      .ok { fault := some { fault with
        location := ⟨filename, fault.location.line, 1⟩
        sourceLine := line } }

/-- The place of a fault is that of its offset. -/
theorem Fault.LocatedAt.place_eq {source : String} {options : Options} {fault : Fault}
    {offset : Nat} (located : fault.LocatedAt source options offset) :
    fault.place = .behind options.lineNumber (source.toList.take offset) := by
  obtain ⟨words, done⟩ := located.front
  obtain ⟨words', _, same⟩ := Scan.scan_eq_ok_iff.mp done
  rw [String.toList_ofList] at same
  have last := List.singleton_inj.mp (List.append_inj' same rfl).2
  exact congrArg (fun token => Position.mk token.line token.columnStart) last

theorem Fault.LocatedAt.unique {source : String} {options : Options} {fault : Fault}
    {offset other : Nat} (first : fault.LocatedAt source options offset)
    (second : fault.LocatedAt source options other) : other = offset :=
  Position.eq_of_behind_take_eq (Nat.le_of_lt second.within) (Nat.le_of_lt first.within)
    (second.place_eq.symm.trans first.place_eq)

/-- A fault that has been told can be told again in its line. -/
theorem Fault.LocatedAt.recursAt {source : String} {options : Options} {fault : Fault}
    {offset : Nat} (located : fault.LocatedAt source options offset)
    (writable : fault.location.Writable) : fault.RecursAt source offset := by
  have first : Numeral.Writable 1 := by decide +kernel
  obtain ⟨line, back⟩ := located.back
  refine ⟨line, fun filename => ?_⟩
  have atStart : Location.Writable ⟨filename, fault.location.line, 1⟩ := ⟨writable.1, first⟩
  rw [back filename, Fault.outcome_of_writable atStart]

namespace Scan

variable {source : String} {options : Options} {front near rest : List Char} {words : List Token}
  {cause : Cause}

/-- A flaw at the start of a text is the fault of its scan. -/
theorem scan_of_flaw_at_start (flaw : Flaw cause near rest) (filename : String) (line : Int) :
    scan (.ofList (near ++ rest)) { filename, lineNumber := line } =
      (Fault.ofFlaw filename (.startOf line) [] cause near rest).outcome := by
  have split : (String.ofList (near ++ rest)).toList = [] ++ (near ++ rest) := String.toList_ofList
  refine Meets.scan_eq ⟨[], near, rest, [], cause, split, .nil _ _, flaw, ?_⟩
  rw [Position.behind_nil]

/-- **A flaw behind a text that is taken is the fault of the scan, at the end of that text.** -/
theorem locatedAt_of_flaw (split : source.toList = front ++ (near ++ rest))
    (takes : Takes (.startOf options.lineNumber) front (near ++ rest) words)
    (flaw : Flaw cause near rest) :
    Fault.LocatedAt source options
      (.ofFlaw options.filename (.behind options.lineNumber front) front cause near rest)
      front.length := by
  obtain ⟨c, more, rfl, noNewline⟩ := flaw.exists_cons
  have taken : source.toList.take front.length = front := by rw [split, List.take_left]
  have left : source.toList.drop front.length = c :: more ++ rest := by rw [split, List.drop_left]
  refine {
    within := ?within
    front := ⟨words, scan_eq_ok_iff.mpr ⟨words, ?taken, ?stop⟩⟩
    back := ⟨lineAround [] (c :: more ++ rest), fun filename => ?back⟩
    filename := rfl
    near := ?near
    sourceLine := ⟨(front.reverse.takeWhile (· ≠ '\n')).length, Int.add_comm _ _, ?line⟩ }
  case within =>
    rw [split, List.length_append, List.length_append, List.length_cons]
    omega
  case taken =>
    have alone : Takes (.startOf options.lineNumber) front [] words := Takes.of_append takes
    rw [taken, String.toList_ofList]
    exact alone
  case stop =>
    rw [taken, String.toList_ofList]
    rfl
  case back =>
    rw [left]
    exact scan_of_flaw_at_start flaw filename _
  case near =>
    show (String.ofList (c :: more)).toList ≠ [] ∧ (String.ofList (c :: more)).toList <+: _
    rw [left, String.toList_ofList]
    exact ⟨List.cons_ne_nil c more, List.prefix_append _ _⟩
  case line =>
    show OnLine source.toList (lineAround front (c :: more ++ rest)).toList _ _
    rw [split, lineAround, String.toList_ofList]
    exact onLine_around front (more ++ rest) noNewline

/-- **The fault of a scan stands at one offset of the source.** What lies in front of the offset is
free of faults and ends at the place of the fault; what lies behind it has the same fault, whatever
stood in front. File name, near text and source line belong to the offset. -/
theorem scan_fault_localised {fault : Fault}
    (stopped : scan source options = .ok { fault := some fault }) :
    ∃! offset, fault.LocatedAt source options offset ∧ fault.RecursAt source offset := by
  obtain ⟨⟨front, near, rest, words, cause, split, takes, flaw, rfl⟩, writable⟩ :=
    scan_eq_fault_iff.mp stopped
  have here := locatedAt_of_flaw split takes flaw
  exact ⟨front.length, ⟨here, here.recursAt writable⟩, fun other there => here.unique there.1⟩

/-- A letter after a number, on the line that a string with a newline in it ends on, and one more
flaw on the line below. -/
theorem scan_fault_localised_behind_string :
    ∃ fault, scan "\t\"x\ny\" 3b\n!" ⟨"f", -1⟩ = .ok { fault := some fault } ∧
      fault.cause = .letterAfterNumber ∧
      ∃! offset, fault.LocatedAt "\t\"x\ny\" 3b\n!" ⟨"f", -1⟩ offset ∧
        fault.RecursAt "\t\"x\ny\" 3b\n!" offset := by
  have stopped : scan "\t\"x\ny\" 3b\n!" ⟨"f", -1⟩ =
      .ok { fault := some ⟨.letterAfterNumber, ⟨"f", 0, 4⟩, "3", "y\" 3b"⟩ } := by
    decide +kernel
  exact ⟨_, stopped, rfl, scan_fault_localised stopped⟩

end Scan

end LoopLex
