/-
**What operations take, and what they leave as it is.**

Of all operations on a cursor only two take text, one character at a time. Any other operation,
and any that is refused or fails, leaves the whole cursor as it is, but for the one that moves the
checkpoint and nothing else. So the characters that operations have taken, put together, are the
text in front of the cursor: none is skipped, and none is taken twice.

* `Operation.taken` and `consumed` — what operations have taken, by their answers;
* `Moves` and `perform_moves` — everything that an operation can do to a cursor;
* `behind_perform` and `behind_performed` — the text in front of a cursor grows by what is taken;
* `Frames` — when operations succeed, and what they leave as it is;
* `performed_frames` — all of this after any operations.
-/

import LoopLex.Proofs.Cursor.Offsets

namespace LoopLex.Cursor

variable {cursor : Cursor}

/-! ### What operations take -/

/-- The characters that an operation has taken, by its answer. -/
def Operation.taken : Operation → Answer → List Char
  | .advance, .character c => [c]
  | .accept expected, .truth true => expected.toList
  | _, _ => []

/-- The characters that operations have taken, in their order. -/
def consumed (cursor : Cursor) (operations : List Operation) : List Char :=
  (operations.zip (cursor.performAll operations)).flatMap fun done => done.1.taken done.2.1

/-- What an operation can do to a cursor, with its answer. -/
inductive Moves (cursor : Cursor) : Operation → Answer × Cursor → Prop where
  /-- It takes nothing, and leaves the cursor as it is. -/
  | stays {operation : Operation} {answer : Answer} (other : operation ≠ .mark)
    (nothing : operation.taken answer = []) : Moves cursor operation (answer, cursor)
  /-- It takes the next character. -/
  | takes {operation : Operation} {answer : Answer} {c : Char} {rest : List Char}
    (other : operation ≠ .mark) (ahead : cursor.ahead = c :: rest)
    (one : operation.taken answer = [c]) : Moves cursor operation (answer, cursor.past [c] rest)
  /-- It moves the checkpoint. -/
  | marks : Moves cursor .mark (.done, cursor.mark)

/-- **Every operation stays where it is, takes one character or moves the checkpoint.** -/
theorem perform_moves (cursor : Cursor) (operation : Operation) :
    cursor.Moves operation (cursor.perform operation) := by
  cases operation with
  | advance =>
    rw [perform]
    cases ahead : cursor.ahead with
    | nil =>
      rw [advance, ahead]
      exact .stays (by simp) rfl
    | cons c rest =>
      rw [advance_of_ahead ahead]
      exact .takes (by simp) ahead rfl
  | accept expected =>
    rw [perform]
    cases ahead : cursor.ahead with
    | nil =>
      rw [accept_of_end ahead]
      exact .stays (by simp) rfl
    | cons c rest =>
      rw [accept_of_ahead ahead]
      by_cases equal : expected.toList = [c]
      · rw [if_pos equal]
        exact .takes (by simp) ahead equal
      · rw [if_neg equal]
        exact .stays (by simp) rfl
  | mark => exact .marks
  | _ => exact .stays (by simp) rfl

/-! ### The text in front of the cursor -/

theorem source_perform (cursor : Cursor) (operation : Operation) :
    (cursor.perform operation).2.source = cursor.source := by
  have moves := cursor.perform_moves operation
  generalize cursor.perform operation = reply at moves ⊢
  cases moves with
  | stays => rfl
  | takes other ahead => exact source_past ahead
  | marks => exact source_mark cursor

theorem source_performed (cursor : Cursor) (operations : List Operation) :
    (cursor.performed operations).source = cursor.source := by
  induction operations generalizing cursor with
  | nil => rfl
  | cons operation operations ih => exact (ih _).trans (source_perform cursor operation)

/-- **An operation moves over what it takes.** -/
theorem behind_perform (cursor : Cursor) (operation : Operation) :
    (cursor.perform operation).2.behind =
      cursor.behind ++ operation.taken (cursor.perform operation).1 := by
  have moves := cursor.perform_moves operation
  generalize cursor.perform operation = reply at moves ⊢
  cases moves with
  | stays other nothing => rw [nothing, List.append_nil]
  | takes other ahead one => rw [one, behind_past]
  | marks => exact (behind_mark cursor).trans (List.append_nil _).symm

/-- **Operations move over what they take**, however many. -/
theorem behind_performed (cursor : Cursor) (operations : List Operation) :
    (cursor.performed operations).behind = cursor.behind ++ cursor.consumed operations := by
  induction operations generalizing cursor with
  | nil => exact (List.append_nil _).symm
  | cons operation operations ih =>
    calc (cursor.performed (operation :: operations)).behind
        = (cursor.perform operation).2.behind ++
            (cursor.perform operation).2.consumed operations := ih _
      _ = cursor.behind ++ (operation.taken (cursor.perform operation).1 ++
            (cursor.perform operation).2.consumed operations) := by
          rw [behind_perform, List.append_assoc]
      _ = cursor.behind ++ cursor.consumed (operation :: operations) := rfl

/-! ### When operations succeed, and what they leave as it is -/

/-- The operations that only look at the text. -/
def Operation.looks : List Operation := [.peek, .peekNext, .atEnd, .lexeme, .nearText, .currentLine]

/-- What the operations do at a cursor in `text`. -/
structure Frames (text : List Char) (cursor : Cursor) : Prop where
  /-- To take a character is refused at the end of the text, and nowhere else. -/
  refused_iff : (cursor.perform .advance).1 = .refused .pastEnd ↔ cursor.position = text.length
  /-- What is taken is the character at the offset of the cursor. -/
  character_iff : ∀ c,
    (cursor.perform .advance).1 = .character c ↔ text[cursor.position]? = some c
  /-- An expected text is met where it is exactly one character, which the text really has there. -/
  met_iff : ∀ expected, (cursor.perform (.accept expected)).1 = .truth true ↔
    ∃ inside : cursor.position < text.length, expected.toList = [text[cursor.position]]
  /-- Otherwise it is missed, which is no misuse. -/
  missed : ∀ expected, (cursor.perform (.accept expected)).1 ≠ .truth true →
    (cursor.perform (.accept expected)).1 = .truth false
  refused_stays : (cursor.perform .advance).1 = .refused .pastEnd →
    (cursor.perform .advance).2 = cursor
  missed_stays : ∀ expected, (cursor.perform (.accept expected)).1 = .truth false →
    (cursor.perform (.accept expected)).2 = cursor
  look_stays : ∀ operation ∈ Operation.looks, (cursor.perform operation).2 = cursor
  /-- A checkpoint is taken at the cursor, which stays there. -/
  mark_moves : (cursor.perform .mark).2.offsets =
    { cursor.offsets with startPosition := cursor.position, start := cursor.here }
  /-- Nothing else moves the checkpoint. -/
  keeps_mark : ∀ operation ≠ .mark,
    (cursor.perform operation).2.startPosition = cursor.startPosition ∧
      (cursor.perform operation).2.start = cursor.start

theorem getElem?_position (cursor : Cursor) :
    cursor.source[cursor.position]? = cursor.ahead.head? := by
  rw [← drop_position, List.head?_drop]

theorem answer_advance (cursor : Cursor) : (cursor.perform .advance).1 =
    match cursor.source[cursor.position]? with
    | some c => .character c
    | none => .refused .pastEnd := by
  rw [getElem?_position, perform]
  cases ahead : cursor.ahead with
  | nil =>
    rw [advance, ahead]
    rfl
  | cons c rest =>
    rw [advance_of_ahead ahead]
    rfl

/-- A NUL that is seen at the end of the text is not met there. -/
theorem answer_accept (cursor : Cursor) (expected : String) :
    (cursor.perform (.accept expected)).1 =
      .truth (cursor.source[cursor.position]?.any fun c => expected.toList = [c]) := by
  rw [getElem?_position, perform]
  cases ahead : cursor.ahead with
  | nil =>
    rw [accept_of_end ahead]
    rfl
  | cons c rest =>
    rw [accept_of_ahead ahead]
    by_cases equal : expected.toList = [c]
    · rw [if_pos equal]
      simp [equal]
    · rw [if_neg equal]
      simp [equal]

/-- **An operation that takes nothing leaves the cursor as it is**, unless it is the mark. -/
theorem perform_stays {operation : Operation} (other : operation ≠ .mark)
    (nothing : operation.taken (cursor.perform operation).1 = []) :
    (cursor.perform operation).2 = cursor := by
  have moves := cursor.perform_moves operation
  generalize cursor.perform operation = reply at moves nothing ⊢
  cases moves with
  | stays => rfl
  | takes _ _ one =>
    rw [one] at nothing
    cases nothing
  | marks => exact absurd rfl other

theorem perform_keeps_mark {operation : Operation} (other : operation ≠ .mark) :
    (cursor.perform operation).2.startPosition = cursor.startPosition ∧
      (cursor.perform operation).2.start = cursor.start := by
  have moves := cursor.perform_moves operation
  generalize cursor.perform operation = reply at moves ⊢
  cases moves with
  | stays | takes => exact ⟨rfl, rfl⟩
  | marks => exact absurd rfl other

theorem frames (cursor : Cursor) : cursor.Frames cursor.source where
  refused_iff := by
    have outside : cursor.source[cursor.position]? = none ↔
        cursor.position = cursor.source.length := by
      rw [List.getElem?_eq_none_iff, length_source]
      omega
    rw [answer_advance, ← outside]
    cases cursor.source[cursor.position]? <;> simp
  character_iff c := by
    rw [answer_advance]
    cases cursor.source[cursor.position]? <;> simp
  met_iff expected := by
    rw [answer_accept, Answer.truth.injEq, Option.any_eq_true]
    constructor
    · rintro ⟨c, found, equal⟩
      obtain ⟨inside, rfl⟩ := List.getElem?_eq_some_iff.mp found
      exact ⟨inside, of_decide_eq_true equal⟩
    · rintro ⟨inside, equal⟩
      exact ⟨_, List.getElem?_eq_getElem inside, decide_eq_true equal⟩
  missed expected := by
    rw [answer_accept]
    cases cursor.source[cursor.position]?.any fun c => decide (expected.toList = [c]) <;> simp
  refused_stays refused := perform_stays nofun (by rw [refused]; rfl)
  missed_stays expected missed := perform_stays nofun (by rw [missed]; rfl)
  look_stays operation member := by
    revert operation
    simp only [Operation.looks, List.forall_mem_cons]
    exact ⟨rfl, rfl, rfl, rfl, rfl, rfl, nofun⟩
  mark_moves := (mark_offsets cursor).symm
  keeps_mark _ other := perform_keeps_mark other

/-- **No text is skipped, none is taken twice, and what is refused changes nothing.** After any
operations the characters taken are the text in front of the cursor, and there each operation does
what it says. The answers, and the offsets after each operation, are those of a cursor that is kept
as offsets. -/
theorem performed_frames (source : String) (line : Int) (operations : List Operation) :
    let first := Cursor.ofText source.toList line
    let cursor := first.performed operations
    first.consumed operations = source.toList.take cursor.position ∧
      cursor.source = source.toList ∧
      cursor.Frames source.toList ∧
      (OffsetCursor.ofText source.toList line).performAll operations =
        (first.performAll operations).map fun reply => (reply.1, reply.2.offsets) := by
  intro first cursor
  have kept : cursor.source = source.toList := source_performed first operations
  have reached : cursor.behind = [] ++ first.consumed operations :=
    behind_performed first operations
  refine ⟨?_, kept, kept ▸ cursor.frames, performAll_offsets first operations⟩
  rw [← kept, take_position, reached, List.nil_append]

/-- A NUL is seen at the end as it is in the text, and is met in the text only. -/
example :
    ((Cursor.ofText ['\x00'] 1).performAll [.peek, .accept "\x00", .peek, .accept "\x00"]).map
        Prod.fst =
      [.character '\x00', .truth true, .character '\x00', .truth false] := by
  decide

end LoopLex.Cursor
