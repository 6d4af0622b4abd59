/-
**A walk takes what a text starts with.** Its tests look at one or two characters each, and together
they read the text as a whole is read.

No class of characters holds NUL, so a loop that goes on while it sees a character of a class stops
at the end of the text. Inside of quotes every character may stand, and there the loop asks for the
end.

* `Cursor.advanceWhile_eq` — a loop over a class takes the longest run of it and never fails;
* `found` — what a walk finds that takes the characters of a head;
* `walk_eq` — this is what a walk finds that goes character by character;
* `exists_moves_of_walk` — a walk moves along the text, by one character at least;
* `step_eq_walk` — a step of a scan is a walk, and what is made of its finding.
-/

import LoopLex.Proofs.Scan.Step
import LoopLex.Scan.Walk
import Mathlib.Data.List.TakeWhile

namespace LoopLex

open Unicode (isDigit isLetter)

/-! ### Loops of a cursor -/

namespace Cursor

variable {cursor : Cursor} {p : Char → Bool} {rest : List Char}

/-- **A class without NUL holds no character that is seen past the end.** -/
theorem peek_of_class (noNul : p '\x00' = false) (cursor : Cursor) :
    p cursor.peek = cursor.ahead.head?.any p := by
  unfold peek
  cases cursor.ahead with
  | nil => exact noNul
  | cons c ahead => rfl

theorem peekNext_of_class (noNul : p '\x00' = false) (cursor : Cursor) :
    p cursor.peekNext = cursor.ahead.tail.head?.any p := by
  unfold peekNext
  cases cursor.ahead.tail with
  | nil => exact noNul
  | cons c ahead => rfl

/-- A NUL is seen past the end too, so a loop over all characters but the quote asks for the end. -/
theorem peek_ne_quote (cursor : Cursor) :
    (decide (cursor.peek ≠ '"') && !cursor.atEnd) = cursor.ahead.head?.any (· ≠ '"') := by
  unfold peek atEnd
  cases cursor.ahead with
  | nil => rfl
  | cons c ahead => exact Bool.and_true _

/-- **A loop over a class takes the longest run of it**, and takes no character past the end. -/
theorem advanceWhile_eq {going : Cursor → Bool}
    (sees : ∀ cursor, going cursor = cursor.ahead.head?.any p) (cursor : Cursor) :
    cursor.advanceWhile going =
      .ok (cursor.past (cursor.ahead.takeWhile p) (cursor.ahead.dropWhile p)) := by
  generalize equal : cursor.ahead = ahead
  induction ahead generalizing cursor with
  | nil =>
    rw [advanceWhile, if_neg (by simp [sees, equal]), List.takeWhile_nil, List.dropWhile_nil,
      past_nil equal]
  | cons c ahead ih =>
    by_cases inside : p c = true
    · rw [List.takeWhile_cons_of_pos inside, List.dropWhile_cons_of_pos inside, advanceWhile,
        if_pos (by simp [sees, equal, inside])]
      split
      · rename_i misuse moved
        rw [advance_of_ahead equal] at moved
        cases moved
      · rename_i next moved
        rw [advance_of_ahead equal] at moved
        cases moved
        rw [ih _ rfl, past_past]
        rfl
    · rw [List.takeWhile_cons_of_neg inside, List.dropWhile_cons_of_neg inside, advanceWhile,
        if_neg (by simp [sees, equal, inside]), past_nil equal]

theorem advanceWhile_isDigit (cursor : Cursor) :
    cursor.advanceWhile (fun cursor => isDigit cursor.peek) =
      .ok (cursor.past (cursor.ahead.takeWhile isDigit) (cursor.ahead.dropWhile isDigit)) :=
  advanceWhile_eq (peek_of_class (isDigit_of_mem_signs (by decide))) cursor

theorem advanceWhile_isNamePart (cursor : Cursor) :
    cursor.advanceWhile (fun cursor => isNamePart cursor.peek) =
      .ok (cursor.past (cursor.ahead.takeWhile isNamePart) (cursor.ahead.dropWhile isNamePart)) :=
  advanceWhile_eq (peek_of_class (isNamePart_of_mem_signs _ (by decide))) cursor

/-- A dot with a digit behind it is seen only where both are in the text. -/
theorem dot_and_digit_iff (cursor : Cursor) :
    (decide (cursor.peek = '.') && isDigit cursor.peekNext) = true ↔
      ∃ rest, cursor.ahead = '.' :: rest ∧ rest.head?.any isDigit = true := by
  rw [peekNext_of_class (isDigit_of_mem_signs (by decide)), Bool.and_eq_true, decide_eq_true_iff,
    peek]
  cases cursor.ahead with
  | nil => simp
  | cons c rest => simp [and_assoc]

theorem takeIf_of_ahead {expected : Char} (ahead : cursor.ahead = expected :: rest) :
    cursor.takeIf expected = .ok (true, cursor.past [expected] rest) := by
  unfold takeIf
  rw [if_neg (by simp [atEnd, peek, ahead]), advance_of_ahead ahead]
  rfl

theorem takeIf_of_head_ne {expected : Char} (apart : cursor.ahead.head? ≠ some expected) :
    cursor.takeIf expected = .ok (false, cursor) := by
  unfold takeIf
  cases ahead : cursor.ahead with
  | nil =>
    rw [if_pos (by simp [atEnd, ahead])]
    rfl
  | cons c rest =>
    have other : c ≠ expected := by
      rintro rfl
      exact apart (congrArg List.head? ahead)
    rw [if_pos (by simp [peek, ahead, other])]
    rfl

end Cursor

namespace Scan

variable {cursor : Cursor} {shape : Shape} {cause : Cause} {more rest : List Char}

/-- What a walk finds that takes the characters of a head, its first character being taken. -/
def found (cursor : Cursor) : Head → Except Misuse (Finding × Cursor)
  | .blank => .ok (.blank, cursor)
  | .word shape more => do return (.word shape, ← cursor.advanceBy more.length)
  | .flaw cause more => do return (.flaw cause, ← cursor.advanceBy more.length)

theorem found_word (ahead : cursor.ahead = more ++ rest) :
    found cursor (.word shape more) = .ok (.word shape, cursor.past more rest) := by
  rw [found, Cursor.advanceBy_of_ahead ahead]
  rfl

theorem found_flaw (ahead : cursor.ahead = more ++ rest) :
    found cursor (.flaw cause more) = .ok (.flaw cause, cursor.past more rest) := by
  rw [found, Cursor.advanceBy_of_ahead ahead]
  rfl

/-! ### The rules -/

theorem bind_of_ok {α β : Type} {operation : Except Misuse α} {a : α}
    (done : operation = .ok a) (next : α → Except Misuse β) : (operation >>= next) = next a := by
  rw [done]
  rfl

theorem walkString_eq (cursor : Cursor) :
    walkString cursor = found cursor (Head.readString cursor.ahead) := by
  unfold walkString
  rw [bind_of_ok (Cursor.advanceWhile_eq Cursor.peek_ne_quote cursor)]
  by_cases closed : '"' ∈ cursor.ahead
  · obtain ⟨inner, rest, ahead, unquoted⟩ := List.eq_append_cons_of_mem closed
    have inside := ne_quote_of_not_mem unquoted
    have split : cursor.ahead = (inner ++ ['"']) ++ rest := by simp [ahead]
    have quote : (cursor.past inner ('"' :: rest)).advance =
        .ok ('"', cursor.past (inner ++ ['"']) rest) := by
      rw [Cursor.advance_of_ahead rfl, Cursor.past_past]
    have read : Head.readString cursor.ahead = .word .string (inner ++ ['"']) := by
      rw [split, Head.readString_append unquoted]
    rw [read, found_word split, ahead, takeWhile_append_of_apart inside rfl,
      dropWhile_append_of_apart inside rfl, bind_of_ok quote]
    rfl
  · have inside := ne_quote_of_not_mem closed
    rw [Head.readString_of_not_mem closed, found_flaw (List.append_nil _).symm,
      List.takeWhile_eq_self_iff.mpr inside, List.dropWhile_eq_nil_iff.mpr inside]
    rfl

theorem walkChar_eq (cursor : Cursor) :
    walkChar cursor = found cursor (Head.readChar cursor.ahead) := by
  unfold walkChar Cursor.atEnd Cursor.peekNext
  match ahead : cursor.ahead with
  | [] | [_] =>
    rw [Head.readChar, found_flaw (List.nil_append _).symm, Cursor.past_nil rfl]
    rfl
  | c :: next :: rest =>
    have first : cursor.advance = .ok (c, cursor.past [c] (next :: rest)) :=
      Cursor.advance_of_ahead ahead
    have second : (cursor.past [c] (next :: rest)).advance =
        .ok (next, cursor.past [c, next] rest) := by
      rw [Cursor.advance_of_ahead rfl, Cursor.past_past]
      rfl
    rw [Head.readChar]
    by_cases nul : next = '\x00'
    · rw [if_pos nul, if_pos (by simp [nul]), found_flaw (List.nil_append _).symm,
        Cursor.past_nil rfl]
      rfl
    · rw [if_neg nul, if_neg (by simp [nul]), bind_of_ok first]
      by_cases quote : next = '\''
      · have seen : ¬ (cursor.past [c] (next :: rest)).peek ≠ '\'' := not_not_intro quote
        have split : cursor.ahead = [c, next] ++ rest := ahead
        simp only [if_pos quote, if_neg seen, bind_of_ok second, found_word split]
        rfl
      · have seen : (cursor.past [c] (next :: rest)).peek ≠ '\'' := quote
        have split : cursor.ahead = [c] ++ next :: rest := ahead
        simp only [if_neg quote, if_pos seen, found_flaw split]
        rfl

/-- A number ends where no letter is seen. -/
theorem endOfNumber_eq (cursor : Cursor) (ahead : cursor.ahead = more ++ rest) :
    .ok (endOfNumber shape (cursor.past more rest)) =
      found cursor (Head.closeNumber shape more rest) := by
  have letter : isLetter (cursor.past more rest).peek = rest.head?.any isLetter :=
    Cursor.peek_of_class (isLetter_of_mem_signs (by decide)) _
  unfold endOfNumber Head.closeNumber
  rw [letter]
  by_cases led : rest.head?.any isLetter = true
  · rw [if_pos led, if_pos led, found_flaw ahead]
  · rw [if_neg led, if_neg led, found_word ahead]

/-- The dot of a fraction and the digits behind it are taken. -/
theorem advance_over_fraction (cursor : Cursor) (more rest : List Char) :
    (do
      let (_, dot) ← (cursor.past more ('.' :: rest)).advance
      dot.advanceWhile fun cursor => isDigit cursor.peek) =
      .ok (cursor.past (more ++ '.' :: rest.takeWhile isDigit) (rest.dropWhile isDigit)) := by
  rw [bind_of_ok (Cursor.advance_of_ahead rfl), Cursor.past_past]
  dsimp only
  rw [Cursor.advanceWhile_isDigit, Cursor.past_past, List.append_assoc]
  rfl

theorem walkNumber_eq (cursor : Cursor) :
    walkNumber cursor = found cursor (Head.readNumber cursor.ahead) := by
  have split : cursor.ahead =
      cursor.ahead.takeWhile isDigit ++ cursor.ahead.dropWhile isDigit :=
    List.takeWhile_append_dropWhile.symm
  have whole : ∀ c ∈ cursor.ahead.takeWhile isDigit, isDigit c = true := of_mem_takeWhile
  have apart := head?_dropWhile_any isDigit cursor.ahead
  unfold walkNumber
  rw [bind_of_ok (Cursor.advanceWhile_isDigit cursor)]
  generalize cursor.ahead.takeWhile isDigit = more at *
  generalize cursor.ahead.dropWhile isDigit = behind at *
  by_cases dotted : ∃ rest, behind = '.' :: rest ∧ rest.head?.any isDigit = true
  · rw [if_pos ((Cursor.dot_and_digit_iff _).mpr dotted)]
    obtain ⟨rest, rfl, led⟩ := dotted
    have reach : cursor.ahead =
        (more ++ '.' :: rest.takeWhile isDigit) ++ rest.dropWhile isDigit := by
      rw [split, List.append_assoc, List.cons_append, List.takeWhile_append_dropWhile]
    have read : Head.readNumber cursor.ahead =
        Head.closeNumber .fraction (more ++ '.' :: rest.takeWhile isDigit)
          (rest.dropWhile isDigit) := by
      rw [reach, Head.readNumber_fraction whole (digitRun_takeWhile led) (head?_dropWhile_any _ _)]
    rw [read, ← endOfNumber_eq cursor reach]
    exact bind_of_ok (advance_over_fraction cursor more rest) fun last =>
      pure (endOfNumber .fraction last)
  · have ends : Shape.integer.EndsBefore behind :=
      ⟨apart, fun rest equal => Bool.eq_false_iff.mpr fun led => dotted ⟨rest, equal, led⟩⟩
    have read : Head.readNumber cursor.ahead = Head.closeNumber .integer more behind := by
      rw [split, Head.readNumber_integer whole ends]
    rw [if_neg (mt (Cursor.dot_and_digit_iff _).mp dotted), read, ← endOfNumber_eq cursor split]
    rfl

theorem walkName_eq (cursor : Cursor) :
    walkName cursor = found cursor (.word .name (cursor.ahead.takeWhile isNamePart)) := by
  unfold walkName
  rw [Cursor.advanceWhile_isNamePart, found_word List.takeWhile_append_dropWhile.symm]
  rfl

/-- An operator takes a `=` behind it, if there is one. -/
theorem walkEquals_eq (plain withEquals : Kind) (cursor : Cursor) :
    (do
      let (taken, last) ← cursor.takeIf '='
      return (.word (.symbol (if taken then withEquals else plain)), last)) =
      found cursor (Head.readEquals plain withEquals cursor.ahead) := by
  unfold Head.readEquals
  by_cases led : cursor.ahead.head? = some '='
  · obtain ⟨rest, ahead⟩ := List.head?_eq_some_iff.mp led
    rw [if_pos led, bind_of_ok (Cursor.takeIf_of_ahead ahead), found_word ahead]
    rfl
  · rw [if_neg led, bind_of_ok (Cursor.takeIf_of_head_ne led)]
    rfl

theorem walkOther_eq (c : Char) (cursor : Cursor) :
    walkOther c cursor = found cursor (Head.readOther c cursor.ahead) := by
  unfold walkOther Head.readOther
  by_cases bang : c = '!'
  · rw [if_pos bang, if_pos bang]
    by_cases led : cursor.ahead.head? = some '='
    · obtain ⟨rest, ahead⟩ := List.head?_eq_some_iff.mp led
      rw [if_pos led, bind_of_ok (Cursor.takeIf_of_ahead ahead), found_word ahead]
      rfl
    · rw [if_neg led, bind_of_ok (Cursor.takeIf_of_head_ne led)]
      rfl
  · rw [if_neg bang, if_neg bang]
    split_ifs
    · rfl
    · exact walkString_eq cursor
    · exact walkChar_eq cursor
    · exact walkNumber_eq cursor
    · exact walkName_eq cursor
    · rfl

/-! ### Whole pieces -/

/-- **A walk takes what the text ahead starts with.** -/
theorem walk_eq (cursor : Cursor) :
    walk cursor = (do
      let (c, next) ← cursor.advance
      found next (Head.read c next.ahead)) := by
  unfold walk Head.read
  congr
  funext ⟨c, next⟩
  dsimp only
  cases Vocabulary.singles.lookup c with
  | some kind => rfl
  | none =>
    cases Vocabulary.equalsSuffix.lookup c with
    | some kinds => exact walkEquals_eq kinds.1 kinds.2 next
    | none => exact walkOther_eq c next

/-- A walk takes a character, and moves along the text with every one that it takes. -/
theorem exists_moves_of_walk {cursor last : Cursor} {finding : Finding}
    (walked : walk cursor = .ok (finding, last)) :
    ∃ c next n, cursor.advance = .ok (c, next) ∧ next.advanceBy n = .ok last := by
  rw [walk_eq] at walked
  cases moved : cursor.advance with
  | error misuse =>
    rw [moved] at walked
    cases walked
  | ok taken =>
    obtain ⟨c, next⟩ := taken
    rw [bind_of_ok moved] at walked
    dsimp only at walked
    cases head : Head.read c next.ahead with
    | blank =>
      rw [head] at walked
      cases walked
      exact ⟨c, last, 0, rfl, rfl⟩
    | word shape more | flaw cause more =>
      rw [head, found] at walked
      cases reached : next.advanceBy more.length with
      | error misuse =>
        rw [reached] at walked
        cases walked
      | ok last' =>
        rw [reached] at walked
        cases walked
        exact ⟨c, next, more.length, rfl, reached⟩

/-- **A step of a scan is a walk, and what is made of its finding.** -/
theorem step_eq_walk (options : Options) (cursor : Cursor) :
    step options cursor = (do settle options (← .attempt (walk cursor))) := by
  rw [walk_eq]
  unfold step
  cases cursor.advance with
  | error misuse => rfl
  | ok taken =>
    obtain ⟨c, next⟩ := taken
    rw [attempt_ok_bind rfl, bind_of_ok rfl]
    dsimp only
    cases Head.read c next.ahead with
    | blank => rfl
    | word shape more | flaw cause more =>
      dsimp only [found]
      cases next.advanceBy more.length with
      | error misuse => rfl
      | ok last => rfl

end Scan

end LoopLex
