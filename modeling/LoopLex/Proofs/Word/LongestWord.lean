/-
**The longest word that a text starts with**, and the pieces that it cuts the text into.

A word is the longest one at the start of a text exactly when it ends before the rest of the text,
as its shape tells. No text can be cut in two ways.

* `Shape.Fits.unique` — a word has one shape;
* `longestWord_append_iff` — the longest word ends before the rest;
* `Pieces.unique` — a text has one cutting.
-/

import LoopLex.Proofs.Word.Reading

namespace LoopLex

open Unicode (isDigit isLetter)

/-! ### Words do not start longer words that they end before -/

theorem any_head?_of_append {p : Char → Bool} {front rest : List Char}
    (apart : (front ++ rest).head?.any p = false) : front.head?.any p = false := by
  cases front with
  | nil => rfl
  | cons c front => exact apart

theorem DigitRun.concat {digits : List Char} {d : Char} (run : DigitRun digits)
    (digit : isDigit d = true) : DigitRun (digits ++ [d]) := by
  refine ⟨by simp, ?_⟩
  intro c member
  rcases List.mem_append.mp member with inside | last
  · exact run.2 c inside
  · rw [List.mem_singleton.mp last]
    exact digit

theorem exists_cons_of_any_head? {p : Char → Bool} {rest : List Char}
    (led : rest.head?.any p = true) : ∃ c more, rest = c :: more ∧ p c = true := by
  cases rest with
  | nil => cases led
  | cons c more => exact ⟨c, more, rfl, led⟩

namespace Shape

/-- A word that ends before a text ends before every start of it. -/
theorem EndsBefore.of_append {shape : Shape} {front rest : List Char}
    (ends : shape.EndsBefore (front ++ rest)) : shape.EndsBefore front := by
  cases shape with
  | symbol kind =>
    intro suffixed led
    refine ends suffixed ?_
    rw [List.head?_append, led]
    rfl
  | integer =>
    refine ⟨any_head?_of_append ends.1, ?_⟩
    rintro more rfl
    exact any_head?_of_append (ends.2 (more ++ rest) rfl)
  | fraction => exact any_head?_of_append ends
  | name => exact any_head?_of_append ends
  | _ => trivial

/-- A word alone is read whole. -/
theorem Fits.read_alone {shape : Shape} {c : Char} {more : List Char}
    (fits : shape.Fits (c :: more)) : Head.read c more = .word shape more := by
  have whole := Head.read_of_fits fits (endsBefore_nil shape)
  rw [List.append_nil] at whole
  rw [whole, Head.closeNumber]
  cases shape.isNumber <;> rfl

/-- **A word has one shape.** -/
theorem Fits.unique {shape other : Shape} {word : List Char} (first : shape.Fits word)
    (second : other.Fits word) : shape = other := by
  obtain ⟨c, more, rfl⟩ := first.exists_cons
  have same := first.read_alone.symm.trans second.read_alone
  cases same
  rfl

/-- A word that ends before a text starts no longer word there, because the longer one would be read
whole. -/
theorem Fits.not_fits_append {shape other : Shape} {word more : List Char}
    (fits : shape.Fits word) (ends : shape.EndsBefore more) (nonempty : more ≠ []) :
    ¬ other.Fits (word ++ more) := by
  intro longer
  obtain ⟨c, tail, rfl⟩ := fits.exists_cons
  have whole : Head.read c (tail ++ more) = .word other (tail ++ more) := longer.read_alone
  rw [Head.read_of_fits fits ends, Head.closeNumber] at whole
  have longerTail : tail = tail ++ more := by
    split at whole
    · split at whole
      · cases whole
      · exact (Head.word.inj whole).2
    · exact (Head.word.inj whole).2
  exact nonempty (List.self_eq_append_right.mp longerTail)

/-- A word that does not end before a text starts a longer word there. -/
theorem Fits.exists_longer {shape : Shape} {word rest : List Char} (fits : shape.Fits word)
    (goesOn : ¬ shape.EndsBefore rest) :
    ∃ more, more ≠ [] ∧ more <+: rest ∧ Word (word ++ more) := by
  cases fits with
  | single known => exact absurd (endsBefore_of_single known rest) goesOn
  | @plain c kind withEquals known =>
    have led : rest.head? = some '=' := Classical.not_not.mp fun apart => goesOn fun _ => apart
    obtain ⟨rest, rfl⟩ := List.head?_eq_some_iff.mp led
    exact ⟨['='], by simp, ⟨rest, rfl⟩, word_iff_fits.mpr ⟨_, .withEquals known⟩⟩
  | withEquals known => exact absurd (endsBefore_of_withEquals known rest) goesOn
  | notEqual => exact absurd (endsBefore_notEqual rest) goesOn
  | string unquoted => exact absurd trivial goesOn
  | char c => exact absurd trivial goesOn
  | integer run =>
    by_cases led : rest.head?.any isDigit = true
    · obtain ⟨d, rest, rfl, digit⟩ := exists_cons_of_any_head? led
      exact ⟨[d], by simp, ⟨rest, rfl⟩, .integer (run.concat digit)⟩
    · have dotted : ∃ more, rest = '.' :: more ∧ more.head?.any isDigit = true :=
        Classical.not_not.mp fun none => goesOn ⟨Bool.eq_false_iff.mpr led, fun more dot =>
          Bool.eq_false_iff.mpr fun ledMore => none ⟨more, dot, ledMore⟩⟩
      obtain ⟨more, rfl, ledMore⟩ := dotted
      obtain ⟨d, rest, rfl, digit⟩ := exists_cons_of_any_head? ledMore
      refine ⟨['.', d], by simp, ⟨rest, rfl⟩, .fraction run ⟨by simp, fun c member => ?_⟩⟩
      rw [List.mem_singleton.mp member]
      exact digit
  | @fraction whole digits left right =>
    obtain ⟨d, rest, rfl, digit⟩ :=
      exists_cons_of_any_head? (Bool.ne_false_iff.mp goesOn)
    refine ⟨[d], by simp, ⟨rest, rfl⟩, ?_⟩
    rw [List.append_assoc, List.cons_append]
    exact .fraction left (right.concat digit)
  | @name first parts start inside =>
    obtain ⟨d, rest, rfl, part⟩ := exists_cons_of_any_head? (Bool.ne_false_iff.mp goesOn)
    refine ⟨[d], by simp, ⟨rest, rfl⟩, .name start ?_⟩
    intro c member
    rcases List.mem_append.mp member with front | last
    · exact inside c front
    · rw [List.mem_singleton.mp last]
      exact part

end Shape

/-! ### The longest word -/

/-- **A word is the longest at the start of a text if it ends before the rest.** -/
theorem longestWord_append_iff {word rest : List Char} :
    LongestWord (word ++ rest) word ↔ ∃ shape, Shape.Fits shape word ∧ shape.EndsBefore rest := by
  constructor
  · intro longest
    obtain ⟨shape, fits⟩ := Shape.word_iff_fits.mp longest.isWord
    refine ⟨shape, fits, Classical.not_not.mp ?_⟩
    intro goesOn
    obtain ⟨more, nonempty, leads, isWord⟩ := fits.exists_longer goesOn
    have shorter := longest.longest _ isWord ((List.prefix_append_right_inj word).mpr leads)
    rw [List.length_append] at shorter
    have positive := List.length_pos_iff.mpr nonempty
    omega
  · rintro ⟨shape, fits, ends⟩
    refine ⟨Shape.word_iff_fits.mpr ⟨shape, fits⟩, List.prefix_append word rest,
      fun other isWord leads => Nat.le_of_not_lt fun longer => ?_⟩
    obtain ⟨more, rfl⟩ :=
      List.prefix_of_prefix_length_le (List.prefix_append word rest) leads (Nat.le_of_lt longer)
    obtain ⟨after, rfl⟩ := (List.prefix_append_right_inj word).mp leads
    obtain ⟨shape', fits'⟩ := Shape.word_iff_fits.mp isWord
    refine fits.not_fits_append ends.of_append ?_ fits'
    rintro rfl
    simp at longer

theorem LongestWord.unique {text word other : List Char} (first : LongestWord text word)
    (second : LongestWord text other) : word = other :=
  (List.prefix_of_prefix_length_le first.leads second.leads
    (second.longest word first.isWord first.leads)).eq_of_length_le
      (first.longest other second.isWord second.leads)

theorem Shape.Fits.not_blank {shape : Shape} {c : Char} {more : List Char}
    (fits : shape.Fits (c :: more)) : c ∉ Vocabulary.blanks := by
  intro blank
  have read := fits.read_alone
  rw [Head.read_of_blank more blank] at read
  cases read

theorem LongestWord.not_blank {c : Char} {text word : List Char}
    (longest : LongestWord (c :: text) word) : c ∉ Vocabulary.blanks := by
  obtain ⟨shape, fits⟩ := Shape.word_iff_fits.mp longest.isWord
  obtain ⟨d, word, rfl⟩ := fits.exists_cons
  rw [← (List.cons_prefix_cons.mp longest.leads).1]
  exact fits.not_blank

/-- **A text has one cutting into pieces.** -/
theorem Pieces.unique {text : List Char} {pieces others : List Piece} (first : Pieces text pieces)
    (second : Pieces text others) : pieces = others := by
  induction first generalizing others with
  | nil =>
    generalize equal : [] = text at second
    cases second with
    | nil => rfl
    | blank => cases equal
    | word longest =>
      obtain ⟨shape, fits⟩ := Shape.word_iff_fits.mp longest.isWord
      exact absurd (List.append_eq_nil_iff.mp equal.symm).1 fits.ne_nil
  | @blank c text pieces blank _ ih =>
    generalize equal : c :: text = whole at second
    cases second with
    | nil => cases equal
    | blank _ rest =>
      cases equal
      rw [ih rest]
    | word longest => exact absurd blank (equal ▸ longest).not_blank
  | @word word text pieces longest _ _ _ ih =>
    generalize equal : word ++ text = whole at second
    cases second with
    | nil =>
      obtain ⟨shape, fits⟩ := Shape.word_iff_fits.mp longest.isWord
      exact absurd (List.append_eq_nil_iff.mp equal).1 fits.ne_nil
    | blank blank => exact absurd blank (equal ▸ longest).not_blank
    | word other _ _ rest =>
      obtain rfl := longest.unique (equal ▸ other)
      rw [List.append_cancel_left equal] at ih
      rw [ih rest]

end LoopLex
