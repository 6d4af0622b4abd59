/-
**The characters of words**: digits, letters and signs are apart.

A digit is no letter, whatever its script, and none of the characters that a rule looks for by name
can be part of a name. So the first character of a word tells its rule.

* `isLetter_of_isDigit` — no digit is a letter;
* `isNamePart_of_mem_signs` — no sign is part of a name;
* `read_of_not_mem_openers` — what is no opener starts a number, a name or nothing.
-/

import LoopLex.Word.Head

namespace LoopLex

open Unicode (isDigit isLetter digitZeros letterRanges digitValueFrom inRanges)

/-! ### Digits and letters -/

/-- A digit lies among the ten code points from the zero of its script. -/
theorem mem_of_digitValueFrom {zeros : List Nat} {n value : Nat}
    (found : digitValueFrom zeros n = some value) :
    ∃ first ∈ zeros, first ≤ n ∧ n < first + 10 := by
  induction zeros with
  | nil => cases found
  | cons first zeros ih =>
    unfold digitValueFrom at found
    split at found
    · cases found
    · split at found
      · exact ⟨first, List.mem_cons_self, by omega, by omega⟩
      · obtain ⟨other, member, within⟩ := ih found
        exact ⟨other, List.mem_cons_of_mem _ member, within⟩

theorem mem_of_inRanges {ranges : List (Nat × Nat)} {n : Nat} (found : inRanges ranges n = true) :
    ∃ range ∈ ranges, range.1 ≤ n ∧ n ≤ range.2 := by
  induction ranges with
  | nil => cases found
  | cons range ranges ih =>
    unfold inRanges at found
    split at found
    · cases found
    · rcases Bool.or_eq_true _ _ ▸ found with within | later
      · exact ⟨range, List.mem_cons_self, by omega, of_decide_eq_true within⟩
      · obtain ⟨other, member, inside⟩ := ih later
        exact ⟨other, List.mem_cons_of_mem _ member, inside⟩

/-- The digits of no script meet a range of letters. -/
theorem digitZeros_apart :
    ∀ first ∈ digitZeros, ∀ range ∈ letterRanges, range.2 < first ∨ first + 10 ≤ range.1 := by
  have compared : (digitZeros.all fun first => letterRanges.all fun range =>
      Nat.blt range.2 first || Nat.ble (first + 10) range.1) = true := by
    decide +kernel
  simpa [List.all_eq_true, Nat.blt_eq] using compared

/-- **No digit is a letter.** -/
theorem isLetter_of_isDigit {c : Char} (digit : isDigit c = true) : isLetter c = false := by
  obtain ⟨value, found⟩ := Option.isSome_iff_exists.mp digit
  obtain ⟨first, known, low, high⟩ := mem_of_digitValueFrom found
  apply Bool.eq_false_iff.mpr
  intro letter
  obtain ⟨range, member, above, below⟩ := mem_of_inRanges letter
  rcases digitZeros_apart first known range member with left | right <;> omega

/-! ### Signs -/

/-- The characters that start a blank, a word or an open word and are part of no name. -/
def openers : List Char :=
  Vocabulary.singles.map (·.1) ++ Vocabulary.equalsSuffix.map (·.1) ++ Vocabulary.blanks ++
    ['!', '"', '\'']

/-- The characters that a rule looks for by name. -/
def signs : List Char := openers ++ ['.', '\x00']

/-- **No sign is part of a name**, so none is a digit or a letter. -/
theorem isNamePart_of_mem_signs (c : Char) (sign : c ∈ signs) : isNamePart c = false := by
  have none : (signs.all fun c => !isNamePart c) = true := by decide
  exact Bool.not_eq_eq_eq_not.mp (List.all_eq_true.mp none c sign)

theorem not_mem_openers_of_isNamePart {c : Char} (part : isNamePart c = true) : c ∉ openers := by
  intro opener
  rw [isNamePart_of_mem_signs c (List.mem_append_left _ opener)] at part
  cases part

theorem isDigit_of_mem_signs {c : Char} (sign : c ∈ signs) : isDigit c = false := by
  have part := isNamePart_of_mem_signs c sign
  simp only [isNamePart, Bool.or_eq_false_iff] at part
  exact part.2

theorem isLetter_of_mem_signs {c : Char} (sign : c ∈ signs) : isLetter c = false := by
  have part := isNamePart_of_mem_signs c sign
  simp only [isNamePart, isNameStart, Bool.or_eq_false_iff] at part
  exact part.1.1

theorem mem_signs_of_blank {c : Char} (blank : c ∈ Vocabulary.blanks) : c ∈ signs :=
  List.mem_append_left _ (List.mem_append_left _ (List.mem_append_right _ blank))

theorem isNameStart_of_isDigit {c : Char} (digit : isDigit c = true) : isNameStart c = false := by
  simp only [isNameStart, Bool.or_eq_false_iff]
  refine ⟨isLetter_of_isDigit digit, decide_eq_false ?_⟩
  rintro rfl
  exact absurd digit (by decide)

/-! ### The rule of a first character -/

namespace Head

theorem read_eq_readOther {c : Char} (ahead : List Char)
    (single : c ∉ Vocabulary.singles.map (·.1))
    (suffixed : c ∉ Vocabulary.equalsSuffix.map (·.1)) : read c ahead = readOther c ahead := by
  have noSingle : Vocabulary.singles.lookup c = none := by
    rw [List.lookup_eq_none_iff]
    intro entry member
    simp only [bne_iff_ne, ne_eq]
    rintro rfl
    exact single (List.mem_map_of_mem member)
  have noSuffixed : Vocabulary.equalsSuffix.lookup c = none := by
    rw [List.lookup_eq_none_iff]
    intro entry member
    simp only [bne_iff_ne, ne_eq]
    rintro rfl
    exact suffixed (List.mem_map_of_mem member)
  unfold read
  rw [noSingle, noSuffixed]

/-- What is no opener starts a number or a name, or nothing. -/
theorem read_of_not_mem_openers {c : Char} (ahead : List Char) (unknown : c ∉ openers) :
    read c ahead =
      if isDigit c then readNumber ahead
      else if isNameStart c then .word .name (ahead.takeWhile isNamePart)
      else .flaw .strayCharacter [] := by
  have other : ∀ opener ∈ openers, c ≠ opener := fun opener member equal =>
    unknown (equal ▸ member)
  simp only [openers, List.mem_append, not_or] at unknown
  rw [read_eq_readOther ahead unknown.1.1.1 unknown.1.1.2]
  unfold readOther
  rw [if_neg (other '!' (by decide)), if_neg unknown.1.2, if_neg (other '"' (by decide)),
    if_neg (other '\'' (by decide))]

end Head

end LoopLex
