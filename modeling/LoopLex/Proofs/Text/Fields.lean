/-
**Fields of a text.** A text that is put together of fields is taken apart again, if each field ends
where a character follows that it cannot go on with.

A field of one class of characters ends at the first other character. A field without a separator
can also be the last one, behind a text that has separators itself. An integer is a field of digits
with a sign in front, and goes on with digits only.

* `append_inj_of_apart` — a field of a class of characters, in front of anything else;
* `append_cons_inj_of_not_mem` — a last field, behind its separator;
* `toString_append_inj` — an integer, in front of anything but a digit.
-/

import LoopLex.Proofs.Number.Numeral

namespace LoopLex

open Unicode (isDigit)

/-! ### Fields and separators -/

/-- **A field ends where the next character is not of its class.** -/
theorem append_inj_of_apart {p : Char → Bool} {field other rest tail : List Char}
    (inside : ∀ c ∈ field, p c = true) (insideOther : ∀ c ∈ other, p c = true)
    (apart : rest.head?.any p = false) (apartOther : tail.head?.any p = false)
    (same : field ++ rest = other ++ tail) : field = other ∧ rest = tail := by
  have cut : field = other := by
    have front := congrArg (List.takeWhile p) same
    rwa [takeWhile_append_of_apart inside apart,
      takeWhile_append_of_apart insideOther apartOther] at front
  subst cut
  exact ⟨rfl, List.append_cancel_left same⟩

/-- A separator ends a field, whatever stands behind it. -/
theorem separator_apart {p : Char → Bool} {separator : List Char} (some : separator ≠ [])
    (apart : separator.head?.any p = false) (rest : List Char) :
    (separator ++ rest).head?.any p = false := by
  rwa [List.head?_append_of_ne_nil _ some]

/-- **A last field stands behind the last separator**, whatever the text in front of it holds. -/
theorem append_cons_inj_of_not_mem {c : Char} {text other field tail : List Char}
    (unmarked : c ∉ field) (unmarkedOther : c ∉ tail)
    (same : text ++ c :: field = other ++ c :: tail) : text = other ∧ field = tail := by
  have inside {field : List Char} (unmarked : c ∉ field) :
      ∀ d ∈ field.reverse, decide (d ≠ c) = true := by
    intro d member
    exact decide_eq_true fun equal => unmarked (equal ▸ List.mem_reverse.mp member)
  have backwards : field.reverse ++ c :: text.reverse = tail.reverse ++ c :: other.reverse := by
    simpa using congrArg List.reverse same
  obtain ⟨fields, texts⟩ := append_inj_of_apart (inside unmarked) (inside unmarkedOther)
    (by simp) (by simp) backwards
  exact ⟨List.reverse_inj.mp (List.cons.inj texts).2, List.reverse_inj.mp fields⟩

/-! ### Integers -/

/-- A sign in front of the digits of a number that is negative. -/
theorem toList_toString (n : Int) :
    (toString n).toList = (if n < 0 then ['-'] else []) ++ Nat.toDigits 10 n.natAbs := by
  cases n with
  | ofNat n =>
    show n.repr.toList = _
    rw [Nat.toList_repr]
    rfl
  | negSucc n =>
    show ("-" ++ (n + 1).repr).toList = _
    rw [String.toList_append, Nat.toList_repr, if_pos (Int.negSucc_lt_zero n)]
    rfl

/-- An integer as text holds nothing but digits and a sign. -/
theorem not_mem_toString {c : Char} (noSign : c ≠ '-') (noDigit : c.isDigit = false) (n : Int) :
    c ∉ (toString n).toList := by
  intro member
  rw [toList_toString] at member
  rcases List.mem_append.mp member with sign | digit
  · split at sign
    · exact noSign (List.mem_singleton.mp sign)
    · cases sign
  · have isDigit := Nat.isDigit_of_mem_toDigits (by decide) (by decide) digit
    rw [noDigit] at isDigit
    cases isDigit

/-- The digits of a number do not start with a sign. -/
theorem cons_sign_ne_toDigits_append (n : Nat) (rest tail : List Char) :
    '-' :: tail ≠ Nat.toDigits 10 n ++ rest := by
  intro same
  obtain ⟨c, more, digits⟩ := List.exists_cons_of_ne_nil (Nat.toDigits_ne_nil (n := n) (b := 10))
  have digit : c.isDigit = true :=
    Nat.isDigit_of_mem_toDigits (by decide) (by decide) (digits ▸ List.mem_cons_self)
  rw [digits] at same
  rw [← (List.cons.inj same).1] at digit
  cases digit

theorem toDigits_append_inj {m n : Nat} {rest tail : List Char}
    (apart : rest.head?.any isDigit = false) (apartOther : tail.head?.any isDigit = false)
    (same : Nat.toDigits 10 m ++ rest = Nat.toDigits 10 n ++ tail) : m = n ∧ rest = tail := by
  obtain ⟨digits, behind⟩ := append_inj_of_apart (Numeral.digitRun_toDigits m).2
    (Numeral.digitRun_toDigits n).2 apart apartOther same
  refine ⟨?_, behind⟩
  rw [← Numeral.value_toDigits m, digits, Numeral.value_toDigits]

/-- **An integer as text is told from what stands behind it**, unless that starts with a digit. -/
theorem toString_append_inj {m n : Int} {rest tail : List Char}
    (apart : rest.head?.any isDigit = false) (apartOther : tail.head?.any isDigit = false)
    (same : (toString m).toList ++ rest = (toString n).toList ++ tail) :
    m = n ∧ rest = tail := by
  rw [toList_toString, toList_toString, List.append_assoc, List.append_assoc] at same
  by_cases left : m < 0 <;> by_cases right : n < 0
  · simp only [left, right, if_true] at same
    obtain ⟨values, behind⟩ := toDigits_append_inj apart apartOther (List.cons.inj same).2
    exact ⟨by omega, behind⟩
  · simp only [left, right, if_true, if_false] at same
    exact absurd same (cons_sign_ne_toDigits_append _ _ _)
  · simp only [left, right, if_true, if_false] at same
    exact absurd same.symm (cons_sign_ne_toDigits_append _ _ _)
  · simp only [left, right, if_false] at same
    obtain ⟨values, behind⟩ := toDigits_append_inj apart apartOther same
    exact ⟨by omega, behind⟩

end LoopLex
