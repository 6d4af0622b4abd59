/-
**Quoted text reads back.** No two texts are quoted alike, and what stands behind a quoted text is
never taken for a part of it.

A quote that ends a text is not the start of any character in it, for a quote in the text stands
behind a backslash. The character behind a backslash tells how many hexadecimal digits follow.

* `unescape` — the first character of a text that is written between quotes;
* `unescape_escape` — a character that is written is read as itself, whatever follows;
* `encode_append_inj` — a quoted text, with anything behind it.
-/

import LoopLex.Text.Quoted
import Mathlib.Algebra.Ring.Nat

namespace LoopLex.Quoted

theorem toList_quoted (text : String) : (quoted text).toList = encode text.toList :=
  String.toList_ofList

/-! ### Hexadecimal digits -/

/-- The value of a hexadecimal digit. -/
def hexValue (c : Char) : Nat := if c.isDigit then c.toNat - 48 else c.toNat - 87

/-- The number that hexadecimal digits denote. -/
def hexCode (digits : List Char) : Nat := digits.foldl (fun n c => 16 * n + hexValue c) 0

theorem hexValue_digitChar : ∀ d < 16, hexValue (Nat.digitChar d) = d := by decide

theorem length_hexDigits (width n : Nat) : (hexDigits width n).length = width := by
  induction width generalizing n with
  | zero => rfl
  | succ width ih => simp [hexDigits, ih]

/-- **The last digits of a number denote what is left of it.** -/
theorem hexCode_hexDigits (width n : Nat) : hexCode (hexDigits width n) = n % 16 ^ width := by
  induction width generalizing n with
  | zero => simp [hexDigits, hexCode, Nat.mod_one]
  | succ width ih =>
    have front := ih (n / 16)
    unfold hexCode at front
    have last : hexValue (Nat.digitChar (n % 16)) = n % 16 :=
      hexValue_digitChar _ (Nat.mod_lt n (by decide))
    rw [hexDigits, hexCode, List.foldl_append, front, List.foldl_cons, List.foldl_nil, last,
      Nat.pow_succ', Nat.mod_mul, Nat.add_comm]

/-! ### Characters between quotes -/

/-- The character that `width` hexadecimal digits stand for, and what is left. -/
def readCode (width : Nat) (text : List Char) : Char × List Char :=
  (.ofNat (hexCode (text.take width)), text.drop width)

/-- The first character of a text that is written between quotes, and what is left. -/
def unescape : List Char → Option (Char × List Char)
  | '\\' :: 'n' :: rest => some ('\n', rest)
  | '\\' :: 'r' :: rest => some ('\r', rest)
  | '\\' :: 't' :: rest => some ('\t', rest)
  | '\\' :: 'x' :: rest => some (readCode 2 rest)
  | '\\' :: 'u' :: rest => some (readCode 4 rest)
  | '\\' :: 'U' :: rest => some (readCode 8 rest)
  | '\\' :: c :: rest => some (c, rest)
  | c :: rest => some (c, rest)
  | [] => none

theorem readCode_hexDigits {width : Nat} {c : Char} (fits : c.toNat < 16 ^ width)
    (rest : List Char) : readCode width (hexDigits width c.toNat ++ rest) = (c, rest) := by
  have length := length_hexDigits width c.toNat
  rw [readCode, List.take_left' length, List.drop_left' length, hexCode_hexDigits,
    Nat.mod_eq_of_lt fits, Char.ofNat_toNat]

/-- The widths are enough for every code point. -/
theorem unescape_codePoint (c : Char) (rest : List Char) :
    unescape (codePoint c ++ rest) = some (c, rest) := by
  unfold codePoint
  by_cases two : c.toNat < 0x100
  · rw [if_pos two]
    exact congrArg some (readCode_hexDigits two rest)
  · by_cases four : c.toNat < 0x10000
    · rw [if_neg two, if_pos four]
      exact congrArg some (readCode_hexDigits four rest)
    · have eight : c.toNat < 16 ^ 8 := Nat.lt_of_lt_of_le c.val.toNat_lt (by decide)
      rw [if_neg two, if_neg four]
      exact congrArg some (readCode_hexDigits eight rest)

theorem unescape_of_ne {c : Char} (other : c ≠ '\\') (rest : List Char) :
    unescape (c :: rest) = some (c, rest) := by
  unfold unescape
  split <;> simp_all

theorem quoteFor_eq_or (text : List Char) : quoteFor text = '\'' ∨ quoteFor text = '"' := by
  unfold quoteFor
  split
  · exact .inr rfl
  · exact .inl rfl

section Quote

variable {quote : Char} (known : quote = '\'' ∨ quote = '"')
include known

/-- **A character that is written is read as itself**, whatever follows. -/
theorem unescape_escape (c : Char) (rest : List Char) :
    unescape (escape quote c ++ rest) = some (c, rest) := by
  unfold escape
  by_cases marked : c = '\\' ∨ c = quote
  · rw [if_pos marked]
    rcases marked with rfl | rfl
    · rfl
    · rcases known with rfl | rfl <;> rfl
  by_cases newline : c = '\n'
  · subst newline
    rw [if_neg marked]
    rfl
  by_cases back : c = '\r'
  · subst back
    rw [if_neg marked]
    rfl
  by_cases tab : c = '\t'
  · subst tab
    rw [if_neg marked]
    rfl
  rw [if_neg marked, if_neg newline, if_neg back, if_neg tab]
  by_cases visible : Unicode.isPrintable c = true
  · rw [if_pos visible]
    exact unescape_of_ne (fun same => marked (.inl same)) rest
  · rw [if_neg visible]
    exact unescape_codePoint c rest

/-- A quote of its own ends the text. -/
theorem cons_quote_ne_escape_append (c : Char) (rest tail : List Char) :
    quote :: rest ≠ escape quote c ++ tail := by
  intro same
  have apart : quote ≠ '\\' := by rcases known with rfl | rfl <;> decide
  have read := unescape_escape known c tail
  rw [← same, unescape_of_ne apart] at read
  cases read
  have marked : escape quote quote = ['\\', quote] := if_pos (.inr rfl)
  rw [marked] at same
  exact apart (List.cons.inj same).1

/-- **Written characters up to a quote are those of one text only.** -/
theorem flatMap_escape_inj {first second rest tail : List Char}
    (same : first.flatMap (escape quote) ++ quote :: rest =
      second.flatMap (escape quote) ++ quote :: tail) :
    first = second ∧ rest = tail := by
  induction first generalizing second with
  | nil =>
    cases second with
    | nil => exact ⟨rfl, (List.cons.inj same).2⟩
    | cons d second =>
      rw [List.flatMap_cons, List.append_assoc] at same
      exact absurd same (cons_quote_ne_escape_append known _ _ _)
  | cons c first ih =>
    cases second with
    | nil =>
      rw [List.flatMap_cons, List.append_assoc] at same
      exact absurd same.symm (cons_quote_ne_escape_append known _ _ _)
    | cons d second =>
      have read := congrArg unescape same
      rw [List.flatMap_cons, List.flatMap_cons, List.append_assoc, List.append_assoc,
        unescape_escape known, unescape_escape known] at read
      obtain ⟨rfl, later⟩ := Prod.mk.inj (Option.some.inj read)
      obtain ⟨rfl, behind⟩ := ih later
      exact ⟨rfl, behind⟩

end Quote

theorem encode_append (text rest : List Char) :
    encode text ++ rest =
      quoteFor text :: (text.flatMap (escape (quoteFor text)) ++ quoteFor text :: rest) := by
  simp [encode]

/-- **A quoted text is told from what stands behind it.** -/
theorem encode_append_inj {first second rest tail : List Char}
    (same : encode first ++ rest = encode second ++ tail) : first = second ∧ rest = tail := by
  rw [encode_append, encode_append] at same
  obtain ⟨quotes, inside⟩ := List.cons.inj same
  rw [← quotes] at inside
  exact flatMap_escape_inj (quoteFor_eq_or first) inside

end LoopLex.Quoted
