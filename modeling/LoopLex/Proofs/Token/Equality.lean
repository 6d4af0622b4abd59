/-
**Equality of tokens.** Tokens are equal if all their fields are, and literals are compared by their
values. So it is an equivalence, and of tokens of scans it is the identity.

A number has a value among the rational numbers and the two infinities, whether it is an integer, a
floating-point number or a truth value. Nothing is rounded in a comparison, so numbers are equal if
their values are the same, and two of them that are equal to a third are equal. The result that is
no number has no value.

A word has one shape, and the shape tells its kind and its value. So the lexemes of tokens of scans
tell their literals, and nothing is left for a literal to add.

* `Literal.number?` — the value of a number;
* `Literal.SameValue` — no literal on both sides, the same text, or numbers of the same value;
* `Literal.equals_iff_sameValue` — the comparison of literals is exact;
* `Token.Scanned.literal_eq` — the lexeme of a token of a scan tells its literal;
* `Token.equals_sound` — the comparison of tokens.
-/

import LoopLex.Proofs.Scan.Floats

namespace LoopLex

/-! ### The values of numbers -/

/-- The value of a number: a rational number or an infinity. -/
inductive Number where
  | rational (value : ℚ)
  | infinite (negative : Bool)

/-- The value of a floating-point number. -/
def Binary64.number? : Binary64 → Option Number
  | nan => none
  | infinite negative => some (.infinite negative)
  | finite negative significand unit =>
    some (.rational ((if negative then -1 else 1) * (significand * step unit)))

namespace Literal

/-- The value of a number of any type, truth values among them. -/
def number? : Literal → Option Number
  | int value => some (.rational value)
  | float value => value.number?
  | bool value => some (.rational (if value then 1 else 0))
  | text _ => none

/-- There is no literal on either side, or the same text, or numbers of the same value. -/
inductive SameValue : Option Literal → Option Literal → Prop where
  | absent : SameValue none none
  | number {first second : Literal} {value : Number} (left : first.number? = some value)
    (right : second.number? = some value) : SameValue (some first) (some second)
  | text (value : String) : SameValue (some (text value)) (some (text value))

/-! ### Numbers are compared exactly -/

/-- The value of a number that is compared. -/
def Comparand.number? : Comparand → Option Number
  | number scaled => some (.rational (scaled / Binary64.unitsInOne))
  | infinite negative => some (.infinite negative)
  | text _ => none

theorem Comparand.eq_of_number?_eq {first second : Comparand} {value : Number}
    (left : first.number? = some value) (right : second.number? = some value) :
    first = second := by
  have units : (Binary64.unitsInOne : ℚ) ≠ 0 := Binary64.unitsInOne_pos.ne'
  have same := left.trans right.symm
  cases first with
  | number scaled =>
    cases second with
    | number scaled' =>
      have quotients := Number.rational.inj (Option.some.inj same)
      rw [div_left_inj' units, Int.cast_inj] at quotients
      rw [quotients]
    | infinite => cases same
    | text => cases same
  | infinite negative =>
    cases second with
    | infinite negative' => rw [Number.infinite.inj (Option.some.inj same)]
    | _ => cases same
  | text value => cases left

theorem number?_float (value : Binary64) :
    value.number? = (comparandOfNumber value).bind Comparand.number? := by
  cases value with
  | nan => rfl
  | infinite negative => rfl
  | finite negative significand unit =>
    have magnitude := Binary64.magnitude_div_unitsInOne significand unit
    cases negative with
    | false =>
      show some (Number.rational (1 * _)) = some (Number.rational _)
      rw [one_mul, Int.cast_natCast, magnitude]
    | true =>
      show some (Number.rational (-1 * _)) = some (Number.rational _)
      rw [neg_one_mul, Int.cast_neg, Int.cast_natCast, neg_div, magnitude]

/-- **The comparand of a literal has the value of the literal.** -/
theorem number?_eq (literal : Literal) :
    literal.number? = literal.comparand?.bind Comparand.number? := by
  have units : (Binary64.unitsInOne : ℚ) ≠ 0 := Binary64.unitsInOne_pos.ne'
  cases literal with
  | int value =>
    show some (Number.rational _) = some (Number.rational _)
    rw [Int.cast_mul, Int.cast_natCast, mul_div_cancel_right₀ _ units]
  | float value => exact number?_float value
  | bool value =>
    cases value with
    | false =>
      show some (Number.rational 0) = some (Number.rational ((0 : Int) / Binary64.unitsInOne))
      rw [Int.cast_zero, zero_div]
    | true =>
      show some (Number.rational 1) =
        some (Number.rational ((Binary64.unitsInOne : Int) / Binary64.unitsInOne))
      rw [Int.cast_natCast, div_self units]
  | text value => rfl

theorem equals_iff_exists (first second : Literal) :
    first.equals second = true ↔
      ∃ comparand, first.comparand? = some comparand ∧ second.comparand? = some comparand := by
  unfold equals
  cases first.comparand? <;> cases second.comparand? <;> simp [eq_comm]

/-- Only a text is compared as a text. -/
theorem eq_text_of_comparand? {literal : Literal} {value : String}
    (compared : literal.comparand? = some (.text value)) : literal = text value := by
  cases literal with
  | text other => rw [Comparand.text.inj (Option.some.inj compared)]
  | float number => cases number <;> simp [comparand?, comparandOfNumber] at compared
  | _ => cases compared

/-- **Literals are equal if they have the same value**, and nothing is rounded for it. -/
theorem equals_iff_sameValue (first second : Literal) :
    first.equals second = true ↔ SameValue (some first) (some second) := by
  rw [equals_iff_exists]
  constructor
  · rintro ⟨comparand, left, right⟩
    cases value : comparand.number? with
    | some number =>
      have firstValue : first.number? = some number := by
        rw [number?_eq, left]
        exact value
      have secondValue : second.number? = some number := by
        rw [number?_eq, right]
        exact value
      exact .number firstValue secondValue
    | none =>
      cases comparand with
      | text value =>
        rw [eq_text_of_comparand? left, eq_text_of_comparand? right]
        exact .text _
      | _ => cases value
  · intro same
    cases same with
    | text value => exact ⟨_, rfl, rfl⟩
    | number left right =>
      rw [number?_eq] at left right
      obtain ⟨comparand, compared, value⟩ := Option.bind_eq_some_iff.mp left
      obtain ⟨comparand', compared', value'⟩ := Option.bind_eq_some_iff.mp right
      obtain rfl := Comparand.eq_of_number?_eq value value'
      exact ⟨comparand, compared, compared'⟩

/-! ### Having the same value is an equivalence -/

namespace SameValue

variable {first second third : Option Literal}

/-- Everything but the result that is no number has the same value as itself. -/
theorem refl {literal : Option Literal} (comparable : literal ≠ some (.float .nan)) :
    SameValue literal literal := by
  cases literal with
  | none => exact .absent
  | some literal =>
    cases literal with
    | text value => exact .text value
    | int value => exact .number rfl rfl
    | bool value => exact .number rfl rfl
    | float value =>
      cases value with
      | nan => exact absurd rfl comparable
      | infinite negative => exact .number rfl rfl
      | finite negative significand unit => exact .number rfl rfl

theorem symm (same : SameValue first second) : SameValue second first := by
  cases same with
  | absent => exact .absent
  | number left right => exact .number right left
  | text value => exact .text value

theorem trans (left : SameValue first second) (right : SameValue second third) :
    SameValue first third := by
  cases left with
  | absent => exact right
  | text value => exact right
  | number value known =>
    cases right with
    | number known' value' =>
      obtain rfl := Option.some.inj (known.symm.trans known')
      exact .number value value'
    | text => cases known

end SameValue

end Literal

/-! ### Tokens -/

attribute [ext] Token

namespace Token

variable {first second : Token}

theorem equals_iff (first second : Token) :
    first.equals second = true ↔
      first.kind = second.kind ∧ first.lexeme = second.lexeme ∧
        Literal.SameValue first.literal second.literal ∧ first.line = second.line ∧
        first.columnStart = second.columnStart ∧ first.columnEnd = second.columnEnd := by
  have absent (literal : Literal) : ¬ Literal.SameValue none (some literal) := nofun
  have missing (literal : Literal) : ¬ Literal.SameValue (some literal) none := nofun
  obtain ⟨kind, lexeme, literal, line, columnStart, columnEnd⟩ := first
  obtain ⟨kind', lexeme', literal', line', columnStart', columnEnd'⟩ := second
  cases literal with
  | none =>
    cases literal' with
    | none => simp [equals, Literal.SameValue.absent, and_assoc]
    | some value => simp [equals, absent]
  | some value =>
    cases literal' with
    | none => simp [equals, missing]
    | some value' => simp [equals, Literal.equals_iff_sameValue, and_assoc]

/-! ### Equality is an equivalence -/

theorem equals_refl {token : Token} (comparable : token.literal ≠ some (.float .nan)) :
    token.equals token = true :=
  (equals_iff token token).mpr ⟨rfl, rfl, .refl comparable, rfl, rfl, rfl⟩

theorem equals_symm (same : first.equals second = true) : second.equals first = true := by
  obtain ⟨kinds, lexemes, values, lines, starts, stops⟩ := (equals_iff first second).mp same
  exact (equals_iff second first).mpr
    ⟨kinds.symm, lexemes.symm, values.symm, lines.symm, starts.symm, stops.symm⟩

theorem equals_trans {third : Token} (left : first.equals second = true)
    (right : second.equals third = true) : first.equals third = true := by
  obtain ⟨kinds, lexemes, values, lines, starts, stops⟩ := (equals_iff first second).mp left
  obtain ⟨kinds', lexemes', values', lines', starts', stops'⟩ :=
    (equals_iff second third).mp right
  exact (equals_iff first third).mpr ⟨kinds.trans kinds', lexemes.trans lexemes',
    values.trans values', lines.trans lines', starts.trans starts', stops.trans stops'⟩

/-! ### Tokens of scans -/

/-- A word has one shape, and so one kind and one value. -/
theorem IsWord.kind_and_literal_eq (left : first.IsWord) (right : second.IsWord)
    (same : first.lexeme = second.lexeme) :
    first.kind = second.kind ∧ first.literal = second.literal := by
  cases left with
  | word place fits decoded =>
    cases right with
    | word place' fits' decoded' =>
      obtain rfl := String.ofList_injective same
      obtain rfl := fits.unique fits'
      exact Prod.mk.inj (Except.ok.inj (decoded.symm.trans decoded'))

/-- **The lexeme of a token of a scan tells its literal.** -/
theorem Scanned.literal_eq (left : first.Scanned) (right : second.Scanned)
    (sameKind : first.kind = second.kind) (same : first.lexeme = second.lexeme) :
    first.literal = second.literal := by
  rcases left.isWord_or_endOfInput with isWord | ⟨place, rfl⟩
  · have isWord' := right.isWord fun atEnd =>
      isWord.kind_ne_endOfInput (sameKind.trans atEnd)
    exact (isWord.kind_and_literal_eq isWord' same).2
  · rcases right.isWord_or_endOfInput with isWord' | ⟨place', rfl⟩
    · exact absurd sameKind.symm isWord'.kind_ne_endOfInput
    · rfl

/-- No word stands for the result that is no number. -/
theorem Scanned.literal_ne_nan {token : Token} (scanned : token.Scanned) :
    token.literal ≠ some (.float .nan) := by
  intro literal
  have isValue := scanned.wellFormed.value _ literal
  generalize known : token.kind = kind at isValue
  cases isValue with
  | float =>
    obtain ⟨q, x, -, value, rounds⟩ := scanned.exists_roundsTo known
    rw [literal] at value
    cases value
    cases rounds

/-- Tokens of scans are equal if all but their literals agree. -/
theorem Scanned.equals_iff (left : first.Scanned) (right : second.Scanned) :
    first.equals second = true ↔
      first.kind = second.kind ∧ first.lexeme = second.lexeme ∧ first.line = second.line ∧
        first.columnStart = second.columnStart ∧ first.columnEnd = second.columnEnd := by
  rw [Token.equals_iff]
  constructor
  · rintro ⟨kinds, lexemes, -, places⟩
    exact ⟨kinds, lexemes, places⟩
  · rintro ⟨kinds, lexemes, places⟩
    have same : Literal.SameValue first.literal second.literal := by
      rw [← left.literal_eq right kinds lexemes]
      exact .refl left.literal_ne_nan
    exact ⟨kinds, lexemes, same, places⟩

/-- **Tokens of scans are equal if they are the same.** -/
theorem Scanned.equals_iff_eq (left : first.Scanned) (right : second.Scanned) :
    first.equals second = true ↔ first = second := by
  rw [left.equals_iff right]
  constructor
  · rintro ⟨kinds, lexemes, lines, starts, stops⟩
    exact Token.ext kinds lexemes (left.literal_eq right kinds lexemes) lines starts stops
  · rintro rfl
    exact ⟨rfl, rfl, rfl, rfl, rfl⟩

/-- **Equality of tokens is sound.** It is an equivalence on all tokens, reflexive unless the
literal is the result that is no number. It asks for the same kind, lexeme, line and columns, and
for literals of the same value, numbers of all types being compared exactly. In tokens of scans the
literals add nothing, and equal ones are the same. -/
theorem equals_sound :
    (∀ token : Token, token.literal ≠ some (.float .nan) → token.equals token = true) ∧
    (∀ first second : Token, first.equals second = true → second.equals first = true) ∧
    (∀ first second third : Token, first.equals second = true → second.equals third = true →
      first.equals third = true) ∧
    (∀ first second : Token, first.equals second = true ↔
      first.kind = second.kind ∧ first.lexeme = second.lexeme ∧
        Literal.SameValue first.literal second.literal ∧ first.line = second.line ∧
        first.columnStart = second.columnStart ∧ first.columnEnd = second.columnEnd) ∧
    ∀ first second : Token, first.Scanned → second.Scanned →
      (first.equals second = true ↔
        first.kind = second.kind ∧ first.lexeme = second.lexeme ∧ first.line = second.line ∧
          first.columnStart = second.columnStart ∧ first.columnEnd = second.columnEnd) ∧
      (first.equals second = true ↔ first = second) := by
  exact ⟨fun _ => equals_refl, fun _ _ => equals_symm, fun _ _ _ => equals_trans, equals_iff,
    fun _ _ left right => ⟨left.equals_iff right, left.equals_iff_eq right⟩⟩

/-- The truth value 1 and both numbers 1 are equal, and `2 ^ 53 + 1` is not equal to the
floating-point number next to it. In tokens of scans no two digits are equal. -/
theorem equals_sound_across_types :
    ∃ truth int float large rounded latin arabic : Token,
      truth.literal = some (.bool true) ∧ int.literal = some (.int 1) ∧
      float.literal = some (.float (.finite false (2 ^ 52) 1022)) ∧
      int.literal ≠ some (.float .nan) ∧ int.equals int = true ∧
      truth.equals int = true ∧ int.equals float = true ∧ truth.equals float = true ∧
      float.equals truth = true ∧
      large.literal = some (.int (2 ^ 53 + 1)) ∧
      rounded.literal = some (.float (.finite false (2 ^ 52) 1075)) ∧
      large.equals rounded = false ∧
      latin.Scanned ∧ arabic.Scanned ∧ latin.literal = arabic.literal ∧
      latin.columnEnd = arabic.columnEnd ∧ latin.equals arabic = false := by
  obtain ⟨reflexive, symmetric, transitive, -, scanned⟩ := equals_sound
  have latin : scan "7" {} = .ok
      { tokens := [⟨.intLiteral, "7", some (.int 7), 1, 1, 1⟩, .endOfInput ⟨1, 2⟩] } := by
    decide +kernel
  have arabic : scan "\u0667" {} = .ok
      { tokens := [⟨.intLiteral, "\u0667", some (.int 7), 1, 1, 1⟩, .endOfInput ⟨1, 2⟩] } := by
    decide +kernel
  let withValue (value : Literal) : Token := ⟨.intLiteral, "1", some value, 1, 1, 1⟩
  have truthInt : (withValue (.bool true)).equals (withValue (.int 1)) = true := by
    decide +kernel
  have intFloat : (withValue (.int 1)).equals
      (withValue (.float (.finite false (2 ^ 52) 1022))) = true := by decide +kernel
  have truthFloat := transitive _ _ _ truthInt intFloat
  have latinScanned : Token.Scanned ⟨.intLiteral, "7", some (.int 7), 1, 1, 1⟩ :=
    ⟨_, _, _, latin, List.mem_cons_self⟩
  have arabicScanned : Token.Scanned ⟨.intLiteral, "\u0667", some (.int 7), 1, 1, 1⟩ :=
    ⟨_, _, _, arabic, List.mem_cons_self⟩
  refine ⟨withValue (.bool true), withValue (.int 1),
    withValue (.float (.finite false (2 ^ 52) 1022)), withValue (.int (2 ^ 53 + 1)),
    withValue (.float (.finite false (2 ^ 52) 1075)), _, _, rfl, rfl, rfl, nofun,
    reflexive _ nofun, truthInt, intFloat, truthFloat, symmetric _ _ truthFloat, rfl, rfl,
    by decide +kernel, latinScanned, arabicScanned, rfl, rfl, ?_⟩
  rw [Bool.eq_false_iff, ne_eq, (scanned _ _ latinScanned arabicScanned).1]
  rintro ⟨-, lexemes, -⟩
  exact absurd lexemes (by decide)

end Token

end LoopLex
