/-
**The first piece of a text**: a blank, a word with its meaning, or a flaw.

A word that is read has a kind and a value, unless it is an integer with too many digits. So a text
that is not empty starts with a blank, with a word that has a meaning, or with a flaw.

* `Shape.Reads` — a word that is read in front of a text;
* `Flaw` — the start of a text that is no piece, with its cause;
* `firstPiece` — every text starts in one of the three ways;
* `Shape.Reads.append` and `Flaw.append` — what a blank behind a text leaves as it is;
* `Shape.Reads.congr_head` — a word ends before any text that starts alike.
-/

import LoopLex.Proofs.Word.Reading

namespace LoopLex

open Unicode (isDigit isLetter)

/-! ### The meaning of a word -/

theorem isRun_of_digitRun {digits : List Char} (run : DigitRun digits) :
    Numeral.isRun digits = true := by
  obtain ⟨nonempty, inside⟩ := run
  unfold Numeral.isRun
  rw [List.all_eq_true.mpr inside, List.isEmpty_eq_false_iff.mpr nonempty]
  rfl

theorem integer_of_digitRun {digits : List Char} (run : DigitRun digits) :
    Numeral.integer digits =
      if Numeral.maxDigits < digits.length then .error (.tooLong digits.length)
      else .ok (Numeral.value digits) := by
  rw [Numeral.integer, isRun_of_digitRun run]
  rfl

theorem fraction_of_digitRuns {whole digits : List Char} (left : DigitRun whole)
    (right : DigitRun digits) :
    Numeral.fraction (whole ++ '.' :: digits) =
      .ok (.ofRatio (Numeral.value (whole ++ digits)) (Nat.pow 10 digits.length)) := by
  have dot : ('.' :: digits).head?.any isDigit = false := isDigit_of_mem_signs (by decide)
  rw [Numeral.fraction, takeWhile_append_of_apart left.2 dot, dropWhile_append_of_apart left.2 dot]
  simp only [isRun_of_digitRun left, isRun_of_digitRun right, Bool.and_self, if_true]

namespace Shape

/-- A word has a kind and a value, an integer only if it is not too long. -/
theorem Fits.exists_decode {shape : Shape} {word : List Char} (fits : shape.Fits word)
    (short : shape = .integer → word.length ≤ Numeral.maxDigits) :
    ∃ kind literal, shape.decode word = .ok (kind, literal) := by
  cases fits with
  | integer run =>
    have fewer : ¬ Numeral.maxDigits < word.length := Nat.not_lt.mpr (short rfl)
    refine ⟨.intLiteral, some (.int (Numeral.value word)), ?_⟩
    rw [decode, integer_of_digitRun run, if_neg fewer]
    rfl
  | @fraction whole digits left right =>
    refine ⟨.floatLiteral, some (.float (.ofRatio (Numeral.value (whole ++ digits))
      (Nat.pow 10 digits.length))), ?_⟩
    rw [decode, fraction_of_digitRuns left right]
    rfl
  | name start parts => exact ⟨_, _, rfl⟩
  | _ => exact ⟨_, _, rfl⟩

theorem decode_of_tooLong {digits : List Char} (run : DigitRun digits)
    (long : Numeral.maxDigits < digits.length) :
    integer.decode digits = .error (.tooLong digits.length) := by
  rw [decode, integer_of_digitRun run, if_pos long]
  rfl

theorem length_le_of_decode {digits : List Char} {value : Kind × Option Literal}
    (run : DigitRun digits) (decoded : integer.decode digits = .ok value) :
    digits.length ≤ Numeral.maxDigits := by
  apply Nat.le_of_not_lt
  intro long
  rw [decode_of_tooLong run long] at decoded
  cases decoded

theorem mem_of_lookup {α β : Type} [BEq α] [LawfulBEq α] {table : List (α × β)} {key : α}
    {value : β} (found : table.lookup key = some value) : (key, value) ∈ table := by
  obtain ⟨front, back, rfl, _⟩ := List.lookup_eq_some_iff.mp found
  exact List.mem_append_right front List.mem_cons_self

theorem decodeName_fst_ne (name : String) : (decodeName name).1 ≠ .endOfInput := by
  unfold decodeName
  split
  · simp
  · rename_i kind _ found
    have known : ∀ entry ∈ Vocabulary.logicalOperators, entry.2 ≠ Kind.endOfInput := by decide
    exact known _ (mem_of_lookup found)
  · have known : ∀ entry ∈ Vocabulary.keywords, entry.2 ≠ Kind.endOfInput := by decide
    cases found : Vocabulary.keywords.lookup name with
    | none => simp
    | some kind => exact known _ (mem_of_lookup found)

/-- What a number is decoded to is made of its value. -/
theorem exists_of_map_eq_ok {α β : Type} {value : Except Numeral.Refusal α} {make : α → β} {b : β}
    (decoded : value.map make = .ok b) : ∃ a, make a = b := by
  cases value with
  | error refusal => cases decoded
  | ok a => exact ⟨a, Except.ok.inj decoded⟩

/-- **No word means the end of input.** -/
theorem Fits.kind_ne_endOfInput {shape : Shape} {word : List Char} {kind : Kind}
    {literal : Option Literal} (fits : shape.Fits word)
    (decoded : shape.decode word = .ok (kind, literal)) : kind ≠ .endOfInput := by
  have singles : ∀ entry ∈ Vocabulary.singles, entry.2 ≠ Kind.endOfInput := by decide
  have suffixed : ∀ entry ∈ Vocabulary.equalsSuffix,
      entry.2.1 ≠ Kind.endOfInput ∧ entry.2.2 ≠ Kind.endOfInput := by
    decide
  cases fits with
  | single known =>
    cases decoded
    exact singles _ known
  | plain known =>
    cases decoded
    exact (suffixed _ known).1
  | withEquals known =>
    cases decoded
    exact (suffixed _ known).2
  | integer run =>
    rw [decode, integer_of_digitRun run] at decoded
    split at decoded
    · cases decoded
    · cases decoded
      simp
  | fraction left right =>
    rw [decode, fraction_of_digitRuns left right] at decoded
    cases decoded
    simp
  | name start parts =>
    have same : (decodeName _).1 = kind := congrArg Prod.fst (Except.ok.inj decoded)
    rw [← same]
    exact decodeName_fst_ne _
  | _ =>
    cases decoded
    simp

/-! ### Words and flaws in front of a text -/

/-- A word that is read in front of the text `rest`. -/
structure Reads (shape : Shape) (word rest : List Char) : Prop where
  fits : shape.Fits word
  ends : shape.EndsBefore rest
  /-- A number does not run into a letter. -/
  apart : shape.isNumber = true → rest.head?.any isLetter = false

theorem Reads.read {shape : Shape} {c : Char} {more rest : List Char}
    (reads : shape.Reads (c :: more) rest) : Head.read c (more ++ rest) = .word shape more := by
  rw [Head.read_of_fits reads.fits reads.ends]
  split
  · rename_i number
    rw [Head.closeNumber, if_neg]
    rw [reads.apart number]
    exact Bool.false_ne_true
  · rfl

end Shape

/-- A cause, the characters at the start of a text that are no piece because of it, and the text
behind them. -/
inductive Flaw : Cause → List Char → List Char → Prop where
  | stray {cause : Cause} {near rest : List Char} (stray : Stray cause near rest) :
    Flaw cause near rest
  | letter {shape : Shape} {near rest : List Char} (fits : shape.Fits near)
    (ends : shape.EndsBefore rest) (number : shape.isNumber = true)
    (led : rest.head?.any isLetter = true) : Flaw .letterAfterNumber near rest
  | tooLong {near rest : List Char} (run : DigitRun near) (reads : Shape.integer.Reads near rest)
    (long : Numeral.maxDigits < near.length) : Flaw (.tooManyDigits near.length) near rest

theorem Stray.ne_nil {cause : Cause} {near rest : List Char} (stray : Stray cause near rest) :
    near ≠ [] := by
  cases stray <;> simp

theorem Flaw.ne_nil {cause : Cause} {near rest : List Char} (flaw : Flaw cause near rest) :
    near ≠ [] := by
  cases flaw with
  | stray stray => exact stray.ne_nil
  | letter fits => exact fits.ne_nil
  | tooLong run => exact run.1

/-- What a text starts with. -/
inductive FirstPiece (text : List Char) : Prop where
  | blank {c : Char} {rest : List Char} (split : text = c :: rest)
    (blank : c ∈ Vocabulary.blanks)
  | word {shape : Shape} {word rest : List Char} {kind : Kind} {literal : Option Literal}
    (split : text = word ++ rest) (reads : shape.Reads word rest)
    (decoded : shape.decode word = .ok (kind, literal))
  | flaw {cause : Cause} {near rest : List Char} (split : text = near ++ rest)
    (flaw : Flaw cause near rest)

/-- **Every text that is not empty starts with a blank, a word with a meaning or a flaw.** -/
theorem firstPiece {text : List Char} (nonempty : text ≠ []) : FirstPiece text := by
  cases text with
  | nil => exact absurd rfl nonempty
  | cons c ahead =>
    cases opening c ahead with
    | blank blank => exact .blank rfl blank
    | stray split stray => exact .flaw (congrArg (c :: ·) split) (.stray stray)
    | @word shape more rest split fits ends =>
      by_cases letter : shape.isNumber = true ∧ rest.head?.any isLetter = true
      · exact .flaw (congrArg (c :: ·) split) (.letter fits ends letter.1 letter.2)
      · have reads : shape.Reads (c :: more) rest := ⟨fits, ends, fun number =>
          Bool.eq_false_iff.mpr fun led => letter ⟨number, led⟩⟩
        by_cases long : shape = .integer ∧ Numeral.maxDigits < (c :: more).length
        · obtain ⟨rfl, long⟩ := long
          have run : DigitRun (c :: more) := by
            cases fits with
            | integer run => exact run
          exact .flaw (congrArg (c :: ·) split) (.tooLong run reads long)
        · obtain ⟨kind, literal, decoded⟩ := fits.exists_decode fun integer =>
            Nat.le_of_not_lt fun more => long ⟨integer, more⟩
          exact .word (congrArg (c :: ·) split) reads decoded

/-! ### What a blank behind a text leaves as it is -/

/-- A text that is empty or starts with a blank. -/
def StartsBlank (text : List Char) : Prop := ∀ c ∈ text.head?, c ∈ Vocabulary.blanks

theorem StartsBlank.any_head? {tail : List Char} (blank : StartsBlank tail) {p : Char → Bool}
    (noBlank : ∀ c ∈ Vocabulary.blanks, p c = false) : tail.head?.any p = false := by
  cases tail with
  | nil => rfl
  | cons c tail => exact noBlank c (blank c rfl)

theorem isNamePart_of_blank : ∀ c ∈ Vocabulary.blanks, isNamePart c = false :=
  fun c blank => isNamePart_of_mem_signs c (mem_signs_of_blank blank)

theorem isDigit_of_blank : ∀ c ∈ Vocabulary.blanks, isDigit c = false :=
  fun _ blank => isDigit_of_mem_signs (mem_signs_of_blank blank)

theorem isLetter_of_blank : ∀ c ∈ Vocabulary.blanks, isLetter c = false :=
  fun _ blank => isLetter_of_mem_signs (mem_signs_of_blank blank)

/-- What no text may start with, a text with a blank behind it does not start with either. -/
theorem any_head?_append {p : Char → Bool} {rest tail : List Char}
    (apart : rest.head?.any p = false) (blank : StartsBlank tail)
    (noBlank : ∀ c ∈ Vocabulary.blanks, p c = false) : (rest ++ tail).head?.any p = false := by
  cases rest with
  | nil => exact blank.any_head? noBlank
  | cons c rest => exact apart

namespace Shape

theorem EndsBefore.append {shape : Shape} {rest tail : List Char} (ends : shape.EndsBefore rest)
    (blank : StartsBlank tail) : shape.EndsBefore (rest ++ tail) := by
  cases shape with
  | symbol kind =>
    intro suffixed led
    cases rest with
    | nil => exact absurd (blank '=' led) (by decide)
    | cons c rest => exact ends suffixed led
  | integer =>
    refine ⟨any_head?_append ends.1 blank isDigit_of_blank, ?_⟩
    intro more dot
    cases rest with
    | nil =>
      have led : tail.head? = some '.' := by rw [← List.nil_append tail, dot]; rfl
      exact absurd (blank '.' led) (by decide)
    | cons c rest =>
      obtain ⟨rfl, rfl⟩ := List.cons.inj dot
      exact any_head?_append (ends.2 rest rfl) blank isDigit_of_blank
  | fraction => exact any_head?_append ends blank isDigit_of_blank
  | name => exact any_head?_append ends blank isNamePart_of_blank
  | _ => trivial

/-- **A blank behind a text does not change its first word.** -/
theorem Reads.append {shape : Shape} {word rest tail : List Char} (reads : shape.Reads word rest)
    (blank : StartsBlank tail) : shape.Reads word (rest ++ tail) :=
  ⟨reads.fits, reads.ends.append blank, fun number =>
    any_head?_append (reads.apart number) blank isLetter_of_blank⟩

/-- A word is read in front of a text that starts like one it is read in front of, other than with
a dot. -/
theorem Reads.congr_head {shape : Shape} {word rest other : List Char}
    (reads : shape.Reads word rest) (same : other.head? = rest.head?)
    (noDot : other.head? ≠ some '.') : shape.Reads word other := by
  refine ⟨reads.fits, ?_, fun number => same ▸ reads.apart number⟩
  have ends := reads.ends
  cases shape with
  | symbol kind => exact fun suffixed => same ▸ ends suffixed
  | integer =>
    refine ⟨same ▸ ends.1, ?_⟩
    rintro more rfl
    exact absurd rfl noDot
  | fraction => exact (congrArg (Option.any isDigit) same).trans ends
  | name => exact (congrArg (Option.any isNamePart) same).trans ends
  | _ => trivial

/-- A word is read at the end of a text. -/
theorem Fits.reads_nil {shape : Shape} {word : List Char} (fits : shape.Fits word) :
    shape.Reads word [] :=
  ⟨fits, endsBefore_nil shape, fun _ => rfl⟩

/-- A word is read in front of a blank and at the end of a text. -/
theorem Fits.reads_of_blank {shape : Shape} {word rest : List Char} (fits : shape.Fits word)
    (blank : StartsBlank rest) : shape.Reads word rest :=
  fits.reads_nil.append blank

/-- No word starts with a dot, which only a number can hold. -/
theorem Fits.head_ne_dot {shape : Shape} {c : Char} {more : List Char}
    (fits : shape.Fits (c :: more)) : c ≠ '.' := by
  rintro rfl
  cases fits.reads_nil.read

end Shape

/-- **A blank behind a text does not change a flaw in it**, unless the flaw is an open string or
character literal, which reaches over blanks. -/
theorem Flaw.append {cause : Cause} {near rest tail : List Char} (flaw : Flaw cause near rest)
    (noString : cause ≠ .openString) (noChar : cause ≠ .openChar) (blank : StartsBlank tail) :
    Flaw cause near (rest ++ tail) := by
  cases flaw with
  | stray stray =>
    refine .stray ?_
    cases stray with
    | bang alone =>
      apply Stray.bang
      intro led
      cases rest with
      | nil => exact absurd (blank '=' led) (by decide)
      | cons c rest => exact alone led
    | character unknown noPart => exact .character unknown noPart
    | string => exact absurd rfl noString
    | charAtEnd => exact absurd rfl noChar
    | charBeforeNul => exact absurd rfl noChar
    | char => exact absurd rfl noChar
  | letter fits ends number led =>
    refine .letter fits (ends.append blank) number ?_
    cases rest with
    | nil => cases led
    | cons c rest => exact led
  | tooLong run reads long => exact .tooLong run (reads.append blank) long

end LoopLex
