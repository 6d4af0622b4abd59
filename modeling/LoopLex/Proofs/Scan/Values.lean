/-
**The values of literals.** A value is scanned back from the literal that spells it, and literals
have no other values.

A text between double quotes, a character between single quotes and a row of decimal digits are
words by themselves, and the meaning of each is what it spells. In the other direction, the kind of
a token tells the shape of its word, so its value is that of a word of the shape.

* `Meaning.of_stringLiteral`, `Meaning.of_charLiteral`, `Meaning.of_intLiteral` and
  `Meaning.of_floatLiteral` — the words of each kind of literal;
* `Token.Scanned` — the tokens of scans, each of which has the meaning of a word;
* `ScansTo` and `HasValue` — a source that is one literal, and the values of a kind of token;
* `scan_encoded_values` — the literals of texts, characters and numbers, and the values of tokens.
-/

import LoopLex.Proofs.Number.Numeral
import LoopLex.Proofs.Scan.Lexemes
import LoopLex.Proofs.Scan.WellFormed
import LoopLex.Scan.Spacing

namespace LoopLex

/-! ### The words of each kind of literal -/

namespace Meaning

variable {shape : Shape} {word : List Char} {kind : Kind} {literal : Option Literal}

/-- The words of a kind of literal are not among the operators, keywords and separators. -/
theorem kind_ne_of_literalKinds {other : Kind} (isLiteral : other ∈ Vocabulary.literalKinds) :
    other ∉ Shape.symbolKinds ∧ other ∉ Vocabulary.keywordKinds := by
  have symbols : ∀ kind ∈ Vocabulary.literalKinds, kind ∉ Shape.symbolKinds := by decide
  exact ⟨symbols other isLiteral, Vocabulary.literalKinds_apart other isLiteral⟩

theorem of_stringLiteral (meaning : Meaning shape word .stringLiteral literal) :
    ∃ inner, '"' ∉ inner ∧ word = '"' :: inner ++ ['"'] ∧
      literal = some (.text (.ofList inner)) := by
  obtain ⟨noSymbol, noKeyword⟩ :=
    kind_ne_of_literalKinds (by decide : Kind.stringLiteral ∈ Vocabulary.literalKinds)
  cases meaning with
  | symbol known => exact absurd known noSymbol
  | string unquoted => exact ⟨_, unquoted, rfl, rfl⟩
  | reserved known => exact absurd (Vocabulary.keywordKinds_of_reserved known) noKeyword

theorem of_charLiteral (meaning : Meaning shape word .charLiteral literal) :
    ∃ c, word = ['\'', c, '\''] ∧ literal = some (.text (.ofList [c])) := by
  obtain ⟨noSymbol, noKeyword⟩ :=
    kind_ne_of_literalKinds (by decide : Kind.charLiteral ∈ Vocabulary.literalKinds)
  cases meaning with
  | symbol known => exact absurd known noSymbol
  | char c => exact ⟨c, rfl, rfl⟩
  | reserved known => exact absurd (Vocabulary.keywordKinds_of_reserved known) noKeyword

theorem of_intLiteral (meaning : Meaning shape word .intLiteral literal) :
    DigitRun word ∧ word.length ≤ Numeral.maxDigits ∧
      literal = some (.int (Numeral.value word)) := by
  obtain ⟨noSymbol, noKeyword⟩ :=
    kind_ne_of_literalKinds (by decide : Kind.intLiteral ∈ Vocabulary.literalKinds)
  cases meaning with
  | symbol known => exact absurd known noSymbol
  | integer run short => exact ⟨run, short, rfl⟩
  | reserved known => exact absurd (Vocabulary.keywordKinds_of_reserved known) noKeyword

theorem of_floatLiteral (meaning : Meaning shape word .floatLiteral literal) :
    ∃ whole digits, DigitRun whole ∧ DigitRun digits ∧ word = whole ++ '.' :: digits ∧
      literal = some (.float
        (.ofRatio (Numeral.value (whole ++ digits)) (Nat.pow 10 digits.length))) := by
  obtain ⟨noSymbol, noKeyword⟩ :=
    kind_ne_of_literalKinds (by decide : Kind.floatLiteral ∈ Vocabulary.literalKinds)
  cases meaning with
  | symbol known => exact absurd known noSymbol
  | fraction left right => exact ⟨_, _, left, right, rfl, rfl⟩
  | reserved known => exact absurd (Vocabulary.keywordKinds_of_reserved known) noKeyword

end Meaning

/-! ### The tokens of scans -/

/-- The token is one of those of the scan of some source. -/
def Token.Scanned (token : Token) : Prop :=
  ∃ source options tokens, scan source options = .ok { tokens } ∧ token ∈ tokens

namespace Token.Scanned

variable {token : Token} (scanned : token.Scanned)
include scanned

/-- Every token of a scan is that of a word, or the end of input. -/
theorem isWord_or_endOfInput : token.IsWord ∨ ∃ place, token = .endOfInput place := by
  obtain ⟨source, options, tokens, done, member⟩ := scanned
  obtain ⟨words, place, rfl, areWords⟩ := Scan.exists_words_of_scan done
  rcases List.mem_append.mp member with inside | last
  · exact .inl (areWords token inside)
  · exact .inr ⟨place, List.mem_singleton.mp last⟩

theorem wellFormed : token.WellFormed := by
  rcases scanned.isWord_or_endOfInput with isWord | ⟨place, rfl⟩
  · exact isWord.wellFormed
  · exact wellFormed_endOfInput place

theorem isWord (noEnd : token.kind ≠ .endOfInput) : token.IsWord := by
  rcases scanned.isWord_or_endOfInput with isWord | ⟨place, rfl⟩
  · exact isWord
  · exact absurd rfl noEnd

/-- **Every token of a scan but the last has the meaning of a word.** -/
theorem exists_meaning (noEnd : token.kind ≠ .endOfInput) :
    ∃ shape : Shape, Meaning shape token.lexeme.toList token.kind token.literal := by
  cases scanned.isWord noEnd with
  | @word shape word _ _ place fits decoded =>
    have lexeme : (String.ofList word).toList = word := String.toList_ofList
    exact ⟨shape, lexeme.symm ▸ fits.meaning decoded⟩

end Token.Scanned

namespace Scan

variable {source : String} {options : Options} {kind : Kind} {value : Literal}

/-! ### Sources that are one literal -/

/-- The source is one literal of that kind, with that value. -/
def ScansTo (source : String) (options : Options) (kind : Kind) (value : Literal) : Prop :=
  ∃ token place, scan source options = .ok { tokens := [token, .endOfInput place] } ∧
    token.content = (kind, source, some value)

/-- A token of the kind has the value, in the scan of some source. -/
def HasValue (kind : Kind) (value : Literal) : Prop :=
  ∃ token : Token, token.Scanned ∧ token.kind = kind ∧ token.literal = some value

theorem scansTo_of_fits {shape : Shape} {word : List Char} (fits : shape.Fits word)
    (decoded : shape.decode word = .ok (kind, some value)) (options : Options) :
    ScansTo (.ofList word) options kind value :=
  ⟨_, _, scan_word fits decoded options, rfl⟩

theorem ScansTo.hasValue (scans : ScansTo source options kind value) : HasValue kind value := by
  obtain ⟨token, place, done, content⟩ := scans
  obtain ⟨sameKind, same⟩ := Prod.mk.inj content
  exact ⟨token, ⟨source, options, _, done, List.mem_cons_self⟩, sameKind, (Prod.mk.inj same).2⟩

/-- The value of a token is that of a word of its kind. -/
theorem HasValue.exists_meaning (found : HasValue kind value) (noEnd : kind ≠ .endOfInput) :
    ∃ (shape : Shape) (word : List Char), Meaning shape word kind (some value) := by
  obtain ⟨token, scanned, rfl, literal⟩ := found
  obtain ⟨shape, meaning⟩ := scanned.exists_meaning noEnd
  rw [literal] at meaning
  exact ⟨shape, _, meaning⟩

theorem scansTo_string {text : String} (unquoted : '"' ∉ text.toList) (options : Options) :
    ScansTo ("\"" ++ text ++ "\"") options .stringLiteral (.text text) := by
  have word : "\"" ++ text ++ "\"" = .ofList ('"' :: text.toList ++ ['"']) := by
    apply String.toList_injective
    simp only [String.toList_append, String.toList_ofList, List.cons_append]
    rfl
  have inside : Shape.inner ('"' :: text.toList ++ ['"']) = text :=
    (congrArg String.ofList List.dropLast_concat).trans String.ofList_toList
  rw [word]
  refine scansTo_of_fits (.string unquoted) ?_ options
  rw [Shape.decode, inside]

theorem scansTo_char (c : Char) (options : Options) :
    ScansTo (.ofList ['\'', c, '\'']) options .charLiteral (.text (.ofList [c])) :=
  scansTo_of_fits (.char c) rfl options

theorem scansTo_digits {digits : List Char} (run : DigitRun digits)
    (short : digits.length ≤ Numeral.maxDigits) (options : Options) :
    ScansTo (.ofList digits) options .intLiteral (.int (Numeral.value digits)) := by
  refine scansTo_of_fits (.integer run) ?_ options
  rw [Shape.decode, integer_of_digitRun run, if_neg (Nat.not_lt.mpr short)]
  rfl

/-- **The digits of a number, with zeros in front, are scanned as the number.** -/
theorem scansTo_leftpad {n width : Nat} (small : n < 10 ^ Numeral.maxDigits)
    (short : width ≤ Numeral.maxDigits) (options : Options) :
    ScansTo (.ofList ((Nat.toDigits 10 n).leftpad width '0')) options .intLiteral (.int n) := by
  have own : (Nat.toDigits 10 n).length ≤ Numeral.maxDigits :=
    (Nat.length_toDigits_le_iff (by decide) (by decide)).mpr small
  have run : DigitRun ((Nat.toDigits 10 n).leftpad width '0') :=
    (Numeral.digitRun_toDigits n).zeros_append _
  have fewer : ((Nat.toDigits 10 n).leftpad width '0').length ≤ Numeral.maxDigits := by
    rw [List.length_leftpad]
    exact Nat.max_le.mpr ⟨short, own⟩
  have same : Numeral.value ((Nat.toDigits 10 n).leftpad width '0') = n := by
    rw [List.leftpad, Numeral.value_zeros, Numeral.value_toDigits]
  have scans := scansTo_digits run fewer options
  rw [same] at scans
  exact scans

/-! ### The values of tokens -/

theorem hasValue_string_iff :
    HasValue .stringLiteral value ↔ ∃ text : String, '"' ∉ text.toList ∧ value = .text text := by
  constructor
  · intro found
    obtain ⟨shape, word, meaning⟩ := found.exists_meaning Kind.noConfusion
    obtain ⟨inner, unquoted, _, same⟩ := meaning.of_stringLiteral
    refine ⟨.ofList inner, ?_, Option.some.inj same⟩
    rw [String.toList_ofList]
    exact unquoted
  · rintro ⟨text, unquoted, rfl⟩
    exact (scansTo_string unquoted {}).hasValue

theorem hasValue_char_iff :
    HasValue .charLiteral value ↔ ∃ c : Char, value = .text (.ofList [c]) := by
  constructor
  · intro found
    obtain ⟨shape, word, meaning⟩ := found.exists_meaning Kind.noConfusion
    obtain ⟨c, _, same⟩ := meaning.of_charLiteral
    exact ⟨c, Option.some.inj same⟩
  · rintro ⟨c, rfl⟩
    exact (scansTo_char c {}).hasValue

theorem hasValue_int_iff :
    HasValue .intLiteral value ↔ ∃ n : Nat, n < 10 ^ Numeral.maxDigits ∧ value = .int n := by
  constructor
  · intro found
    obtain ⟨shape, word, meaning⟩ := found.exists_meaning Kind.noConfusion
    obtain ⟨_, short, same⟩ := meaning.of_intLiteral
    refine ⟨Numeral.value word, ?_, Option.some.inj same⟩
    exact lt_of_lt_of_le (Numeral.value_lt word) (Nat.pow_le_pow_right (by decide) short)
  · rintro ⟨n, small, rfl⟩
    exact (scansTo_leftpad small (Nat.zero_le _) {}).hasValue

/-- **A literal is scanned as the value that it spells**: a text without a double quote between
double quotes, any character between single quotes, and the digits of a number below `10 ^ 4300`,
with zeros in front up to 4300 digits. Over all sources, literals have these values and no
others. -/
theorem scan_encoded_values (options : Options) :
    (∀ text : String, '"' ∉ text.toList →
      ScansTo ("\"" ++ text ++ "\"") options .stringLiteral (.text text)) ∧
    (∀ c : Char, ScansTo (.ofList ['\'', c, '\'']) options .charLiteral (.text (.ofList [c]))) ∧
    (∀ n < 10 ^ 4300, ∀ width ≤ 4300,
      ScansTo (.ofList ((Nat.toDigits 10 n).leftpad width '0')) options .intLiteral (.int n)) ∧
    (∀ value, HasValue .stringLiteral value ↔
      ∃ text : String, '"' ∉ text.toList ∧ value = .text text) ∧
    (∀ value, HasValue .charLiteral value ↔ ∃ c : Char, value = .text (.ofList [c])) ∧
    ∀ value, HasValue .intLiteral value ↔ ∃ n : Nat, n < 10 ^ 4300 ∧ value = .int n := by
  have limit : Numeral.maxDigits = 4300 := rfl
  rw [← limit]
  exact ⟨fun _ unquoted => scansTo_string unquoted options, fun c => scansTo_char c options,
    fun _ small _ short => scansTo_leftpad small short options, fun _ => hasValue_string_iff,
    fun _ => hasValue_char_iff, fun _ => hasValue_int_iff⟩

/-- A string that holds a newline, a quote and a NUL between quotes, a number with as many zeros in
front as can be, and the first number that is too great. -/
theorem scan_encoded_values_at_bounds :
    ScansTo "\"a\n'\"" ⟨"f", 1⟩ .stringLiteral (.text "a\n'") ∧
      ScansTo "'''" ⟨"f", 1⟩ .charLiteral (.text "'") ∧
      ScansTo "'\x00'" ⟨"f", 1⟩ .charLiteral (.text "\x00") ∧
      ScansTo (.ofList ((Nat.toDigits 10 7).leftpad 4300 '0')) ⟨"f", 1⟩ .intLiteral (.int 7) ∧
      ¬ HasValue .intLiteral (.int ((10 ^ 4300 : Nat) : Int)) := by
  obtain ⟨strings, chars, digits, _, _, ints⟩ := scan_encoded_values ⟨"f", 1⟩
  have small : 7 < 10 ^ 4300 :=
    lt_of_lt_of_le (by decide : 7 < 10 ^ 1) (pow_le_pow_right₀ (by decide) (by decide))
  refine ⟨strings "a\n'" (by decide), chars '\'', chars '\x00',
    digits 7 small 4300 (Nat.le_refl _), fun found => ?_⟩
  obtain ⟨n, less, same⟩ := (ints _).mp found
  generalize 10 ^ 4300 = bound at less same
  have equal : (bound : Int) = n := Literal.int.inj same
  omega

end Scan

end LoopLex
