/-
**The meaning of a word**: its kind and its value.

The shape of a word tells how the two are found. An operator has a kind of its own and no value, a
literal has the kind of its shape, and a name is looked up among the truth values, the operators
that are spelled as words and the keywords.

* `Meaning` — a word of a shape with its kind and its value;
* `Shape.Fits.meaning` — what a word is decoded to is its meaning;
* `Shape.Fits.not_reserved` — the name of an operator or a keyword is the word of no other shape.
-/

import LoopLex.Proofs.Word.FirstPiece
import LoopLex.Proofs.Word.LongestWord

namespace LoopLex

open Unicode (isDigit isLetter)

/-- The names of keywords and of operators that are spelled as words. -/
def Vocabulary.reserved : List String := keywords.map (·.1) ++ logicalOperators.map (·.1)

/-- The kinds of operators and separators. -/
def Shape.symbolKinds : List Kind :=
  Vocabulary.singles.map (·.2) ++ Vocabulary.equalsSuffix.map (·.2.1) ++
    Vocabulary.equalsSuffix.map (·.2.2) ++ [.notEqual]

/-- A word of a shape, with its kind and its value. -/
inductive Meaning : Shape → List Char → Kind → Option Literal → Prop where
  | symbol {kind : Kind} {word : List Char} (known : kind ∈ Shape.symbolKinds) :
    Meaning (.symbol kind) word kind none
  | string {inner : List Char} (unquoted : '"' ∉ inner) :
    Meaning .string ('"' :: inner ++ ['"']) .stringLiteral (some (.text (.ofList inner)))
  | char (c : Char) : Meaning .char ['\'', c, '\''] .charLiteral (some (.text (.ofList [c])))
  | integer {digits : List Char} (run : DigitRun digits)
    (short : digits.length ≤ Numeral.maxDigits) :
    Meaning .integer digits .intLiteral (some (.int (Numeral.value digits)))
  | fraction {whole digits : List Char} (left : DigitRun whole) (right : DigitRun digits) :
    Meaning .fraction (whole ++ '.' :: digits) .floatLiteral
      (some (.float (.ofRatio (Numeral.value (whole ++ digits)) (Nat.pow 10 digits.length))))
  | boolean {name : String} {value : Bool} (known : (name, value) ∈ Vocabulary.booleanLiterals) :
    Meaning .name name.toList .boolLiteral (some (.bool value))
  | reserved {name : String} {kind : Kind}
    (known : (name, kind) ∈ Vocabulary.keywords ++ Vocabulary.logicalOperators) :
    Meaning .name name.toList kind none
  | identifier {name : String} (unreserved : name ∉ Vocabulary.reserved) :
    Meaning .name name.toList .identifier none

namespace Shape

variable {shape : Shape} {word : List Char} {kind : Kind} {literal : Option Literal}

theorem Fits.mem_symbolKinds (fits : (symbol kind).Fits word) : kind ∈ symbolKinds := by
  simp only [symbolKinds, List.mem_append, List.mem_map, List.mem_singleton]
  cases fits with
  | single known => exact .inl (.inl (.inl ⟨_, known, rfl⟩))
  | plain known => exact .inl (.inl (.inr ⟨_, known, rfl⟩))
  | withEquals known => exact .inl (.inr ⟨_, known, rfl⟩)
  | notEqual => exact .inr rfl

theorem not_mem_of_lookup_eq_none {β : Type} {table : List (String × β)} {name : String}
    (absent : table.lookup name = none) : name ∉ table.map (·.1) := by
  intro member
  obtain ⟨entry, known, rfl⟩ := List.mem_map.mp member
  simpa using List.lookup_eq_none_iff.mp absent entry known

/-- **A name means what the tables say of it**, or it is an identifier. -/
theorem meaning_decodeName (name : String) :
    Meaning .name name.toList (decodeName name).1 (decodeName name).2 := by
  unfold decodeName
  split
  · rename_i found
    exact .boolean (mem_of_lookup found)
  · rename_i found
    exact .reserved (List.mem_append_right _ (mem_of_lookup found))
  · rename_i noOperator
    cases found : Vocabulary.keywords.lookup name with
    | some kind => exact .reserved (List.mem_append_left _ (mem_of_lookup found))
    | none =>
      refine .identifier fun member => ?_
      rcases List.mem_append.mp member with keyword | operator
      · exact not_mem_of_lookup_eq_none found keyword
      · exact not_mem_of_lookup_eq_none noOperator operator

/-- **What a word is decoded to is its meaning.** -/
theorem Fits.meaning (fits : shape.Fits word) (decoded : shape.decode word = .ok (kind, literal)) :
    Meaning shape word kind literal := by
  cases shape with
  | symbol kind =>
    cases decoded
    exact .symbol fits.mem_symbolKinds
  | string =>
    cases fits with
    | @string text unquoted =>
      cases decoded
      have inside : inner ('"' :: text ++ ['"']) = .ofList text :=
        congrArg String.ofList List.dropLast_concat
      rw [inside]
      exact .string unquoted
  | char =>
    cases fits with
    | char c =>
      cases decoded
      exact .char c
  | integer =>
    cases fits with
    | integer run =>
      have short := length_le_of_decode run decoded
      rw [decode, integer_of_digitRun run, if_neg (Nat.not_lt.mpr short)] at decoded
      cases decoded
      exact .integer run short
  | fraction =>
    cases fits with
    | fraction left right =>
      rw [decode, fraction_of_digitRuns left right] at decoded
      cases decoded
      exact .fraction left right
  | name =>
    have named := meaning_decodeName (String.ofList word)
    rw [String.toList_ofList, Except.ok.inj decoded] at named
    exact named

/-- The name of a keyword or an operator has the shape of a name. -/
theorem fits_name_of_reserved {name : String} (known : name ∈ Vocabulary.reserved) :
    Shape.name.Fits name.toList := by
  have spelled : ∀ name ∈ Vocabulary.reserved,
      (name.toList.head?.any isNameStart && name.toList.tail.all isNamePart) = true := by
    decide +kernel
  obtain ⟨starts, parts⟩ := Bool.and_eq_true_iff.mp (spelled name known)
  obtain ⟨first, more, split, start⟩ := exists_cons_of_any_head? starts
  rw [split] at parts ⊢
  exact .name start (List.all_eq_true.mp parts)

/-- **The name of a keyword or an operator is the word of no other shape.** -/
theorem Fits.not_reserved (fits : shape.Fits word) (other : shape ≠ .name) :
    String.ofList word ∉ Vocabulary.reserved := by
  intro known
  have named := fits_name_of_reserved known
  rw [String.toList_ofList] at named
  exact other (fits.unique named)

end Shape

end LoopLex
