/-
**What the tokens of a scan say agrees.** Kind, lexeme and value of a token fit together, however
the token was made.

A token of a word has the meaning of the word, and the word has one shape. So no string looks like a
keyword and no NUL in a text looks like the end of it, and a token has a value if it has the kind of
a literal.

* `Literal.IsValueOf` — a value, a kind and a lexeme that fit together;
* `Token.WellFormed` — what holds of every token;
* `Token.IsWord.wellFormed` — the token of a word is well formed;
* `scan_tokens_wellFormed` — so are the tokens of a scan, and only the last is the end of input.
-/

import LoopLex.Proofs.Scan.Taking
import LoopLex.Proofs.Word.Meaning
import Mathlib.Control.Monad.Basic

namespace LoopLex

/-! ### What a token has to satisfy -/

/-- A value that a token of the kind and with the lexeme can have. -/
inductive Literal.IsValueOf : Literal → Kind → List Char → Prop where
  | int (value : Nat) (lexeme : List Char) : IsValueOf (.int value) .intLiteral lexeme
  | float (value : Binary64) (lexeme : List Char) : IsValueOf (.float value) .floatLiteral lexeme
  | bool (lexeme : List Char) : IsValueOf (.bool (lexeme = "true".toList)) .boolLiteral lexeme
  | char (c : Char) : IsValueOf (.text (.ofList [c])) .charLiteral ['\'', c, '\'']
  | string {inner : List Char} (unquoted : '"' ∉ inner) :
    IsValueOf (.text (.ofList inner)) .stringLiteral ('"' :: inner ++ ['"'])

/-- Kind, lexeme and value of a token fit together. -/
structure Token.WellFormed (token : Token) : Prop where
  notNewline : token.kind ≠ .newline
  /-- The end of input has a NUL for its lexeme, and no other token has. -/
  endLexeme : token.lexeme = Token.endLexeme ↔ token.kind = .endOfInput
  /-- The literals are the tokens that have a value. -/
  literal : token.isLiteral = true ↔ token.literal.isSome = true
  value : ∀ value ∈ token.literal, value.IsValueOf token.kind token.lexeme.toList
  /-- The lexeme alone tells a keyword. -/
  keyword : token.isKeyword = true ↔
    token.lexeme ∈ Vocabulary.keywords.map (·.1) ++ Vocabulary.logicalOperators.map (·.1)
  typeName : token.isTypeName = true → token.isKeyword = true
  apart : ¬ (token.isLiteral = true ∧ token.isKeyword = true)

/-! ### Kinds of words -/

namespace Vocabulary

theorem keywordKinds_of_reserved {name : String} {kind : Kind}
    (known : (name, kind) ∈ keywords ++ logicalOperators) : kind ∈ keywordKinds := by
  rw [keywordKinds, ← List.map_append]
  exact List.mem_map_of_mem known

theorem reserved_of_known {name : String} {kind : Kind}
    (known : (name, kind) ∈ keywords ++ logicalOperators) : name ∈ reserved := by
  rw [reserved, ← List.map_append]
  exact List.mem_map_of_mem known

theorem keywordKinds_of_typeNames : ∀ kind ∈ typeNames, kind ∈ keywordKinds := by decide

/-- No kind is that of a literal and that of a keyword. -/
theorem literalKinds_apart : ∀ kind ∈ literalKinds, kind ∉ keywordKinds := by decide

end Vocabulary

namespace Meaning

variable {shape : Shape} {word : List Char} {kind : Kind} {literal : Option Literal}

theorem ne_newline (meaning : Meaning shape word kind literal) : kind ≠ .newline := by
  have symbols : Kind.newline ∉ Shape.symbolKinds := by decide
  have keywords : Kind.newline ∉ Vocabulary.keywordKinds := by decide
  cases meaning with
  | symbol known => exact fun equal => symbols (equal ▸ known)
  | reserved known =>
    exact fun equal => keywords (equal ▸ Vocabulary.keywordKinds_of_reserved known)
  | _ => exact Kind.noConfusion

/-- The literals are the words that have a value. -/
theorem mem_literalKinds_iff (meaning : Meaning shape word kind literal) :
    kind ∈ Vocabulary.literalKinds ↔ literal.isSome = true := by
  have symbols : ∀ kind ∈ Shape.symbolKinds, kind ∉ Vocabulary.literalKinds := by decide
  cases meaning with
  | symbol known => exact iff_of_false (symbols _ known) Bool.false_ne_true
  | reserved known =>
    refine iff_of_false (fun isLiteral => ?_) Bool.false_ne_true
    exact Vocabulary.literalKinds_apart _ isLiteral (Vocabulary.keywordKinds_of_reserved known)
  | identifier => exact iff_of_false (by decide) Bool.false_ne_true
  | _ => exact iff_of_true (by decide) rfl

/-- **The value of a word is one that its token can have.** -/
theorem isValueOf (meaning : Meaning shape word kind literal) :
    ∀ value ∈ literal, value.IsValueOf kind word := by
  have truth : ∀ entry ∈ Vocabulary.booleanLiterals,
      entry.2 = decide (entry.1.toList = "true".toList) := by
    decide
  intro value member
  cases meaning with
  | symbol | reserved | identifier => cases member
  | string unquoted =>
    cases member
    exact .string unquoted
  | char c =>
    cases member
    exact .char c
  | integer =>
    cases member
    exact .int _ _
  | fraction =>
    cases member
    exact .float _ _
  | @boolean name value known =>
    cases member
    have same : value = decide (name.toList = "true".toList) := truth _ known
    rw [same]
    exact .bool _

/-- **A word has the kind of a keyword if it is the name of one.** -/
theorem mem_keywordKinds_iff (meaning : Meaning shape word kind literal) (fits : shape.Fits word) :
    kind ∈ Vocabulary.keywordKinds ↔ String.ofList word ∈ Vocabulary.reserved := by
  have symbols : ∀ kind ∈ Shape.symbolKinds, kind ∉ Vocabulary.keywordKinds := by decide
  have booleans : ∀ entry ∈ Vocabulary.booleanLiterals, entry.1 ∉ Vocabulary.reserved := by decide
  cases meaning with
  | symbol known => exact iff_of_false (symbols _ known) (fits.not_reserved (by simp))
  | boolean known =>
    rw [String.ofList_toList]
    exact iff_of_false (by decide) (booleans _ known)
  | reserved known =>
    rw [String.ofList_toList]
    exact iff_of_true (Vocabulary.keywordKinds_of_reserved known)
      (Vocabulary.reserved_of_known known)
  | identifier unreserved =>
    rw [String.ofList_toList]
    exact iff_of_false (by decide) unreserved
  | _ => exact iff_of_false (by decide) (fits.not_reserved (by simp))

end Meaning

/-- No word is a NUL. -/
theorem Shape.Fits.ne_nul {shape : Shape} {word : List Char} (fits : shape.Fits word) :
    word ≠ ['\x00'] := by
  rintro rfl
  have read := fits.read_alone
  rw [Head.read_of_not_mem_openers [] (by decide)] at read
  cases read

/-! ### Tokens -/

namespace Token

theorem isTypeName_imp_isKeyword (token : Token) (typeName : token.isTypeName = true) :
    token.isKeyword = true :=
  List.contains_iff_mem.mpr
    (Vocabulary.keywordKinds_of_typeNames _ (List.contains_iff_mem.mp typeName))

theorem not_isLiteral_and_isKeyword (token : Token) :
    ¬ (token.isLiteral = true ∧ token.isKeyword = true) := fun ⟨isLiteral, isKeyword⟩ =>
  Vocabulary.literalKinds_apart _ (List.contains_iff_mem.mp isLiteral)
    (List.contains_iff_mem.mp isKeyword)

/-- **The token of a word is well formed.** -/
theorem IsWord.wellFormed {token : Token} (isWord : token.IsWord) : token.WellFormed := by
  cases isWord with
  | @word shape word kind literal place fits decoded =>
    have meaning := fits.meaning decoded
    refine {
      notNewline := meaning.ne_newline
      endLexeme := iff_of_false (fun nul => ?nul) (fits.kind_ne_endOfInput decoded)
      literal := List.contains_iff_mem.trans meaning.mem_literalKinds_iff
      value := ?value
      keyword := List.contains_iff_mem.trans (meaning.mem_keywordKinds_iff fits)
      typeName := isTypeName_imp_isKeyword _
      apart := not_isLiteral_and_isKeyword _ }
    case nul => exact fits.ne_nul (String.ofList_injective nul)
    case value =>
      show ∀ value ∈ literal, value.IsValueOf kind (String.ofList word).toList
      rw [String.toList_ofList]
      exact meaning.isValueOf

theorem wellFormed_endOfInput (place : Position) : (endOfInput place).WellFormed where
  notNewline := Kind.noConfusion
  endLexeme := iff_of_true rfl rfl
  literal := iff_of_false Bool.false_ne_true Bool.false_ne_true
  value value member := by cases member
  keyword := by
    have unreserved : endLexeme ∉ Vocabulary.reserved := by decide
    exact iff_of_false Bool.false_ne_true unreserved
  typeName := isTypeName_imp_isKeyword _
  apart := not_isLiteral_and_isKeyword _

end Token

namespace Scan

variable {source : String} {options : Options} {tokens : List Token}

/-- **The tokens of a scan are well formed.** The last of them is the end of input, and no other one
is or has the lexeme of it. -/
theorem scan_tokens_wellFormed (done : scan source options = .ok { tokens }) :
    (∃ words last, tokens = words ++ [last] ∧
      (last.kind = .endOfInput ∧ last.lexeme = "\x00") ∧
      ∀ token ∈ words, token.kind ≠ .endOfInput ∧ token.lexeme ≠ "\x00") ∧
    ∀ token ∈ tokens, token.WellFormed := by
  obtain ⟨words, place, rfl, areWords⟩ := exists_words_of_scan done
  refine ⟨⟨words, .endOfInput place, rfl, ⟨rfl, rfl⟩, fun token member => ?_⟩, ?_⟩
  · have isWord := areWords token member
    exact ⟨isWord.kind_ne_endOfInput,
      fun nul => isWord.kind_ne_endOfInput (isWord.wellFormed.endLexeme.mp nul)⟩
  · intro token member
    rcases List.mem_append.mp member with word | last
    · exact (areWords token word).wellFormed
    · rw [List.mem_singleton.mp last]
      exact Token.wellFormed_endOfInput place

/-- A keyword between quotes, a NUL between quotes, the names of an operator and of a truth value,
and a name that starts like a keyword. -/
theorem scan_tokens_wellFormed_between_quotes :
    ∃ tokens, scan "\"and\"'\x00'not true int1" ⟨"f", 1⟩ = .ok { tokens } ∧
      tokens.map (·.isKeyword) = [false, false, true, false, false, false] ∧
      (∃ words last, tokens = words ++ [last] ∧
        (last.kind = .endOfInput ∧ last.lexeme = "\x00") ∧
        ∀ token ∈ words, token.kind ≠ .endOfInput ∧ token.lexeme ≠ "\x00") ∧
      ∀ token ∈ tokens, token.WellFormed := by
  have done : scan "\"and\"'\x00'not true int1" ⟨"f", 1⟩ = .ok
      { tokens := [⟨.stringLiteral, "\"and\"", some (.text "and"), 1, 1, 5⟩,
        ⟨.charLiteral, "'\x00'", some (.text "\x00"), 1, 6, 8⟩, ⟨.notWord, "not", none, 1, 9, 11⟩,
        ⟨.boolLiteral, "true", some (.bool true), 1, 13, 16⟩,
        ⟨.identifier, "int1", none, 1, 18, 21⟩, ⟨.endOfInput, "\x00", none, 1, 22, 22⟩] } := by
    decide +kernel
  exact ⟨_, done, rfl, scan_tokens_wellFormed done⟩

end Scan

end LoopLex
