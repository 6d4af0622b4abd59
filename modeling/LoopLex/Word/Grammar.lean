/-
**The words of LoopScript as a language**: which texts are words, and which piece of a text is the
next one.

* `Word` — the texts that are words;
* `LongestWord` — the longest word that a text starts with;
* `Pieces` — a text cut into blanks and longest words, none of which runs into a letter it must not
  touch or has too many digits;
* `Piece.word?` — the words among the pieces.
-/

import LoopLex.Word.Head

namespace LoopLex

open Unicode (isDigit isLetter)

/-- The operators and separators. -/
def symbols : List (List Char) :=
  [['{'], ['}'], ['('], [')'], ['['], [']'], [';'], [','], [':'], ['+'], ['-'], ['*'], ['/'], ['%'],
    ['='], ['<'], ['>'], ['=', '='], ['<', '='], ['>', '='], ['!', '=']]

/-- A run of one or more digits. -/
def DigitRun (text : List Char) : Prop := text ≠ [] ∧ ∀ c ∈ text, isDigit c

/-- The texts that are words. -/
inductive Word : List Char → Prop where
  | symbol {text : List Char} (known : text ∈ symbols) : Word text
  | string {inner : List Char} (unquoted : '"' ∉ inner) : Word ('"' :: inner ++ ['"'])
  | char (c : Char) : Word ['\'', c, '\'']
  | integer {digits : List Char} (run : DigitRun digits) : Word digits
  | fraction {whole digits : List Char} (left : DigitRun whole) (right : DigitRun digits) :
    Word (whole ++ '.' :: digits)
  | name {first : Char} {more : List Char} (start : isNameStart first)
    (parts : ∀ c ∈ more, isNamePart c) : Word (first :: more)

/-- The texts that are numbers. -/
def NumberWord (text : List Char) : Prop :=
  DigitRun text ∨ ∃ whole digits, DigitRun whole ∧ DigitRun digits ∧ text = whole ++ '.' :: digits

/-- The longest word that `text` starts with. -/
structure LongestWord (text word : List Char) : Prop where
  isWord : Word word
  leads : word <+: text
  longest : ∀ other, Word other → other <+: text → other.length ≤ word.length

/-- A piece of a text. -/
inductive Piece where
  /-- A character that separates words. -/
  | blank (c : Char)
  /-- A word. -/
  | word (text : List Char)
deriving DecidableEq, Repr

/-- The word that a piece is, if it is one. -/
def Piece.word? : Piece → Option (List Char)
  | blank _ => none
  | word text => some text

/-- A text cut into pieces from left to right. A number does not run into a letter, and an integer
does not have too many digits. -/
inductive Pieces : List Char → List Piece → Prop where
  | nil : Pieces [] []
  | blank {c : Char} {text : List Char} {pieces : List Piece} (blank : c ∈ Vocabulary.blanks)
    (rest : Pieces text pieces) : Pieces (c :: text) (.blank c :: pieces)
  | word {word text : List Char} {pieces : List Piece}
    (longest : LongestWord (word ++ text) word)
    (apart : NumberWord word → ∀ c ∈ text.head?, isLetter c = false)
    (short : DigitRun word → word.length ≤ Numeral.maxDigits)
    (rest : Pieces text pieces) : Pieces (word ++ text) (.word word :: pieces)

end LoopLex
