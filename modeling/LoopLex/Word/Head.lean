/-
**The head of a text**: what the first character of a text starts, and how far it reaches.

The first character decides which rule applies, and the text behind it how far the rule reaches. Two
characters of it are looked at, at most, beyond those that are taken.

* `Head.read` — the blank, word or error that a text starts with;
* `Shape.decode` — the kind and the value of a word.
-/

import LoopLex.Diagnostic.Cause
import LoopLex.Number.Numeral
import LoopLex.Token.Literal
import LoopLex.Token.Vocabulary
import LoopLex.Unicode.Letter

namespace LoopLex

open Unicode (isDigit isLetter)

/-- A character that a name can start with. -/
def isNameStart (c : Char) : Bool := isLetter c || c = '_'

/-- A character that a name can go on with. -/
def isNamePart (c : Char) : Bool := isNameStart c || isDigit c

/-- The form of a word. -/
inductive Shape where
  /-- An operator or a separator. -/
  | symbol (kind : Kind)
  /-- A text between double quotes. -/
  | string
  /-- A character between single quotes. -/
  | char
  /-- A run of digits. -/
  | integer
  /-- Two runs of digits with a dot between. -/
  | fraction
  /-- A run of letters, digits and underscores that does not start with a digit. -/
  | name
deriving DecidableEq, Repr

/-- What a text starts with. The characters that belong to it, beyond the first, are `more`. -/
inductive Head where
  /-- A character that separates words. -/
  | blank
  /-- A word. -/
  | word (shape : Shape) (more : List Char)
  /-- No word, for the reason given. -/
  | flaw (cause : Cause) (more : List Char)
deriving DecidableEq, Repr

namespace Head

/-- What a double quote starts, `ahead` being the text behind it. -/
def readString (ahead : List Char) : Head :=
  let inner := ahead.takeWhile (· ≠ '"')
  if ahead.length ≤ inner.length then .flaw .openString inner else .word .string (inner ++ ['"'])

/-- What a single quote starts. A character with a NUL behind it is not taken. -/
def readChar : List Char → Head
  | [] => .flaw .openChar []
  | [_] => .flaw .openChar []
  | c :: next :: _ =>
    if next = '\x00' then .flaw .openChar []
    else if next = '\'' then .word .char [c, next]
    else .flaw .openChar [c]

/-- What a number with the characters `more` beyond its first digit is, in front of `rest`. -/
def closeNumber (shape : Shape) (more rest : List Char) : Head :=
  if rest.head?.any isLetter then .flaw .letterAfterNumber more else .word shape more

/-- What a digit starts. A dot belongs to the number only if a digit follows it. -/
def readNumber (ahead : List Char) : Head :=
  let whole := ahead.takeWhile isDigit
  match ahead.dropWhile isDigit with
  | '.' :: rest =>
    if rest.head?.any isDigit then
      closeNumber .fraction (whole ++ '.' :: rest.takeWhile isDigit) (rest.dropWhile isDigit)
    else closeNumber .integer whole ('.' :: rest)
  | rest => closeNumber .integer whole rest

/-- What an operator starts that can stand alone or with a `=` behind it. -/
def readEquals (plain withEquals : Kind) (ahead : List Char) : Head :=
  if ahead.head? = some '=' then .word (.symbol withEquals) ['='] else .word (.symbol plain) []

/-- What a character starts that is no operator of the tables. -/
def readOther (c : Char) (ahead : List Char) : Head :=
  if c = '!' then
    if ahead.head? = some '=' then .word (.symbol .notEqual) ['='] else .flaw .strayBang []
  else if c ∈ Vocabulary.blanks then .blank
  else if c = '"' then readString ahead
  else if c = '\'' then readChar ahead
  else if isDigit c then readNumber ahead
  else if isNameStart c then .word .name (ahead.takeWhile isNamePart)
  else .flaw .strayCharacter []

/-- What `c` starts, `ahead` being the text behind it. -/
def read (c : Char) (ahead : List Char) : Head :=
  match Vocabulary.singles.lookup c, Vocabulary.equalsSuffix.lookup c with
  | some kind, _ => .word (.symbol kind) []
  | none, some (plain, withEquals) => readEquals plain withEquals ahead
  | none, none => readOther c ahead

end Head

namespace Shape

/-- The text between the first and the last character. -/
def inner (lexeme : List Char) : String := String.ofList lexeme.tail.dropLast

/-- The kind and the value of a name: truth values first, then operators, then keywords. -/
def decodeName (name : String) : Kind × Option Literal :=
  match Vocabulary.booleanLiterals.lookup name, Vocabulary.logicalOperators.lookup name with
  | some value, _ => (.boolLiteral, some (.bool value))
  | none, some kind => (kind, none)
  | none, none => ((Vocabulary.keywords.lookup name).getD .identifier, none)

/-- The kind and the value of a word of that shape. -/
def decode (shape : Shape) (lexeme : List Char) :
    Except Numeral.Refusal (Kind × Option Literal) :=
  match shape with
  | symbol kind => .ok (kind, none)
  | string => .ok (.stringLiteral, some (.text (inner lexeme)))
  | char => .ok (.charLiteral, some (.text (inner lexeme)))
  | integer => (Numeral.integer lexeme).map fun n => (.intLiteral, some (.int n))
  | fraction => (Numeral.fraction lexeme).map fun x => (.floatLiteral, some (.float x))
  | name => .ok (decodeName (String.ofList lexeme))

end Shape

end LoopLex
