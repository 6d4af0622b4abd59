/-
**Tokens**: a piece of source text with its kind, its value and its place.

* `Token.text` — a token in a message, on one line;
* `Token.debugText` — a token with its value and its columns;
* `Token.location` — where a token starts in a named source;
* `Token.equals` — equality of all fields, values compared as values.
-/

import LoopLex.Text.Location
import LoopLex.Text.OneLine
import LoopLex.Text.Position
import LoopLex.Token.Literal
import LoopLex.Token.Vocabulary

namespace LoopLex

/-- A piece of source text. -/
structure Token where
  kind : Kind
  /-- The text of the token, and a NUL for the end of input. -/
  lexeme : String
  /-- What the token stands for, if it is a literal. -/
  literal : Option Literal
  /-- The line of the first character. -/
  line : Int
  /-- The column of the first character. -/
  columnStart : Int
  /-- The column of the last character. -/
  columnEnd : Int
deriving DecidableEq, Repr

namespace Token

/-- The lexeme of the end of input. -/
def endLexeme : String := "\x00"

/-- The token that marks the end of a text. -/
def endOfInput (place : Position) : Token :=
  ⟨.endOfInput, endLexeme, none, place.line, place.column, place.column⟩

/-- The token in a message. -/
def text (token : Token) : Except Misuse String := do
  let line ← Numeral.write token.line
  let column ← Numeral.write token.columnStart
  return oneLine (token.kind.name ++ " '" ++ token.lexeme ++ "' at line: " ++ line ++
    ", column: " ++ column)

/-- Line and columns of the token. -/
def span (token : Token) : Except Misuse String := do
  let line ← Numeral.write token.line
  let first ← Numeral.write token.columnStart
  let last ← Numeral.write token.columnEnd
  return line ++ ":" ++ first ++ "-" ++ last

/-- What the debugging form shows of the token between its kind and its span: the value, else the
lexeme, and nothing for the end of input. -/
def debugBody (token : Token) : Except Misuse String :=
  match token.literal with
  | some literal => do return ", " ++ (← literal.debugText)
  | none => return if token.kind = .endOfInput then "" else ", " ++ quoted token.lexeme

/-- The token with its value and its columns. -/
def debugText (token : Token) : Except Misuse String := do
  let span ← token.span
  let body ← token.debugBody
  return "Token(" ++ token.kind.name ++ body ++ ", " ++ span ++ ")"

/-- Where the token starts in the source `filename`. -/
def location (token : Token) (filename : String) : Location :=
  ⟨filename, token.line, token.columnStart⟩

/-- Whether the token stands for a value. -/
def isLiteral (token : Token) : Bool := Vocabulary.literalKinds.contains token.kind

/-- Whether the token names a type. -/
def isTypeName (token : Token) : Bool := Vocabulary.typeNames.contains token.kind

/-- Whether the token is a keyword or an operator that is spelled as a word. -/
def isKeyword (token : Token) : Bool := Vocabulary.keywordKinds.contains token.kind

/-- Whether two tokens agree, their literals as values. -/
def equals (first second : Token) : Bool :=
  first.kind = second.kind && first.lexeme = second.lexeme &&
    (match first.literal, second.literal with
      | some a, some b => a.equals b
      | none, none => true
      | _, _ => false) &&
    first.line = second.line && first.columnStart = second.columnStart &&
    first.columnEnd = second.columnEnd

end Token

end LoopLex
