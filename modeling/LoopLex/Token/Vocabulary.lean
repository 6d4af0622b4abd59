/-
**The vocabulary of LoopScript**: its words, its operators and its blanks.

* `keywords`, `logicalOperators` and `booleanLiterals` — the names with a meaning of their own;
* `singles` and `equalsSuffix` — the operators of one character, and those that a `=` may follow;
* `literalKinds`, `typeNames` and `keywordKinds` — classes of kinds.
-/

import LoopLex.Token.Kind

namespace LoopLex.Vocabulary

/-- The words of types and statements. -/
def keywords : List (String × Kind) :=
  [("int", .intType), ("float", .floatType), ("bool", .boolType), ("char", .charType),
    ("string", .stringType), ("array", .arrayType), ("var", .varWord), ("if", .ifWord),
    ("else", .elseWord), ("loop", .loopWord), ("to", .toWord), ("while", .whileWord),
    ("print", .printWord), ("input", .inputWord), ("fun", .funWord), ("return", .returnWord)]

/-- The names of the truth values. -/
def booleanLiterals : List (String × Bool) := [("true", true), ("false", false)]

/-- The operators that are spelled as words. -/
def logicalOperators : List (String × Kind) :=
  [("and", .andWord), ("or", .orWord), ("not", .notWord)]

/-- The characters that are tokens by themselves, whatever follows. -/
def singles : List (Char × Kind) :=
  [('{', .leftBrace), ('}', .rightBrace), ('(', .leftParen), (')', .rightParen),
    ('[', .leftBracket), (']', .rightBracket), (';', .semicolon), (',', .comma), (':', .colon),
    ('+', .plus), ('-', .minus), ('*', .times), ('/', .divide), ('%', .modulo)]

/-- The operators whose meaning changes when a `=` follows: the kind without it, and with it. -/
def equalsSuffix : List (Char × Kind × Kind) :=
  [('=', .assign, .equal), ('<', .less, .lessEqual), ('>', .greater, .greaterEqual)]

/-- The characters that separate tokens and belong to none. -/
def blanks : List Char := [' ', '\r', '\t', '\n']

/-- The kinds of tokens that stand for a value. -/
def literalKinds : List Kind :=
  [.intLiteral, .floatLiteral, .boolLiteral, .charLiteral, .stringLiteral]

/-- The kinds that name a type. -/
def typeNames : List Kind :=
  [.intType, .floatType, .boolType, .charType, .stringType, .arrayType]

/-- The kinds of keywords and of operators that are spelled as words. -/
def keywordKinds : List Kind := keywords.map (·.2) ++ logicalOperators.map (·.2)

end LoopLex.Vocabulary
