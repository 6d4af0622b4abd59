/-
**Kinds of tokens**, a closed list in a fixed order.

* `Kind.name` — the name that output shows;
* `Kind.all` — every kind, in order;
* `Kind.ofName?` — the kind of a name.
-/

namespace LoopLex

/-- What a token is. No text has a token of kind `newline`, which is kept free. -/
inductive Kind where
  | intType | floatType | boolType | charType | stringType | arrayType
  | varWord | ifWord | elseWord | loopWord | toWord | whileWord | printWord | inputWord
  | funWord | returnWord
  | leftBrace | rightBrace | leftParen | rightParen | leftBracket | rightBracket
  | semicolon | comma | assign | colon
  | plus | minus | times | divide | modulo
  | equal | notEqual | less | lessEqual | greater | greaterEqual
  | andWord | orWord | notWord
  | identifier | intLiteral | floatLiteral | boolLiteral | charLiteral | stringLiteral
  | newline | endOfInput
deriving DecidableEq, Repr

namespace Kind

/-- The name of the kind in output. -/
def name : Kind → String
  | intType => "INT"
  | floatType => "FLOAT"
  | boolType => "BOOL"
  | charType => "CHAR"
  | stringType => "STRING"
  | arrayType => "ARRAY"
  | varWord => "VAR"
  | ifWord => "IF"
  | elseWord => "ELSE"
  | loopWord => "LOOP"
  | toWord => "TO"
  | whileWord => "WHILE"
  | printWord => "PRINT"
  | inputWord => "INPUT"
  | funWord => "FUN"
  | returnWord => "RETURN"
  | leftBrace => "LBRACE"
  | rightBrace => "RBRACE"
  | leftParen => "LPAREN"
  | rightParen => "RPAREN"
  | leftBracket => "LBRACKET"
  | rightBracket => "RBRACKET"
  | semicolon => "SEMICOLON"
  | comma => "COMMA"
  | assign => "ASSIGN"
  | colon => "TYPE_COLON"
  | plus => "ADD"
  | minus => "SUBTRACT"
  | times => "MULTIPLY"
  | divide => "DIVIDE"
  | modulo => "MODULO"
  | equal => "EQ"
  | notEqual => "NEQ"
  | less => "LT"
  | lessEqual => "LE"
  | greater => "GT"
  | greaterEqual => "GE"
  | andWord => "AND"
  | orWord => "OR"
  | notWord => "NOT"
  | identifier => "IDENTIFIER"
  | intLiteral => "INT_LIT"
  | floatLiteral => "FLOAT_LIT"
  | boolLiteral => "BOOL_LIT"
  | charLiteral => "CHAR_LIT"
  | stringLiteral => "STRING_LIT"
  | newline => "NEWLINE"
  | endOfInput => "EOF"

/-- Every kind, in order. -/
def all : List Kind :=
  [.intType, .floatType, .boolType, .charType, .stringType, .arrayType, .varWord, .ifWord,
    .elseWord, .loopWord, .toWord, .whileWord, .printWord, .inputWord, .funWord, .returnWord,
    .leftBrace, .rightBrace, .leftParen, .rightParen, .leftBracket, .rightBracket, .semicolon,
    .comma, .assign, .colon, .plus, .minus, .times, .divide, .modulo, .equal, .notEqual, .less,
    .lessEqual, .greater, .greaterEqual, .andWord, .orWord, .notWord, .identifier,
    .intLiteral, .floatLiteral, .boolLiteral, .charLiteral, .stringLiteral, .newline,
    .endOfInput]

/-- The kind of that name. -/
def ofName? (name : String) : Option Kind := all.find? fun kind => kind.name = name

/-- No kind is missing from the list. -/
theorem mem_all (kind : Kind) : kind ∈ all := by cases kind <;> decide

/-- A kind is found by its name. -/
theorem ofName?_name (kind : Kind) : ofName? kind.name = some kind := by cases kind <;> rfl

end Kind

end LoopLex
