/-
**Causes of lexical errors**: why no token starts at a place of a source text.

The wording can tell how many digits a number has. That counts characters, and is never too long to
be written.

* `Cause` — what is wrong, one constructor for each wording;
* `Cause.rule` — the rule that is broken, one of four;
* `Cause.description` and `Cause.hint?` — the wording of the message.
-/

namespace LoopLex

/-- A rule that source text can break. -/
inductive Rule where
  | unexpectedCharacter | unterminatedString | unterminatedChar | malformedNumber
deriving DecidableEq, Repr

namespace Rule

/-- The name of the rule in output. -/
def name : Rule → String
  | unexpectedCharacter => "UNEXPECTED_CHARACTER"
  | unterminatedString => "UNTERMINATED_STRING"
  | unterminatedChar => "UNTERMINATED_CHAR"
  | malformedNumber => "MALFORMED_NUMERIC_LITERAL"

/-- What breaks the rule, in words. -/
def label : Rule → String
  | unexpectedCharacter => "unexpected character"
  | unterminatedString => "unterminated string"
  | unterminatedChar => "unterminated char"
  | malformedNumber => "malformed numeric literal"

/-- Every rule, in order. -/
def all : List Rule :=
  [unexpectedCharacter, unterminatedString, unterminatedChar, malformedNumber]

end Rule

/-- Why no token starts at a place. -/
inductive Cause where
  /-- A `!` that no `=` follows. -/
  | strayBang
  /-- A character that starts no token. -/
  | strayCharacter
  /-- A string without its closing quote. -/
  | openString
  /-- A character literal without its character or its closing quote. -/
  | openChar
  /-- A letter directly after a number. -/
  | letterAfterNumber
  /-- An integer with that many digits, which is too many. -/
  | tooManyDigits (digits : Nat)
deriving DecidableEq, Repr

namespace Cause

/-- The rule that is broken. -/
def rule : Cause → Rule
  | strayBang | strayCharacter => .unexpectedCharacter
  | openString => .unterminatedString
  | openChar => .unterminatedChar
  | letterAfterNumber | tooManyDigits _ => .malformedNumber

/-- The cause in words. -/
def description : Cause → String
  | strayBang => "unexpected '!'"
  | strayCharacter => "unexpected character"
  | openString => "unterminated string literal"
  | openChar => "unterminated char literal"
  | letterAfterNumber => "character in number literal"
  | tooManyDigits digits => "integer literal too long (" ++ toString digits ++ " digits)"

/-- What helps, if there is a way. -/
def hint? : Cause → Option String
  | strayBang | strayCharacter => none
  | openString => some "add closing '\"' to complete the string"
  | openChar => some "char literals hold exactly one character, e.g. 'a'"
  | letterAfterNumber => some "separate the number from the name that follows it"
  | tooManyDigits _ => some "use a shorter integer literal"

end Cause

end LoopLex
