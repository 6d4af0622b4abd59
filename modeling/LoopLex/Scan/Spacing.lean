/-
**Words laid out with gaps between them**, and which words need a gap.

A gap is any run of blanks, and may be empty. A word runs into the next one if there is no gap and
the first character of the next one could belong to it, or must not follow it.

* `Kind.runsInto` — the characters that words of a kind run into;
* `Lone` and `Spaced` — a text that is one word by itself, and one with a gap behind it;
* `spaced` — words with their gaps as one text;
* `KeepsTokens` — the scan of that text has the tokens of the words.
-/

import LoopLex.Scan.Basic

namespace LoopLex

open Unicode (isDigit isLetter)

/-- The kinds of words that are spelled like names. -/
def Vocabulary.nameKinds : List Kind := .identifier :: .boolLiteral :: Vocabulary.keywordKinds

/-- Whether a word of the kind runs into a `c` right behind it. -/
def Kind.runsInto (kind : Kind) (c : Char) : Bool :=
  Vocabulary.nameKinds.contains kind && isNamePart c ||
    [.intLiteral, .floatLiteral].contains kind && (isLetter c || isDigit c) ||
    [.assign, .less, .greater].contains kind && c = '='

/-- What a token says apart from its place: kind, lexeme and value. -/
def Token.content (token : Token) : Kind × String × Option Literal :=
  (token.kind, token.lexeme, token.literal)

namespace Scan

/-- A text that is one word by itself, with the token of that word. -/
structure Lone where
  word : List Char
  token : Token
  /-- The scan of the text has the token and the end of input. -/
  alone : ∃ options last, scan (.ofList word) options = .ok { tokens := [token, last] }
  /-- The word is all of the text. -/
  whole : token.lexeme = .ofList word

/-- A word with a gap behind it. -/
structure Spaced extends Lone where
  gap : List Char
  blank : ∀ c ∈ gap, c ∈ Vocabulary.blanks

/-- Words with the gaps behind them, and a gap in front. -/
def spaced (gap : List Char) (entries : List Spaced) : List Char :=
  gap ++ entries.flatMap fun entry => entry.word ++ entry.gap

/-- There is no gap between two words, and the first runs into the second. -/
def Spaced.RunsInto (first next : Spaced) : Prop :=
  first.gap = [] ∧ next.word.head?.any first.token.kind.runsInto = true

/-- The same word with as much of a gap behind it: none only where there was none. -/
structure Spaced.Widened (before after : Spaced) : Prop where
  same : after.toLone = before.toLone
  room : after.gap = [] → before.gap = []

/-- The scan of the words with their gaps has the tokens of the words, at whatever places. -/
def KeepsTokens (gap : List Char) (entries : List Spaced) (options : Options) : Prop :=
  ∃ tokens place,
    scan (.ofList (spaced gap entries)) options =
      .ok { tokens := tokens ++ [.endOfInput place] } ∧
    tokens.map (·.content) = entries.map (·.token.content)

end Scan

end LoopLex
