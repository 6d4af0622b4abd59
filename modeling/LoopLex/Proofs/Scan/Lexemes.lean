/-
**Every lexeme is scanned as its own token.** Cut out of its text and scanned by itself, the lexeme
of a token gives that token again, at the start of the first line.

A word is read at the end of a text as it is read in front of anything else, and its meaning is a
matter of its characters. Only its place is another one: the columns count from the start of the
lexeme, unless they count from a newline in it.

* `Token.columnEnd_ofWord_of_mem` and `Token.columnEnd_ofWord_of_not_mem` — the last column of a
  word, with a newline in it and without one;
* `scan_word` — the scan of a word by itself;
* `scan_lexeme_of_token` — the scan of the lexeme of any token of a scan.
-/

import LoopLex.Proofs.Scan.Taking
import LoopLex.Proofs.Text.Order
import Mathlib.Control.Monad.Basic

namespace LoopLex

variable {shape : Shape} {word : List Char} {kind : Kind} {literal : Option Literal}

/-! ### The last column of a word -/

/-- The last column of a word with a newline in it counts from there. -/
theorem Token.columnEnd_ofWord_of_mem (place other : Position) (newline : '\n' ∈ word) :
    (Token.ofWord place word kind literal).columnEnd =
      (Token.ofWord other word kind literal).columnEnd :=
  congrArg (· - 1) (Position.column_afterText_of_mem place other newline)

/-- The last column of any other word counts from its first character. -/
theorem Token.columnEnd_ofWord_of_not_mem (place : Position) (noNewline : '\n' ∉ word) :
    (Token.ofWord place word kind literal).columnEnd = place.column + word.length - 1 := by
  show (place.afterText word).column - 1 = _
  rw [Position.afterText_of_not_mem place noNewline]

/-! ### Words by themselves -/

namespace Scan

/-- **A word by itself is scanned as its token**, with the end of input behind it. -/
theorem scan_word (fits : shape.Fits word) (decoded : shape.decode word = .ok (kind, literal))
    (options : Options) :
    scan (.ofList word) options = .ok { tokens :=
      [.ofWord (.startOf options.lineNumber) word kind literal,
        .endOfInput (.behind options.lineNumber word)] } := by
  have takes : Takes (.startOf options.lineNumber) (word ++ []) []
      [.ofWord (.startOf options.lineNumber) word kind literal] :=
    .word fits.reads_nil decoded (.nil _ _)
  rw [List.append_nil, ← String.toList_ofList (l := word)] at takes
  have done := scan_eq_ok_iff.mpr ⟨_, takes, rfl⟩
  rw [String.toList_ofList] at done
  exact done

/-- **The lexeme of every token is scanned as the token**, with the end of input behind it. The
token stands at the start of the first line. Its last column is the same as before if a newline is
in it, and otherwise the number of its characters. -/
theorem scan_lexeme_of_token {source : String} {options : Options} {tokens : List Token}
    (done : scan source options = .ok { tokens }) :
    ∀ token ∈ tokens, token.kind ≠ .endOfInput → ∃ columnEnd : Int,
      scan token.lexeme {} = .ok { tokens :=
        [{ token with line := 1, columnStart := 1, columnEnd },
          .endOfInput ⟨1 + token.lexeme.toList.count '\n', columnEnd + 1⟩] } ∧
      ('\n' ∈ token.lexeme.toList → columnEnd = token.columnEnd) ∧
      ('\n' ∉ token.lexeme.toList →
        columnEnd = token.columnEnd - token.columnStart + 1 ∧ columnEnd = token.lexeme.length) := by
  obtain ⟨words, last, rfl, areWords⟩ := exists_words_of_scan done
  intro token member noEnd
  have isWord : token.IsWord := by
    rcases List.mem_append.mp member with word | end'
    · exact areWords token word
    · rw [List.mem_singleton.mp end'] at noEnd
      exact absurd rfl noEnd
  cases isWord with
  | @word shape word kind literal place fits decoded =>
    have alone := scan_word fits decoded {}
    have lexeme : (Token.ofWord place word kind literal).lexeme.toList = word :=
      String.toList_ofList
    have stop : (Token.ofWord (.startOf 1) word kind literal).columnEnd + 1 =
        (Position.behind 1 word).column := by
      rw [← Position.afterText_startOf]
      exact Int.sub_add_cancel _ 1
    rw [lexeme]
    refine ⟨(Token.ofWord (.startOf 1) word kind literal).columnEnd, ?_, ?_, ?_⟩
    · rw [stop]
      exact alone
    · exact fun newline => Token.columnEnd_ofWord_of_mem _ place newline
    · intro noNewline
      have here : (Token.ofWord place word kind literal).columnEnd =
          (Token.ofWord place word kind literal).columnStart + word.length - 1 :=
        Token.columnEnd_ofWord_of_not_mem place noNewline
      have there : (Token.ofWord (.startOf 1) word kind literal).columnEnd =
          1 + word.length - 1 :=
        Token.columnEnd_ofWord_of_not_mem (.startOf 1) noNewline
      have length : (Token.ofWord place word kind literal).lexeme.length = word.length :=
        String.length_ofList
      omega

/-- A name behind a tab, a character literal and a string that hold newlines, and a number in front
of a name. -/
theorem scan_lexeme_of_token_with_newline :
    ∃ tokens, scan "\t3_ '\n'\"a\nb\"" ⟨"f", -1⟩ = .ok { tokens } ∧
      ∃ first string, first ∈ tokens ∧ string ∈ tokens ∧ first.kind ≠ .endOfInput ∧
        string.kind ≠ .endOfInput ∧ '\n' ∉ first.lexeme.toList ∧ '\n' ∈ string.lexeme.toList ∧
        scan first.lexeme {} = .ok { tokens :=
          [{ first with line := 1, columnStart := 1, columnEnd := 1 }, .endOfInput ⟨1, 2⟩] } ∧
        scan string.lexeme {} = .ok { tokens :=
          [{ string with line := 1, columnStart := 1, columnEnd := 2 }, .endOfInput ⟨2, 3⟩] } := by
  have done : scan "\t3_ '\n'\"a\nb\"" ⟨"f", -1⟩ = .ok
      { tokens := [⟨.intLiteral, "3", some (.int 3), -1, 2, 2⟩, ⟨.identifier, "_", none, -1, 3, 3⟩,
        ⟨.charLiteral, "'\n'", some (.text "\n"), -1, 5, 1⟩,
        ⟨.stringLiteral, "\"a\nb\"", some (.text "a\nb"), 0, 2, 2⟩,
        ⟨.endOfInput, "\x00", none, 1, 3, 3⟩] } := by
    decide +kernel
  have rescans := scan_lexeme_of_token done
  obtain ⟨_, first, _, column⟩ := rescans ⟨.intLiteral, "3", some (.int 3), -1, 2, 2⟩ (by simp)
    (by decide)
  obtain ⟨_, string, column', _⟩ := rescans
    ⟨.stringLiteral, "\"a\nb\"", some (.text "a\nb"), 0, 2, 2⟩ (by simp) (by decide)
  obtain ⟨rfl, _⟩ := column (by decide)
  obtain rfl := column' (by decide)
  exact ⟨_, done, _, _, .head _, .tail _ (.tail _ (.tail _ (.head _))), by decide, by decide,
    by decide, by decide, first, string⟩

end Scan

end LoopLex
