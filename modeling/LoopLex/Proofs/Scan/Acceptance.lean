/-
**Which texts are scanned**: those that can be cut into blanks and longest words.

A word that a scan takes is the longest one there, it does not run into a letter if it is a number,
and it is not too long if it is an integer. So taking a text is cutting it, and the lexemes of the
tokens are the words of the one cutting that the text has.

* `Shape.Reads.longestWord` and `exists_reads_of_longestWord` — what is read is a longest word;
* `Takes.exists_pieces` and `exists_takes_of_pieces` — a text that is taken is one that is cut;
* `scan_accepts_iff_pieces` — a scan succeeds on the texts that have a cutting.
-/

import LoopLex.Proofs.Scan.Taking
import LoopLex.Proofs.Word.LongestWord
import Mathlib.Control.Monad.Basic

namespace LoopLex

open Unicode (isDigit isLetter)

/-! ### Words that are read -/

theorem Shape.Fits.numberWord_iff {shape : Shape} {word : List Char} (fits : shape.Fits word) :
    NumberWord word ↔ shape.isNumber = true := by
  constructor
  · rintro (run | ⟨whole, digits, left, right, rfl⟩)
    · rw [fits.unique (.integer run)]
      rfl
    · rw [fits.unique (.fraction left right)]
      rfl
  · intro number
    cases fits with
    | integer run => exact .inl run
    | fraction left right => exact .inr ⟨_, _, left, right, rfl⟩
    | _ => cases number

theorem Shape.Reads.longestWord {shape : Shape} {word rest : List Char}
    (reads : shape.Reads word rest) : LongestWord (word ++ rest) word :=
  longestWord_append_iff.mpr ⟨shape, reads.fits, reads.ends⟩

theorem Shape.Reads.apart_of_numberWord {shape : Shape} {word rest : List Char}
    (reads : shape.Reads word rest) (number : NumberWord word) :
    ∀ c ∈ rest.head?, isLetter c = false := by
  have apart := reads.apart (reads.fits.numberWord_iff.mp number)
  exact (Option.any_eq_false _ _).mp apart

/-- **A longest word that does not run into a letter is read, and has a meaning.** -/
theorem exists_reads_of_longestWord {word rest : List Char}
    (longest : LongestWord (word ++ rest) word)
    (apart : NumberWord word → ∀ c ∈ rest.head?, isLetter c = false)
    (short : DigitRun word → word.length ≤ Numeral.maxDigits) :
    ∃ (shape : Shape) (kind : Kind) (literal : Option Literal),
      shape.Reads word rest ∧ shape.decode word = .ok (kind, literal) := by
  obtain ⟨shape, fits, ends⟩ := longestWord_append_iff.mp longest
  have reads : shape.Reads word rest := ⟨fits, ends, fun number =>
    (Option.any_eq_false _ _).mpr (apart (fits.numberWord_iff.mpr number))⟩
  have fewer : shape = .integer → word.length ≤ Numeral.maxDigits := by
    rintro rfl
    cases fits with
    | integer run => exact short run
  obtain ⟨kind, literal, decoded⟩ := fits.exists_decode fewer
  exact ⟨shape, kind, literal, reads, decoded⟩

theorem Shape.Reads.length_le {shape : Shape} {word rest : List Char}
    {value : Kind × Option Literal} (reads : shape.Reads word rest)
    (decoded : shape.decode word = .ok value) (run : DigitRun word) :
    word.length ≤ Numeral.maxDigits := by
  obtain rfl := reads.fits.unique (.integer run)
  exact length_le_of_decode run decoded

/-! ### Taking a text is cutting it -/

namespace Scan

/-- **A text that is taken to its end is cut, and its tokens are the words.** -/
theorem Takes.exists_pieces {place : Position} {text : List Char} {tokens : List Token}
    (takes : Takes place text [] tokens) :
    ∃ pieces, Pieces text pieces ∧
      tokens.map (·.lexeme) = (pieces.filterMap Piece.word?).map String.ofList := by
  generalize done : [] = rest at takes
  induction takes with
  | nil place rest => exact ⟨[], .nil, rfl⟩
  | @blank place c text rest tokens blank later ih =>
    obtain ⟨pieces, cut, same⟩ := ih done
    exact ⟨.blank c :: pieces, .blank blank cut, same⟩
  | @word place shape word text rest kind literal tokens reads decoded later ih =>
    obtain ⟨pieces, cut, same⟩ := ih done
    subst done
    rw [List.append_nil] at reads
    refine ⟨.word word :: pieces, .word reads.longestWord reads.apart_of_numberWord
      (reads.length_le decoded) cut, ?_⟩
    rw [List.map_cons, same]
    rfl

/-- **A text that is cut is taken to its end**, from any place on. -/
theorem exists_takes_of_pieces {text : List Char} {pieces : List Piece}
    (cut : Pieces text pieces) (place : Position) : ∃ tokens, Takes place text [] tokens := by
  induction cut generalizing place with
  | nil => exact ⟨[], .nil place []⟩
  | @blank c text pieces blank rest ih =>
    obtain ⟨tokens, takes⟩ := ih (place.after c)
    exact ⟨tokens, .blank blank takes⟩
  | @word word text pieces longest apart short rest ih =>
    obtain ⟨shape, kind, literal, reads, decoded⟩ :=
      exists_reads_of_longestWord longest apart short
    obtain ⟨tokens, takes⟩ := ih (place.afterText word)
    rw [← List.append_nil text] at reads
    exact ⟨_, .word reads decoded takes⟩

/-- **A scan succeeds on the texts that have a cutting into blanks and longest words.** A text has
one cutting at most, and the lexemes of its tokens are the words of the cutting, in order, with that
of the end of input behind them. -/
theorem scan_accepts_iff_pieces (source : String) (options : Options) :
    ((∃ tokens, scan source options = .ok { tokens }) ↔ ∃ pieces, Pieces source.toList pieces) ∧
      ∀ pieces, Pieces source.toList pieces →
        (∀ others, Pieces source.toList others → others = pieces) ∧
        ∀ tokens, scan source options = .ok { tokens } →
          tokens.map (·.lexeme) =
            (pieces.filterMap Piece.word?).map String.ofList ++ [Token.endLexeme] := by
  refine ⟨⟨?_, ?_⟩, ?_⟩
  · rintro ⟨tokens, done⟩
    obtain ⟨words, takes, _⟩ := scan_eq_ok_iff.mp done
    obtain ⟨pieces, cut, _⟩ := takes.exists_pieces
    exact ⟨pieces, cut⟩
  · rintro ⟨pieces, cut⟩
    obtain ⟨words, takes⟩ :=
      exists_takes_of_pieces cut (.startOf options.lineNumber)
    exact ⟨_, scan_eq_ok_iff.mpr ⟨words, takes, rfl⟩⟩
  · intro pieces cut
    refine ⟨fun others other => other.unique cut, ?_⟩
    intro tokens done
    obtain ⟨words, takes, rfl⟩ := scan_eq_ok_iff.mp done
    obtain ⟨others, other, same⟩ := takes.exists_pieces
    rw [List.map_append, same, other.unique cut]
    rfl

/-- Words that touch each other, and a quote between quotes. -/
theorem scan_accepts_touching_words :
    ∃ tokens pieces, scan "3_<=='''\t" ⟨"f", 1⟩ = .ok { tokens } ∧
      Pieces "3_<=='''\t".toList pieces ∧
      (pieces.filterMap Piece.word?).map String.ofList ++ [Token.endLexeme] =
        ["3", "_", "<=", "=", "'''", "\x00"] := by
  have done : scan "3_<=='''\t" ⟨"f", 1⟩ = .ok
      { tokens := [⟨.intLiteral, "3", some (.int 3), 1, 1, 1⟩, ⟨.identifier, "_", none, 1, 2, 2⟩,
        ⟨.lessEqual, "<=", none, 1, 3, 4⟩, ⟨.assign, "=", none, 1, 5, 5⟩,
        ⟨.charLiteral, "'''", some (.text "'"), 1, 6, 8⟩,
        ⟨.endOfInput, "\x00", none, 1, 10, 10⟩] } := by
    decide +kernel
  have accepts := scan_accepts_iff_pieces "3_<=='''\t" ⟨"f", 1⟩
  obtain ⟨pieces, cut⟩ := accepts.1.mp ⟨_, done⟩
  exact ⟨_, pieces, done, cut, ((accepts.2 pieces cut).2 _ done).symm⟩

end Scan

end LoopLex
