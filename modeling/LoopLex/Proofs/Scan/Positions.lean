/-
**Where tokens stand.** Lines and columns of tokens are those of their offsets in the source.

Every token is a slice of the source, and shows the place of its first character and the column of
its last one, which is never a newline. The slices stand one behind the other, and what lies between
them is blank.

* `Token.Spans` — a token is a slice of a text and shows the right places;
* `Spread` — tokens are slices of a part of a text, one behind the other, with blanks between;
* `Takes.exists_spread` — the tokens that are taken of a text are spread over it;
* `Takes.pairwise` — their places ascend;
* `scan_places_tokens` — the tokens of a scan.
-/

import LoopLex.Proofs.Scan.Taking
import LoopLex.Proofs.Text.Order
import Mathlib.Data.List.Forall2

namespace LoopLex

open Unicode (isDigit)

/-! ### The last character of a word -/

theorem exists_concat_of_forall {word : List Char} (nonempty : word ≠ [])
    (noNewline : ∀ c ∈ word, c ≠ '\n') : ∃ init last, word = init ++ [last] ∧ last ≠ '\n' :=
  ⟨word.dropLast, word.getLast nonempty, (List.dropLast_concat_getLast nonempty).symm,
    noNewline _ (List.getLast_mem nonempty)⟩

theorem ne_newline_of_isDigit {c : Char} (digit : isDigit c = true) : c ≠ '\n' := by
  rintro rfl
  exact absurd digit (by decide)

theorem ne_newline_of_isNamePart {c : Char} (part : isNamePart c = true) : c ≠ '\n' := by
  rintro rfl
  exact absurd part (by decide)

/-- **No word ends with a newline**, though strings and character literals can hold some. -/
theorem Shape.Fits.exists_concat {shape : Shape} {word : List Char} (fits : shape.Fits word) :
    ∃ init last, word = init ++ [last] ∧ last ≠ '\n' := by
  have singles : ∀ entry ∈ Vocabulary.singles, entry.1 ≠ '\n' := by decide
  have suffixed : ∀ entry ∈ Vocabulary.equalsSuffix, entry.1 ≠ '\n' := by decide
  have nonempty := fits.ne_nil
  cases fits with
  | @single c kind known => exact ⟨[], c, rfl, singles _ known⟩
  | @plain c kind withEquals known => exact ⟨[], c, rfl, suffixed _ known⟩
  | @withEquals c plain kind known => exact ⟨[c], '=', rfl, by decide⟩
  | notEqual => exact ⟨['!'], '=', rfl, by decide⟩
  | @string inner unquoted => exact ⟨'"' :: inner, '"', rfl, by decide⟩
  | char c => exact ⟨['\'', c], '\'', rfl, by decide⟩
  | integer run =>
    exact exists_concat_of_forall nonempty fun c member => ne_newline_of_isDigit (run.2 c member)
  | fraction left right =>
    apply exists_concat_of_forall nonempty
    intro c member
    rcases List.mem_append.mp member with front | back
    · exact ne_newline_of_isDigit (left.2 c front)
    · rcases List.mem_cons.mp back with rfl | back
      · decide
      · exact ne_newline_of_isDigit (right.2 c back)
  | @name first more start parts =>
    apply exists_concat_of_forall nonempty
    intro c member
    rcases List.mem_cons.mp member with rfl | later
    · apply ne_newline_of_isNamePart
      rw [isNamePart, start]
      rfl
    · exact ne_newline_of_isNamePart (parts c later)

/-! ### Slices of a text -/

/-- The place of a token's first character, as the token shows it. -/
def Token.place (token : Token) : Position := ⟨token.line, token.columnStart⟩

/-- A token is the slice of `text` between two offsets. It shows the place of the first character
and the column of the last one, counted from line `line` at the start of the text. -/
structure Token.Spans (line : Int) (text : List Char) (token : Token) (span : Nat × Nat) :
    Prop where
  nonempty : span.1 < span.2
  within : span.2 ≤ text.length
  lexeme : token.lexeme.toList = (text.take span.2).drop span.1
  start : token.place = .behind line (text.take span.1)
  stop : token.columnEnd = (Position.behind line (text.take (span.2 - 1))).column

/-- Tokens are slices of `text` between the offsets `first` and `last`, one behind the other, and
every character there that is in none of them is blank. -/
structure Spread (line : Int) (text : List Char) (first last : Nat) (tokens : List Token)
    (spans : List (Nat × Nat)) : Prop where
  exact : List.Forall₂ (Token.Spans line text) tokens spans
  ascending : spans.Pairwise fun earlier later => earlier.2 ≤ later.1
  within : ∀ span ∈ spans, first ≤ span.1 ∧ span.2 ≤ last
  blank : ∀ offset c, first ≤ offset → offset < last → text[offset]? = some c →
    (∀ span ∈ spans, ¬ (span.1 ≤ offset ∧ offset < span.2)) → c ∈ Vocabulary.blanks

namespace Spread

variable {line : Int} {text : List Char} {first middle last : Nat} {tokens : List Token}
  {spans : List (Nat × Nat)}

theorem nil (line : Int) (text : List Char) (offset : Nat) :
    Spread line text offset offset [] [] where
  exact := .nil
  ascending := .nil
  within span member := by cases member
  blank other c low high := absurd high (Nat.not_lt.mpr low)

theorem cons_blank {c : Char} (found : text[first]? = some c) (blank : c ∈ Vocabulary.blanks)
    (spread : Spread line text (first + 1) last tokens spans) :
    Spread line text first last tokens spans where
  exact := spread.exact
  ascending := spread.ascending
  within span member := ⟨Nat.le_of_succ_le (spread.within span member).1,
    (spread.within span member).2⟩
  blank offset d low high there outside := by
    rcases Nat.eq_or_lt_of_le low with rfl | later
    · obtain rfl : c = d := Option.some.inj (found.symm.trans there)
      exact blank
    · exact spread.blank offset d later high there outside

theorem cons_token {token : Token} (spans_token : token.Spans line text (first, middle))
    (reach : middle ≤ last) (spread : Spread line text middle last tokens spans) :
    Spread line text first last (token :: tokens) ((first, middle) :: spans) where
  exact := .cons spans_token spread.exact
  ascending := List.pairwise_cons.mpr
    ⟨fun span member => (spread.within span member).1, spread.ascending⟩
  within span member := by
    have shorter : first < middle := spans_token.nonempty
    rcases List.mem_cons.mp member with rfl | later
    · exact ⟨Nat.le_refl first, reach⟩
    · have inside := spread.within span later
      exact ⟨by omega, inside.2⟩
  blank offset c low high there outside := by
    have notFirst := outside (first, middle) List.mem_cons_self
    have beyond : middle ≤ offset := Nat.le_of_not_lt fun inside => notFirst ⟨low, inside⟩
    exact spread.blank offset c beyond high there fun span member =>
      outside span (List.mem_cons_of_mem _ member)

end Spread

namespace Scan

/-- **A word that is taken is a slice of the text.** -/
theorem spans_ofWord {shape : Shape} {line : Int} {front word rest : List Char}
    (fits : shape.Fits word) (kind : Kind) (literal : Option Literal) :
    (Token.ofWord (.behind line front) word kind literal).Spans line (front ++ (word ++ rest))
      (front.length, front.length + word.length) := by
  obtain ⟨init, last, rfl, noNewline⟩ := fits.exists_concat
  have beforeLast : (front ++ (init ++ [last] ++ rest)).take
      (front.length + (init ++ [last]).length - 1) = front ++ init := by
    have count : front.length + (init ++ [last]).length - 1 = (front ++ init).length := by
      simp only [List.length_append, List.length_singleton]
      omega
    rw [count, List.append_assoc, ← List.append_assoc front, List.take_left]
  refine ⟨?_, ?_, ?_, ?_, ?_⟩
  · simp
  · simp only [List.length_append]
    omega
  · rw [← List.append_assoc, ← List.length_append, List.take_left, List.drop_left]
    exact String.toList_ofList
  · rw [List.take_left]
    rfl
  · rw [beforeLast, Position.behind_append]
    show ((Position.behind line front).afterText (init ++ [last])).column - 1 = _
    rw [Position.afterText_concat _ _ noNewline]
    exact Int.add_sub_cancel _ 1

end Scan

/-- Behind a blank in front, tokens are spread over the text with the blank as well. -/
theorem Spread.of_behind_blank {line : Int} {front text rest : List Char} {c : Char}
    {tokens : List Token} {spans : List (Nat × Nat)} (blank : c ∈ Vocabulary.blanks)
    (spread : Spread line (front ++ [c] ++ (text ++ rest)) (front ++ [c]).length
      ((front ++ [c]).length + text.length) tokens spans) :
    Spread line (front ++ (c :: text ++ rest)) front.length (front.length + (c :: text).length)
      tokens spans := by
  have whole : front ++ [c] ++ (text ++ rest) = front ++ (c :: text ++ rest) := by
    rw [List.append_assoc]
    rfl
  have reach : (front ++ [c]).length + text.length = front.length + (c :: text).length := by
    simp only [List.length_append, List.length_cons, List.length_nil]
    omega
  have found : (front ++ (c :: text ++ rest))[front.length]? = some c := by
    rw [List.getElem?_append_right (Nat.le_refl _), Nat.sub_self]
    rfl
  rw [whole, reach, List.length_append] at spread
  exact spread.cons_blank found blank

/-- Behind a word, tokens are spread over the text with the word, the word being one of them. -/
theorem Spread.of_behind_word {shape : Shape} {line : Int} {front word text rest : List Char}
    {tokens : List Token} {spans : List (Nat × Nat)} (fits : shape.Fits word) (kind : Kind)
    (literal : Option Literal)
    (spread : Spread line (front ++ word ++ (text ++ rest)) (front ++ word).length
      ((front ++ word).length + text.length) tokens spans) :
    Spread line (front ++ (word ++ text ++ rest)) front.length
      (front.length + (word ++ text).length)
      (.ofWord (.behind line front) word kind literal :: tokens)
      ((front.length, front.length + word.length) :: spans) := by
  have whole : front ++ word ++ (text ++ rest) = front ++ (word ++ text ++ rest) := by
    simp only [List.append_assoc]
  have reach : (front ++ word).length + text.length = front.length + (word ++ text).length := by
    simp only [List.length_append]
    omega
  have slice : (Token.ofWord (.behind line front) word kind literal).Spans line
      (front ++ (word ++ text ++ rest)) (front.length, front.length + word.length) := by
    rw [List.append_assoc word]
    exact Scan.spans_ofWord fits kind literal
  rw [whole, reach, List.length_append] at spread
  refine spread.cons_token slice ?_
  rw [List.length_append]
  omega

namespace Scan

/-- **The tokens that are taken of a text are spread over it.** -/
theorem Takes.exists_spread {line : Int} {front text rest : List Char} {tokens : List Token}
    (takes : Takes (.behind line front) text rest tokens) :
    ∃ spans, Spread line (front ++ (text ++ rest)) front.length (front.length + text.length)
      tokens spans := by
  generalize start : Position.behind line front = place at takes
  induction takes generalizing front with
  | nil place rest => exact ⟨[], .nil line _ _⟩
  | @blank place c text rest tokens blank later ih =>
    have next : Position.behind line (front ++ [c]) = place.after c := by
      rw [Position.behind_append_singleton, start]
    obtain ⟨spans, spread⟩ := ih next
    exact ⟨spans, .of_behind_blank blank spread⟩
  | @word place shape word text rest kind literal tokens reads decoded later ih =>
    have next : Position.behind line (front ++ word) = place.afterText word := by
      rw [Position.behind_append, start]
    obtain ⟨spans, spread⟩ := ih next
    subst start
    exact ⟨_, .of_behind_word reads.fits kind literal spread⟩

/-! ### The places of tokens ascend -/

/-- What is taken from a place on, and the end of input behind it, stands there or further on. -/
theorem Takes.reaches {place : Position} {text rest : List Char} {tokens : List Token}
    (takes : Takes place text rest tokens) :
    ∀ token ∈ tokens ++ [.endOfInput (place.afterText text)], place.Reaches token.place := by
  induction takes with
  | nil place rest =>
    intro token member
    rw [List.mem_singleton.mp member]
    exact .refl place
  | @blank place c text rest tokens blank later ih =>
    intro token member
    exact .inr ((Position.precedes_after place c).trans_reaches (ih token member))
  | @word place shape word text rest kind literal tokens reads decoded later ih =>
    intro token member
    rcases List.mem_cons.mp member with rfl | member
    · exact .refl place
    · rw [Position.afterText_append] at member
      exact .inr ((Position.precedes_afterText place reads.fits.ne_nil).trans_reaches
        (ih token member))

/-- A token that starts where a word ends, or further on, stands behind the word. -/
theorem ofWord_before {shape : Shape} {place : Position} {word : List Char} {kind : Kind}
    {literal : Option Literal} {later : Token} (fits : shape.Fits word)
    (behind : (place.afterText word).Reaches later.place) :
    place.Precedes later.place ∧ (place.line = later.line →
      (Token.ofWord place word kind literal).columnEnd < later.columnStart) := by
  refine ⟨(Position.precedes_afterText place fits.ne_nil).trans_reaches behind, ?_⟩
  intro sameLine
  obtain ⟨init, last, rfl, noNewline⟩ := fits.exists_concat
  have front : place.line ≤ (place.afterText init).line :=
    (Position.reaches_afterText place init).line_le
  show (place.afterText (init ++ [last])).column - 1 < later.place.column
  rw [Position.afterText_concat _ _ noNewline] at behind ⊢
  have back : (place.afterText init).line ≤ later.line := behind.line_le
  have right : (place.afterText init).column + 1 ≤ later.place.column :=
    behind.column_le (show (place.afterText init).line = later.line by omega)
  show (place.afterText init).column + 1 - 1 < later.place.column
  omega

/-- **The tokens that are taken of a text, and the end of input, ascend.** -/
theorem Takes.pairwise {place : Position} {text rest : List Char} {tokens : List Token}
    (takes : Takes place text rest tokens) :
    (tokens ++ [Token.endOfInput (place.afterText text)]).Pairwise fun earlier later =>
      earlier.place.Precedes later.place ∧
        (earlier.line = later.line → earlier.columnEnd < later.columnStart) := by
  induction takes with
  | nil place rest => exact List.pairwise_singleton _ _
  | blank blank later ih => exact ih
  | word reads decoded later ih =>
    rw [Position.afterText_append]
    refine List.pairwise_cons.mpr ⟨?_, ih⟩
    intro token member
    exact ofWord_before reads.fits (later.reaches token member)

/-- **The tokens of a scan are slices of the source, one behind the other, with blanks between, and
show the places of their first and last characters.** The end of input stands at the end of the
source. So tokens ascend by line and column, and do not overlap on a line. -/
theorem scan_places_tokens {source : String} {options : Options} {tokens : List Token}
    (done : scan source options = .ok { tokens }) :
    (∃ words spans,
      tokens = words ++ [.endOfInput (.behind options.lineNumber source.toList)] ∧
        Spread options.lineNumber source.toList 0 source.toList.length words spans) ∧
      tokens.Pairwise fun earlier later =>
        (earlier.line < later.line ∨
          earlier.line = later.line ∧ earlier.columnStart < later.columnStart) ∧
        (earlier.line = later.line → earlier.columnEnd < later.columnStart) := by
  obtain ⟨words, takes, rfl⟩ := scan_eq_ok_iff.mp done
  refine ⟨?_, ?_⟩
  · have fromStart : Takes (.behind options.lineNumber []) source.toList [] words := by
      rw [← Position.afterText_startOf]
      exact takes
    obtain ⟨spans, spread⟩ := fromStart.exists_spread
    rw [List.nil_append, List.append_nil, List.length_nil, Nat.zero_add] at spread
    exact ⟨words, spans, rfl, spread⟩
  · rw [← Position.afterText_startOf]
    refine takes.pairwise.imp fun ordered => ⟨?_, ordered.2⟩
    rcases ordered.1 with above | left
    · exact .inl above.1
    · exact .inr left

/-- Literals with newlines in them, between blanks, from a line in front of the first. -/
theorem scan_places_literals :
    ∃ tokens, scan "\t'\n' \"a\nb\"=\n " ⟨"f", -1⟩ = .ok { tokens } ∧
      (∃ words spans,
        tokens = words ++ [.endOfInput (.behind (-1) "\t'\n' \"a\nb\"=\n ".toList)] ∧
          Spread (-1) "\t'\n' \"a\nb\"=\n ".toList 0 "\t'\n' \"a\nb\"=\n ".toList.length words
            spans) ∧
      tokens.Pairwise fun earlier later =>
        (earlier.line < later.line ∨
          earlier.line = later.line ∧ earlier.columnStart < later.columnStart) ∧
        (earlier.line = later.line → earlier.columnEnd < later.columnStart) := by
  have done : scan "\t'\n' \"a\nb\"=\n " ⟨"f", -1⟩ = .ok
      { tokens := [⟨.charLiteral, "'\n'", some (.text "\n"), -1, 2, 1⟩,
        ⟨.stringLiteral, "\"a\nb\"", some (.text "a\nb"), 0, 3, 2⟩, ⟨.assign, "=", none, 1, 3, 3⟩,
        ⟨.endOfInput, "\x00", none, 2, 2, 2⟩] } := by
    decide +kernel
  exact ⟨_, done, scan_places_tokens done⟩

end Scan

end LoopLex
