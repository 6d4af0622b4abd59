/-
**Which fault a scan stops with.** The first character at the place of a fault tells the rule that
is broken there, and the text behind it how far the fault reaches.

* `LongestNumber` — the longest number that a text starts with;
* `Fault.AccountsFor` — what a fault has to say of the character that it stands at;
* `Flaw.accountsFor` — the fault of a flaw says it;
* `scan_fault_classified` — so does the fault of a scan.
-/

import LoopLex.Proofs.Scan.Acceptance
import LoopLex.Proofs.Scan.Localisation

namespace LoopLex

open Unicode (isDigit isLetter)

/-! ### Numbers and words at the start of a text -/

/-- The longest number that `text` starts with. -/
structure LongestNumber (text number : List Char) : Prop where
  isNumber : NumberWord number
  leads : number <+: text
  longest : ∀ other, NumberWord other → other <+: text → other.length ≤ number.length

theorem NumberWord.isWord {text : List Char} (number : NumberWord text) : Word text := by
  rcases number with run | ⟨whole, digits, left, right, rfl⟩
  · exact .integer run
  · exact .fraction left right

theorem NumberWord.isDigit_head {c : Char} {more : List Char} (number : NumberWord (c :: more)) :
    isDigit c = true := by
  rcases number with run | ⟨whole, digits, left, right, split⟩
  · exact run.2 c List.mem_cons_self
  · cases whole with
    | nil => exact absurd rfl left.1
    | cons d whole =>
      cases split
      exact left.2 c List.mem_cons_self

/-- A number that ends before a text is the longest one there. -/
theorem Shape.Fits.longestNumber {shape : Shape} {number rest : List Char}
    (fits : shape.Fits number) (ends : shape.EndsBefore rest) (isNumber : shape.isNumber = true) :
    LongestNumber (number ++ rest) number := by
  have longest := longestWord_append_iff.mpr ⟨shape, fits, ends⟩
  exact ⟨fits.numberWord_iff.mpr isNumber, longest.leads,
    fun other isNumber leads => longest.longest other isNumber.isWord leads⟩

/-- No word starts with a character that is no opener and no part of a name. -/
theorem not_word_of_not_mem_openers {c : Char} (unknown : c ∉ openers)
    (noPart : isNamePart c = false) (more : List Char) : ¬ Word (c :: more) := by
  intro isWord
  obtain ⟨shape, fits⟩ := Shape.word_iff_fits.mp isWord
  obtain ⟨noStart, noDigit⟩ := Bool.or_eq_false_iff.mp noPart
  have read := fits.read_alone
  rw [Head.read_of_not_mem_openers more unknown, noStart, noDigit] at read
  cases read

/-! ### What a fault says -/

/-- What a fault says of the character `c` that it stands at, with the text `ahead` behind it. -/
structure Fault.AccountsFor (fault : Fault) (c : Char) (ahead : List Char) : Prop where
  /-- A string that is not closed reaches to the end. -/
  atDoubleQuote : c = '"' →
    fault.cause.rule = .unterminatedString ∧ '"' ∉ ahead ∧ fault.near.toList = c :: ahead
  /-- A character literal is not closed two characters behind its quote. Nothing but the quote is
  near where the text ends before that, or has a NUL there. -/
  atSingleQuote : c = '\'' →
    fault.cause.rule = .unterminatedChar ∧ ahead[1]? ≠ some '\'' ∧
      fault.near.toList =
        if ahead.length < 2 ∨ ahead[1]? = some '\x00' then [c] else (c :: ahead).take 2
  /-- A number runs into a letter. If it does not, it is an integer with too many digits. -/
  atDigit : isDigit c = true →
    fault.cause.rule = .malformedNumber ∧
      ∃ number rest, c :: ahead = number ++ rest ∧ fault.near.toList = number ∧
        LongestNumber (c :: ahead) number ∧
        (rest.head?.any isLetter = true ∧
            fault.cause.description = "character in number literal" ∨
          rest.head?.any isLetter = false ∧ DigitRun number ∧ 4300 < number.length ∧
            fault.cause.description =
              "integer literal too long (" ++ toString number.length ++ " digits)" ∧
            fault.cause.hint? = some "use a shorter integer literal")
  /-- Any other character is near alone: a `!` without its `=`, or one that starts no word. -/
  elsewhere : c ≠ '"' → c ≠ '\'' → isDigit c = false →
    fault.cause.rule = .unexpectedCharacter ∧ fault.near.toList = [c] ∧
      (c = '!' ∧ ahead.head? ≠ some '=' ∧ fault.cause.description = "unexpected '!'" ∨
        c ≠ '!' ∧ c ∉ Vocabulary.blanks ∧ (∀ more, ¬ Word (c :: more)) ∧
          fault.cause.description = "unexpected character")

namespace Fault.AccountsFor

variable {fault : Fault} {c : Char} {ahead : List Char}

theorem of_doubleQuote (rule : fault.cause.rule = .unterminatedString) (unquoted : '"' ∉ ahead)
    (near : fault.near.toList = '"' :: ahead) : fault.AccountsFor '"' ahead where
  atDoubleQuote _ := ⟨rule, unquoted, near⟩
  atSingleQuote equal := absurd equal (by decide)
  atDigit digit := absurd digit (by decide)
  elsewhere other := absurd rfl other

theorem of_singleQuote (rule : fault.cause.rule = .unterminatedChar)
    (unclosed : ahead[1]? ≠ some '\'')
    (near : fault.near.toList =
      if ahead.length < 2 ∨ ahead[1]? = some '\x00' then ['\''] else ('\'' :: ahead).take 2) :
    fault.AccountsFor '\'' ahead where
  atDoubleQuote equal := absurd equal (by decide)
  atSingleQuote _ := ⟨rule, unclosed, near⟩
  atDigit digit := absurd digit (by decide)
  elsewhere _ other := absurd rfl other

theorem of_isDigit {number rest : List Char} (digit : isDigit c = true)
    (rule : fault.cause.rule = .malformedNumber) (split : c :: ahead = number ++ rest)
    (near : fault.near.toList = number) (longest : LongestNumber (c :: ahead) number)
    (blame : rest.head?.any isLetter = true ∧
        fault.cause.description = "character in number literal" ∨
      rest.head?.any isLetter = false ∧ DigitRun number ∧ 4300 < number.length ∧
        fault.cause.description =
          "integer literal too long (" ++ toString number.length ++ " digits)" ∧
        fault.cause.hint? = some "use a shorter integer literal") :
    fault.AccountsFor c ahead where
  atDoubleQuote := by
    rintro rfl
    exact absurd digit (by decide)
  atSingleQuote := by
    rintro rfl
    exact absurd digit (by decide)
  atDigit _ := ⟨rule, number, rest, split, near, longest, blame⟩
  elsewhere _ _ noDigit := absurd digit (Bool.eq_false_iff.mp noDigit)

theorem of_unexpected (noDouble : c ≠ '"') (noSingle : c ≠ '\'') (noDigit : isDigit c = false)
    (rule : fault.cause.rule = .unexpectedCharacter) (near : fault.near.toList = [c])
    (blame : c = '!' ∧ ahead.head? ≠ some '=' ∧ fault.cause.description = "unexpected '!'" ∨
      c ≠ '!' ∧ c ∉ Vocabulary.blanks ∧ (∀ more, ¬ Word (c :: more)) ∧
        fault.cause.description = "unexpected character") :
    fault.AccountsFor c ahead where
  atDoubleQuote equal := absurd equal noDouble
  atSingleQuote equal := absurd equal noSingle
  atDigit digit := absurd digit (Bool.eq_false_iff.mp noDigit)
  elsewhere _ _ _ := ⟨rule, near, blame⟩

end Fault.AccountsFor

/-! ### The fault of a flaw -/

section

variable {cause : Cause} {c : Char} {more rest : List Char} (filename : String) (place : Position)
  (before : List Char)

/-- An open string, an open character literal or a stray character, by its first character. -/
theorem Stray.accountsFor (stray : Stray cause (c :: more) rest) :
    (Fault.ofFlaw filename place before cause (c :: more) rest).AccountsFor c (more ++ rest) := by
  have near : (String.ofList (c :: more)).toList = c :: more := String.toList_ofList
  generalize equal : c :: more = text at stray near ⊢
  cases stray with
  | bang alone =>
    cases equal
    exact .of_unexpected (by decide) (by decide) (by decide) rfl near (.inl ⟨rfl, alone, rfl⟩)
  | character unknown noPart =>
    cases equal
    have other : ∀ opener ∈ openers, c ≠ opener := fun opener member equal =>
      unknown (equal ▸ member)
    have starts := not_word_of_not_mem_openers unknown noPart
    exact .of_unexpected (other _ (by decide)) (other _ (by decide))
      (Bool.or_eq_false_iff.mp noPart).2 rfl near
      (.inr ⟨other _ (by decide), not_blank_of_not_mem_openers unknown, starts, rfl⟩)
  | string unquoted =>
    cases equal
    rw [List.append_nil]
    exact .of_doubleQuote rfl unquoted near
  | charAtEnd short =>
    cases equal
    have ends : rest[1]? = none := List.getElem?_eq_none (Nat.le_of_lt_succ short)
    refine .of_singleQuote rfl ?_ ?_
    · rw [List.nil_append, ends]
      exact (Option.some_ne_none _).symm
    · rw [List.nil_append, if_pos (.inl short)]
      exact near
  | charBeforeNul d rest =>
    cases equal
    refine .of_singleQuote rfl (by simp) ?_
    rw [List.nil_append, if_pos (.inr rfl)]
    exact near
  | @char d next rest notNul notQuote =>
    cases equal
    refine .of_singleQuote rfl (by simpa using notQuote) ?_
    rw [if_neg]
    · exact near
    · rintro (short | nul)
      · rw [List.singleton_append, List.length_cons, List.length_cons] at short
        omega
      · exact notNul (Option.some.inj nul)

/-- **The fault of a flaw accounts for the character that it stands at.** -/
theorem Flaw.accountsFor (flaw : Flaw cause (c :: more) rest) :
    (Fault.ofFlaw filename place before cause (c :: more) rest).AccountsFor c (more ++ rest) := by
  cases flaw with
  | stray stray => exact stray.accountsFor filename place before
  | letter fits ends isNumber led =>
    have digit := (fits.numberWord_iff.mpr isNumber).isDigit_head
    exact .of_isDigit digit rfl rfl String.toList_ofList (fits.longestNumber ends isNumber)
      (.inl ⟨led, rfl⟩)
  | tooLong run reads long =>
    have digit := run.2 c List.mem_cons_self
    exact .of_isDigit digit rfl rfl String.toList_ofList (reads.fits.longestNumber reads.ends rfl)
      (.inr ⟨reads.apart rfl, run, long, rfl, rfl⟩)

end

/-- **The fault of a scan accounts for the character at its place**, which no other offset of the
source has. -/
theorem Scan.scan_fault_classified {source : String} {options : Options} {fault : Fault}
    (stopped : scan source options = .ok { fault := some fault }) :
    ∃ offset c ahead, source.toList.drop offset = c :: ahead ∧
      (∀ other ≤ source.toList.length,
        Position.behind options.lineNumber (source.toList.take other) = fault.place ↔
          other = offset) ∧
      fault.AccountsFor c ahead := by
  obtain ⟨⟨front, near, rest, words, cause, split, takes, flaw, rfl⟩, _⟩ :=
    scan_eq_fault_iff.mp stopped
  obtain ⟨c, more, rfl, _⟩ := flaw.exists_cons
  have located := locatedAt_of_flaw split takes flaw
  refine ⟨front.length, c, more ++ rest, ?_, ?_, ?_⟩
  · rw [split, List.drop_left]
    rfl
  · intro other within
    rw [located.place_eq]
    constructor
    · exact Position.eq_of_behind_take_eq within (Nat.le_of_lt located.within)
    · rintro rfl
      rfl
  · exact flaw.accountsFor options.filename (.behind options.lineNumber front) front

/-- A single quote with a NUL two characters behind it, and a quote after that. -/
theorem Scan.scan_fault_classified_before_nul :
    ∃ fault, scan "a\n 'b\x00'" ⟨"f", 1⟩ = .ok { fault := some fault } ∧ fault.near = "'" ∧
      ∃ offset c ahead, "a\n 'b\x00'".toList.drop offset = c :: ahead ∧
        (∀ other ≤ "a\n 'b\x00'".toList.length,
          Position.behind 1 ("a\n 'b\x00'".toList.take other) = fault.place ↔ other = offset) ∧
        fault.AccountsFor c ahead := by
  have stopped : scan "a\n 'b\x00'" ⟨"f", 1⟩ =
      .ok { fault := some ⟨.openChar, ⟨"f", 2, 2⟩, "'", " 'b\x00'"⟩ } := by
    decide +kernel
  exact ⟨_, stopped, rfl, scan_fault_classified stopped⟩

end LoopLex
