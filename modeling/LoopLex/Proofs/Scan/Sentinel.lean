/-
**A NUL in a text is a character like any other.** Past its end a text shows NULs, but no scan takes
a NUL of the text for the end of it.

To see that, every NUL is replaced by the next character, U+0001, which is shown at no end. No rule
looks for it, and like NUL it is neither a letter nor a digit. So the scan of the text without NULs
takes the same pieces. Only at one place can a NUL of the text be told from another character, and
only by what is near an error: two characters behind the quote of an open character literal.

* `replaceNul`, `replaceNuls` and `Token.replaceNul` — the replacement in characters, texts, tokens;
* `respelling_replaceNul` — replacing NULs respells;
* `Flaw.near_of_nul` — the one exception;
* `scan_replaceNuls` — both outcomes of a scan.
-/

import LoopLex.Proofs.Scan.Localisation
import LoopLex.Proofs.Scan.Respelling

namespace LoopLex

/-! ### Replacing NULs -/

/-- U+0001 for NUL, and every other character for itself. -/
def replaceNul (c : Char) : Char := if c = '\x00' then '\x01' else c

/-- The text with every NUL replaced. -/
def replaceNuls (text : String) : String := String.ofList (text.toList.map replaceNul)

/-- The literal with every NUL of a text replaced. -/
def Literal.replaceNul : Literal → Literal
  | text value => text (replaceNuls value)
  | literal => literal

/-- The token with every NUL of its lexeme and of its literal replaced. The end of input has a NUL
for its lexeme that is not in the text. -/
def Token.replaceNul (token : Token) : Token :=
  if token.kind = .endOfInput then token
  else { token with
    lexeme := replaceNuls token.lexeme
    literal := token.literal.map Literal.replaceNul }

theorem replaceNul_of_ne {c : Char} (other : c ≠ '\x00') : replaceNul c = c := if_neg other

/-- **Replacing NULs respells.** No rule looks for NUL or U+0001, and neither is a digit. -/
theorem respelling_replaceNul : Respelling replaceNul where
  free c := by
    by_cases nul : c = '\x00'
    · subst nul
      exact .inr ⟨by decide, by decide⟩
    · exact .inl (replaceNul_of_ne nul)
  digitValue c := by
    by_cases nul : c = '\x00'
    · subst nul
      decide
    · rw [replaceNul_of_ne nul]
  nul c same := by
    by_contra notNul
    rw [replaceNul_of_ne notNul] at same
    exact notNul same

theorem Literal.respell_replaceNul : Literal.respell LoopLex.replaceNul = Literal.replaceNul := by
  funext literal
  cases literal <;> rfl

/-- Every token but the end of input is a word, and is respelled. -/
theorem Token.IsWord.respell_replaceNul {token : Token} (isWord : token.IsWord) :
    token.respell LoopLex.replaceNul = token.replaceNul := by
  rw [Token.replaceNul, if_neg isWord.kind_ne_endOfInput, Token.respell,
    Literal.respell_replaceNul]
  rfl

theorem map_replaceNul_append_endOfInput {words : List Token}
    (areWords : ∀ token ∈ words, token.IsWord) (place : Position) :
    (words ++ [Token.endOfInput place]).map Token.replaceNul =
      words.map (Token.respell replaceNul) ++ [.endOfInput place] := by
  have respelled : ∀ token ∈ words, token.respell replaceNul = token.replaceNul :=
    fun token member => (areWords token member).respell_replaceNul
  rw [List.map_append, List.map_congr_left respelled]
  rfl

/-! ### Whole texts -/

/-- The exception: nothing but the quote is near the fault, and without NULs the next character. -/
theorem Flaw.near_of_nul {near rest : List Char} (flaw : Flaw .openChar near rest)
    (nul : (near ++ rest)[2]? = some '\x00') :
    ∃ c more, near = ['\''] ∧ rest = c :: '\x00' :: more := by
  cases flaw with
  | stray stray =>
    cases stray with
    | charAtEnd short =>
      have ends : rest[1]? = none := List.getElem?_eq_none (Nat.le_of_lt_succ short)
      cases ends.symm.trans nul
    | charBeforeNul c more => exact ⟨c, more, rfl, rfl⟩
    | char c notNul => exact absurd (Option.some.inj nul) notNul

namespace Scan

variable {source : String} {options : Options} {cause : Cause}

theorem scan_replaceNuls_of_ok {tokens : List Token} (done : scan source options = .ok { tokens }) :
    scan (replaceNuls source) options = .ok { tokens := tokens.map Token.replaceNul } := by
  obtain ⟨words, place, rfl, areWords, respelled⟩ := scan_respell_of_ok respelling_replaceNul done
  rw [map_replaceNul_append_endOfInput areWords]
  exact respelled

/-- `other` is the fault of a text without its NULs if `fault` is that of the text `source`. -/
structure IsWithoutNuls (source : String) (options : Options) (fault other : Fault) : Prop where
  cause : other.cause = fault.cause
  location : other.location = fault.location
  sourceLine : other.sourceLine = replaceNuls fault.sourceLine
  /-- A NUL two characters behind the quote of an open character literal counts as the end of the
  text, and nothing but the quote is near the fault. -/
  near : ∃ offset, fault.LocatedAt source options offset ∧
    if fault.cause.rule = .unterminatedChar ∧ source.toList[offset + 2]? = some '\x00' then
      fault.near = "'" ∧
        other.near = replaceNuls (String.ofList ((source.toList.drop offset).take 2))
    else other.near = replaceNuls fault.near

theorem rule_eq_unterminatedChar_iff : cause.rule = .unterminatedChar ↔ cause = .openChar := by
  cases cause <;> simp [Cause.rule]

/-- The fault of a text without its NULs, in both cases of what is near it. -/
theorem Meets.exists_withoutNuls {fault : Fault} (meets : Meets source options fault) :
    ∃ other, Meets (replaceNuls source) options other ∧
      IsWithoutNuls source options fault other := by
  obtain ⟨front, near, rest, words, cause, split, takes, flaw, rfl⟩ := meets
  have located := locatedAt_of_flaw split takes flaw
  have third : source.toList[front.length + 2]? = (near ++ rest)[2]? := by
    rw [split, List.getElem?_append_right (Nat.le_add_right _ _), Nat.add_sub_cancel_left]
  by_cases exceptional : cause = .openChar ∧ (near ++ rest)[2]? = some '\x00'
  · obtain ⟨rfl, nul⟩ := exceptional
    obtain ⟨c, more, rfl, rfl⟩ := flaw.near_of_nul nul
    have longer : Flaw .openChar ['\'', replaceNul c] ('\x01' :: more.map replaceNul) :=
      .stray (.char _ (by decide) (by decide))
    obtain ⟨other, met, rfl⟩ :=
      exists_meets_respell respelling_replaceNul split takes longer rfl
    refine ⟨_, met, rfl, rfl, rfl, front.length, located, ?_⟩
    have atNul : Cause.openChar.rule = .unterminatedChar ∧
        source.toList[front.length + 2]? = some '\x00' :=
      ⟨rfl, third.trans nul⟩
    refine (if_pos atNul).mpr ⟨rfl, ?_⟩
    rw [replaceNuls, String.toList_ofList, split, List.drop_left]
    rfl
  · have without := flaw.respell respelling_replaceNul fun isChar nul =>
      absurd ⟨isChar, nul⟩ exceptional
    obtain ⟨other, met, rfl⟩ :=
      exists_meets_respell respelling_replaceNul split takes without List.map_append
    refine ⟨_, met, rfl, rfl, rfl, front.length, located, ?_⟩
    have elsewhere : ¬ (cause.rule = .unterminatedChar ∧
        source.toList[front.length + 2]? = some '\x00') := fun ⟨isChar, nul⟩ =>
      exceptional ⟨rule_eq_unterminatedChar_iff.mp isChar, third.symm.trans nul⟩
    refine (if_neg elsewhere).mpr ?_
    rw [Fault.ofFlaw, replaceNuls, String.toList_ofList]

/-- **The scan of a text without its NULs has the same outcome.** Its tokens are those of the text
without the NULs, and so is its fault, but for what is near an open character literal with a NUL two
characters behind its quote. -/
theorem scan_replaceNuls (source : String) (options : Options) :
    ((∃ tokens, scan source options = .ok { tokens }) ↔
      ∃ tokens, scan (replaceNuls source) options = .ok { tokens }) ∧
    (∀ tokens, scan source options = .ok { tokens } →
      scan (replaceNuls source) options = .ok { tokens := tokens.map Token.replaceNul }) ∧
    ∀ fault, scan source options = .ok { fault := some fault } →
      ∃ other, scan (replaceNuls source) options = .ok { fault := some other } ∧
        IsWithoutNuls source options fault other := by
  refine ⟨⟨?_, ?_⟩, fun tokens => scan_replaceNuls_of_ok, ?_⟩
  · rintro ⟨tokens, done⟩
    exact ⟨_, scan_replaceNuls_of_ok done⟩
  · rintro ⟨tokens, done⟩
    rcases scan_outcome source options with found | ⟨fault, meets⟩
    · exact found
    · obtain ⟨other, met, _⟩ := meets.exists_withoutNuls
      exact absurd (met.scan_eq.symm.trans done) Fault.outcome_ne_tokens
  · intro fault stopped
    obtain ⟨meets, writable⟩ := scan_eq_fault_iff.mp stopped
    obtain ⟨other, met, without⟩ := meets.exists_withoutNuls
    exact ⟨other, scan_eq_fault_iff.mpr ⟨met, without.location ▸ writable⟩, without⟩

/-- NULs between quotes, one of them alone, and the exception behind a string with a NUL. -/
theorem scan_replaceNuls_between_quotes :
    (∃ tokens, scan "'\x00'\n\"\x00\"" ⟨"f", 1⟩ = .ok { tokens } ∧
      scan "'\x01'\n\"\x01\"" ⟨"f", 1⟩ = .ok { tokens := tokens.map Token.replaceNul }) ∧
    ∃ fault, scan "\"\x00\" 'a\x00'" ⟨"f", 1⟩ = .ok { fault := some fault } ∧ fault.near = "'" ∧
      ∃ other, scan "\"\x01\" 'a\x01'" ⟨"f", 1⟩ = .ok { fault := some other } ∧
        other.near = "'a" ∧ IsWithoutNuls "\"\x00\" 'a\x00'" ⟨"f", 1⟩ fault other := by
  have first : replaceNuls "'\x00'\n\"\x00\"" = "'\x01'\n\"\x01\"" := by decide +kernel
  have second : replaceNuls "\"\x00\" 'a\x00'" = "\"\x01\" 'a\x01'" := by decide +kernel
  have done : scan "'\x00'\n\"\x00\"" ⟨"f", 1⟩ = .ok
      { tokens := [⟨.charLiteral, "'\x00'", some (.text "\x00"), 1, 1, 3⟩,
        ⟨.stringLiteral, "\"\x00\"", some (.text "\x00"), 2, 1, 3⟩,
        ⟨.endOfInput, "\x00", none, 2, 4, 4⟩] } := by
    decide +kernel
  have stopped : scan "\"\x00\" 'a\x00'" ⟨"f", 1⟩ =
      .ok { fault := some ⟨.openChar, ⟨"f", 1, 5⟩, "'", "\"\x00\" 'a\x00'"⟩ } := by
    decide +kernel
  have longer : scan "\"\x01\" 'a\x01'" ⟨"f", 1⟩ =
      .ok { fault := some ⟨.openChar, ⟨"f", 1, 5⟩, "'a", "\"\x01\" 'a\x01'"⟩ } := by
    decide +kernel
  have tokens := (scan_replaceNuls "'\x00'\n\"\x00\"" ⟨"f", 1⟩).2.1 _ done
  obtain ⟨other, found, without⟩ := (scan_replaceNuls "\"\x00\" 'a\x00'" ⟨"f", 1⟩).2.2 _ stopped
  rw [first] at tokens
  rw [second] at found
  cases longer.symm.trans found
  exact ⟨⟨_, done, tokens⟩, _, stopped, rfl, _, found, rfl, without⟩

end Scan

end LoopLex
