/-
**The debugging form of tokens.** Of a token of a scan it tells the kind, the value, the line and
the columns, and also the lexeme, unless the token is a number. A token with a line or a column that
cannot be written has no debugging form.

The parts are read from the left. The name of the kind ends at a comma, and the kind tells how the
value is written. A text is quoted, so nothing in it is taken for the rest of the token. The value
of a token gives back its lexeme, except for numbers, which can have zeros in front and digits of
any script.

* `Token.toList_debugText` — the parts of the debugging form;
* `Token.debugEnd_inj` — the last part: line and columns;
* `Literal.IsValueOf.spelling_append_inj` — the value, in front of the last part;
* `Token.Scanned.lexeme_eq_of_literal_eq` — tokens with the same value have the same lexeme;
* `Scan.scan_debugText_faithful` — the whole form.
-/

import LoopLex.Proofs.Scan.Values
import LoopLex.Proofs.Text.Fields
import LoopLex.Proofs.Text.Quoted

namespace LoopLex

open Unicode (isDigit)

/-! ### Kinds -/

theorem Kind.name_injective {first second : Kind} (same : first.name = second.name) :
    first = second := by
  have found := congrArg ofName? same
  rw [ofName?_name, ofName?_name] at found
  exact Option.some.inj found

theorem Kind.ne_comma_of_mem_name (kind : Kind) :
    ∀ c ∈ kind.name.toList, decide (c ≠ ',') = true := by
  have apart : kind.name.toList.all (· ≠ ',') = true := by cases kind <;> decide
  exact List.all_eq_true.mp apart

/-! ### The parts of the debugging form -/

/-- A value as it is written down, an integer with any number of digits. -/
def Literal.spelling : Literal → String
  | int value => toString value
  | float value => value.text
  | bool value => if value then "True" else "False"
  | text value => quoted value

theorem Literal.eq_spelling {value : Literal} {shown : String}
    (written : value.debugText = .ok shown) : shown = value.spelling := by
  cases value with
  | int value => exact Numeral.eq_toString_of_write written
  | float | bool | text => exact (Except.ok.inj written).symm

namespace Token

variable {first second token : Token} {shown : String}

/-- The middle part of the debugging form: the value, or else the lexeme. -/
def debugMiddle (token : Token) : List Char :=
  match token.literal with
  | some value => ", ".toList ++ value.spelling.toList
  | none => if token.kind = .endOfInput then [] else ", ".toList ++ Quoted.encode token.lexeme.toList

/-- Line and columns, with any number of digits. -/
def spanSpelling (token : Token) : List Char :=
  (toString token.line).toList ++ (':' ::
    ((toString token.columnStart).toList ++ ('-' :: (toString token.columnEnd).toList)))

/-- The last part of the debugging form. -/
def debugEnd (token : Token) : List Char := ", ".toList ++ (token.spanSpelling ++ ")".toList)

theorem toList_span (written : token.span = .ok shown) : shown.toList = token.spanSpelling := by
  obtain ⟨line, isLine, rest⟩ := exists_of_bind_eq_ok written
  obtain ⟨start, isStart, rest⟩ := exists_of_bind_eq_ok rest
  obtain ⟨stop, isStop, rest⟩ := exists_of_bind_eq_ok rest
  obtain rfl := Numeral.eq_toString_of_write isLine
  obtain rfl := Numeral.eq_toString_of_write isStart
  obtain rfl := Numeral.eq_toString_of_write isStop
  obtain rfl := Except.ok.inj rest
  simp [spanSpelling]

theorem toList_debugBody (written : token.debugBody = .ok shown) :
    shown.toList = token.debugMiddle := by
  unfold debugBody at written
  unfold debugMiddle
  cases literal : token.literal with
  | some value =>
    rw [literal] at written
    obtain ⟨spelled, isSpelled, rest⟩ := exists_of_bind_eq_ok written
    obtain rfl := Literal.eq_spelling isSpelled
    obtain rfl := Except.ok.inj rest
    rw [String.toList_append]
  | none =>
    rw [literal] at written
    obtain rfl := Except.ok.inj written
    dsimp only
    rw [← Quoted.toList_quoted, ← String.toList_append, apply_ite String.toList]
    rfl

/-- **The parts of the debugging form**, of a token that has one. -/
theorem toList_debugText (written : token.debugText = .ok shown) :
    shown.toList = "Token(".toList ++
      (token.kind.name.toList ++ (token.debugMiddle ++ token.debugEnd)) := by
  obtain ⟨span, isSpan, rest⟩ := exists_of_bind_eq_ok written
  obtain ⟨body, isBody, rest⟩ := exists_of_bind_eq_ok rest
  obtain rfl := Except.ok.inj rest
  rw [← toList_debugBody isBody, debugEnd, ← toList_span isSpan]
  simp only [String.toList_append]
  simp only [List.append_assoc]

/-- **The last part of the debugging form tells line and columns**, whatever their signs. -/
theorem debugEnd_inj (same : first.debugEnd = second.debugEnd) :
    first.line = second.line ∧ first.columnStart = second.columnStart ∧
      first.columnEnd = second.columnEnd := by
  unfold debugEnd at same
  have spans := List.append_cancel_left same
  unfold spanSpelling at spans
  simp only [List.append_assoc, List.cons_append] at spans
  obtain ⟨lines, behind⟩ := toString_append_inj rfl rfl spans
  obtain ⟨starts, ends⟩ := toString_append_inj rfl rfl (List.cons.inj behind).2
  obtain ⟨stops, -⟩ := toString_append_inj (by decide) (by decide) (List.cons.inj ends).2
  exact ⟨lines, starts, stops⟩

theorem debugMiddle_of_some {value : Literal} (literal : token.literal = some value) :
    token.debugMiddle = ", ".toList ++ value.spelling.toList := by
  rw [debugMiddle, literal]

theorem debugMiddle_of_none (literal : token.literal = none) (noEnd : token.kind ≠ .endOfInput) :
    token.debugMiddle = ", ".toList ++ Quoted.encode token.lexeme.toList := by
  rw [debugMiddle, literal]
  exact if_neg noEnd

theorem debugMiddle_endOfInput (literal : token.literal = none)
    (atEnd : token.kind = .endOfInput) : token.debugMiddle = [] := by
  rw [debugMiddle, literal]
  exact if_pos atEnd

theorem head?_debugMiddle (token : Token) :
    (token.debugMiddle ++ token.debugEnd).head?.any (· ≠ ',') = false := by
  have comma (rest : List Char) : (", ".toList ++ rest).head?.any (· ≠ ',') = false :=
    separator_apart (by decide) (by decide) rest
  cases literal : token.literal with
  | some value =>
    rw [debugMiddle_of_some literal, List.append_assoc]
    exact comma _
  | none =>
    by_cases atEnd : token.kind = .endOfInput
    · rw [debugMiddle_endOfInput literal atEnd]
      exact comma _
    · rw [debugMiddle_of_none literal atEnd, List.append_assoc]
      exact comma _

/-- **The debugging form tells the kind.** -/
theorem kind_eq_of_debugText_eq (left : first.debugText = .ok shown)
    (right : second.debugText = .ok shown) :
    first.kind = second.kind ∧
      first.debugMiddle ++ first.debugEnd = second.debugMiddle ++ second.debugEnd := by
  have texts := (toList_debugText left).symm.trans (toList_debugText right)
  obtain ⟨names, behind⟩ := append_inj_of_apart first.kind.ne_comma_of_mem_name
    second.kind.ne_comma_of_mem_name first.head?_debugMiddle second.head?_debugMiddle
    (List.append_cancel_left texts)
  exact ⟨Kind.name_injective (String.toList_injective names), behind⟩

end Token

/-! ### Values -/

theorem Literal.bool_spelling_append_inj {a b : Bool} {rest tail : List Char}
    (same : (bool a).spelling.toList ++ rest = (bool b).spelling.toList ++ tail) :
    a = b ∧ rest = tail := by
  cases a <;> cases b
  · exact ⟨rfl, List.append_cancel_left same⟩
  · simp [spelling] at same
  · simp [spelling] at same
  · exact ⟨rfl, List.append_cancel_left same⟩

/-- **The text of a value tells the value and what stands behind it**, for values that tokens of one
kind can have. A number ends at the comma. -/
theorem Literal.IsValueOf.spelling_append_inj {first second : Literal} {kind : Kind}
    {word other rest tail : List Char} (left : first.IsValueOf kind word)
    (right : second.IsValueOf kind other) (noFloat : kind ≠ .floatLiteral)
    (same : first.spelling.toList ++ (", ".toList ++ rest) =
      second.spelling.toList ++ (", ".toList ++ tail)) :
    first = second ∧ rest = tail := by
  have comma (rest : List Char) : (", ".toList ++ rest).head?.any isDigit = false :=
    separator_apart (by decide) (by decide) rest
  have quotedText {text another : String}
      (same : (Literal.text text).spelling.toList ++ (", ".toList ++ rest) =
        (Literal.text another).spelling.toList ++ (", ".toList ++ tail)) :
      Literal.text text = .text another ∧ rest = tail := by
    simp only [Literal.spelling, Quoted.toList_quoted] at same
    obtain ⟨texts, behind⟩ := Quoted.encode_append_inj same
    exact ⟨congrArg Literal.text (String.toList_injective texts), List.append_cancel_left behind⟩
  cases left with
  | float => exact absurd rfl noFloat
  | int m =>
    cases right with
    | int n =>
      obtain ⟨values, behind⟩ := toString_append_inj (comma rest) (comma tail) same
      exact ⟨congrArg Literal.int values, List.append_cancel_left behind⟩
  | bool =>
    cases right with
    | bool =>
      obtain ⟨values, behind⟩ := bool_spelling_append_inj same
      exact ⟨congrArg Literal.bool values, List.append_cancel_left behind⟩
  | char c =>
    cases right with
    | char d => exact quotedText same
  | string unquoted =>
    cases right with
    | string unquotedOther => exact quotedText same

/-- A truth value is named by its own word. -/
theorem Meaning.of_boolLiteral {shape : Shape} {word : List Char} {literal : Option Literal}
    (meaning : Meaning shape word .boolLiteral literal) :
    ∃ name value, (name, value) ∈ Vocabulary.booleanLiterals ∧ word = name.toList ∧
      literal = some (.bool value) := by
  obtain ⟨noSymbol, noKeyword⟩ :=
    kind_ne_of_literalKinds (by decide : Kind.boolLiteral ∈ Vocabulary.literalKinds)
  cases meaning with
  | symbol known => exact absurd known noSymbol
  | boolean known => exact ⟨_, _, known, rfl, rfl⟩
  | reserved known => exact absurd (Vocabulary.keywordKinds_of_reserved known) noKeyword

namespace Token

variable {first second : Token}

/-- **The kind and the value of a literal tell its lexeme**, unless it is a number. -/
theorem Scanned.lexeme_eq_of_literal_eq (left : first.Scanned) (right : second.Scanned)
    (sameKind : first.kind = second.kind) (isLiteral : first.kind ∈ Vocabulary.literalKinds)
    (noInt : first.kind ≠ .intLiteral) (noFloat : first.kind ≠ .floatLiteral)
    (same : first.literal = second.literal) : first.lexeme = second.lexeme := by
  have noEnd : first.kind ≠ .endOfInput := fun atEnd => by
    rw [atEnd] at isLiteral
    exact absurd isLiteral (by decide)
  obtain ⟨shape, meaning⟩ := left.exists_meaning noEnd
  obtain ⟨shape', meaning'⟩ := right.exists_meaning (sameKind ▸ noEnd)
  rw [← sameKind, ← same] at meaning'
  apply String.toList_injective
  generalize first.kind = kind at *
  simp only [Vocabulary.literalKinds, List.mem_cons, List.not_mem_nil, or_false] at isLiteral
  rcases isLiteral with rfl | rfl | rfl | rfl | rfl
  · exact absurd rfl noInt
  · exact absurd rfl noFloat
  · obtain ⟨name, value, known, word, value₁⟩ := meaning.of_boolLiteral
    obtain ⟨name', value', known', word', value₂⟩ := meaning'.of_boolLiteral
    have values := Literal.bool.inj (Option.some.inj (value₁.symm.trans value₂))
    have names : ∀ entry ∈ Vocabulary.booleanLiterals, ∀ other ∈ Vocabulary.booleanLiterals,
        entry.2 = other.2 → entry.1 = other.1 := by
      decide
    have sameName : name = name' := names _ known _ known' values
    rw [word, word', sameName]
  · obtain ⟨c, word, value⟩ := meaning.of_charLiteral
    obtain ⟨d, word', value'⟩ := meaning'.of_charLiteral
    have texts := Literal.text.inj (Option.some.inj (value.symm.trans value'))
    rw [word, word', (List.cons.inj (String.ofList_injective texts)).1]
  · obtain ⟨inner, -, word, value⟩ := meaning.of_stringLiteral
    obtain ⟨inner', -, word', value'⟩ := meaning'.of_stringLiteral
    have texts := Literal.text.inj (Option.some.inj (value.symm.trans value'))
    rw [word, word', String.ofList_injective texts]

/-- **What the debugging form shows between kind and span tells the value**, and the lexeme of a
token that is no number. -/
theorem Scanned.debugMiddle_append_inj (left : first.Scanned) (right : second.Scanned)
    (sameKind : first.kind = second.kind) (noFloat : first.kind ≠ .floatLiteral)
    (same : first.debugMiddle ++ first.debugEnd = second.debugMiddle ++ second.debugEnd) :
    first.literal = second.literal ∧
      (first.kind ≠ .intLiteral → first.lexeme = second.lexeme) ∧
      first.debugEnd = second.debugEnd := by
  have valued : first.literal.isSome = true ↔ second.literal.isSome = true := by
    rw [← left.wellFormed.literal, ← right.wellFormed.literal, isLiteral, isLiteral, sameKind]
  cases literal : first.literal with
  | some value =>
    rw [literal] at valued
    obtain ⟨value', literal'⟩ := Option.isSome_iff_exists.mp (valued.mp rfl)
    have isLiteral : first.kind ∈ Vocabulary.literalKinds :=
      List.contains_iff_mem.mp (left.wellFormed.literal.mpr (by rw [literal]; rfl))
    have isValue := left.wellFormed.value value literal
    have isValue' := right.wellFormed.value value' literal'
    rw [debugMiddle_of_some literal, debugMiddle_of_some literal', List.append_assoc,
      List.append_assoc] at same
    obtain ⟨rfl, ends⟩ := isValue.spelling_append_inj (sameKind ▸ isValue') noFloat
      (List.append_cancel_left same)
    refine ⟨literal'.symm, fun noInt => ?_, congrArg (", ".toList ++ ·) ends⟩
    exact left.lexeme_eq_of_literal_eq right sameKind isLiteral noInt noFloat
      (literal.trans literal'.symm)
  | none =>
    have literal' : second.literal = none := by
      rw [literal] at valued
      exact Option.not_isSome_iff_eq_none.mp fun found => Bool.noConfusion (valued.mpr found)
    by_cases atEnd : first.kind = .endOfInput
    · have atEnd' : second.kind = .endOfInput := sameKind ▸ atEnd
      rw [debugMiddle_endOfInput literal atEnd, debugMiddle_endOfInput literal' atEnd'] at same
      refine ⟨literal'.symm, fun _ => ?_, same⟩
      rw [left.wellFormed.endLexeme.mpr atEnd, right.wellFormed.endLexeme.mpr atEnd']
    · rw [debugMiddle_of_none literal atEnd, debugMiddle_of_none literal' (sameKind ▸ atEnd),
        List.append_assoc, List.append_assoc] at same
      obtain ⟨lexemes, ends⟩ := Quoted.encode_append_inj (List.append_cancel_left same)
      exact ⟨literal'.symm, fun _ => String.toList_injective lexemes, ends⟩

end Token

/-! ### Tokens of scans -/

namespace Scan

/-- **The debugging form of a token is faithful.** Tokens of scans that have the same form agree in
all but the lexemes of integers, if they are not floating-point numbers. -/
theorem scan_debugText_faithful {first second : Token} (left : first.Scanned)
    (right : second.Scanned) (noFloat : first.kind ≠ .floatLiteral) {shown : String}
    (shows : first.debugText = .ok shown) (same : second.debugText = .ok shown) :
    first.kind = second.kind ∧ first.line = second.line ∧
      first.columnStart = second.columnStart ∧ first.columnEnd = second.columnEnd ∧
      first.literal = second.literal ∧
      (first.kind ≠ .intLiteral → first.lexeme = second.lexeme) := by
  obtain ⟨kinds, behind⟩ := Token.kind_eq_of_debugText_eq shows same
  obtain ⟨literals, lexemes, ends⟩ := left.debugMiddle_append_inj right kinds noFloat behind
  obtain ⟨lines, starts, stops⟩ := Token.debugEnd_inj ends
  exact ⟨kinds, lines, starts, stops, literals, lexemes⟩

/-- Digits of two scripts with the same value, which the debugging form does not tell apart. -/
theorem scan_debugText_faithful_up_to_script :
    ∃ first second : Token, first.Scanned ∧ second.Scanned ∧ first.kind ≠ .floatLiteral ∧
      first.debugText = .ok "Token(INT_LIT, 7, 1:1-1)" ∧
      second.debugText = .ok "Token(INT_LIT, 7, 1:1-1)" ∧ first.lexeme ≠ second.lexeme ∧
      first.literal = second.literal ∧ first.columnEnd = second.columnEnd := by
  have latin : scan "7" {} = .ok
      { tokens := [⟨.intLiteral, "7", some (.int 7), 1, 1, 1⟩, .endOfInput ⟨1, 2⟩] } := by
    decide +kernel
  have arabic : scan "\u0667" {} = .ok
      { tokens := [⟨.intLiteral, "\u0667", some (.int 7), 1, 1, 1⟩, .endOfInput ⟨1, 2⟩] } := by
    decide +kernel
  have scanned : (⟨.intLiteral, "7", some (.int 7), 1, 1, 1⟩ : Token).Scanned :=
    ⟨_, _, _, latin, List.mem_cons_self⟩
  have scanned' : (⟨.intLiteral, "\u0667", some (.int 7), 1, 1, 1⟩ : Token).Scanned :=
    ⟨_, _, _, arabic, List.mem_cons_self⟩
  have shows : (⟨.intLiteral, "7", some (.int 7), 1, 1, 1⟩ : Token).debugText =
      .ok "Token(INT_LIT, 7, 1:1-1)" := by
    decide +kernel
  have shows' : (⟨.intLiteral, "\u0667", some (.int 7), 1, 1, 1⟩ : Token).debugText =
      .ok "Token(INT_LIT, 7, 1:1-1)" := by
    decide +kernel
  obtain ⟨-, -, -, columns, literals, -⟩ :=
    scan_debugText_faithful scanned scanned' (by decide) shows shows'
  exact ⟨_, _, scanned, scanned', by decide, shows, shows', by decide, literals, columns⟩

end Scan

end LoopLex
