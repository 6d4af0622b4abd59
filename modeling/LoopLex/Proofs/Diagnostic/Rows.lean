/-
**The rows of a message.** Split at its newlines, a message has a header, a source line with a caret
below it, and a hint, as far as the diagnostic has something to show in them, and no other row.

The text near a place may hold newlines, but the header shows them escaped. A caret stands below the
column of the place, which for a lexical error is that of the first character of the failing word:
the column was counted along the text, and the source line was cut out of it around that character.

There is no message at all if the place cannot be written.

* `Escaped` — a text with its newlines and NULs made visible;
* `Diagnostic.LaidOut` — the rows that a diagnostic has to show;
* `Diagnostic.laidOut_message` — the lines of its message are these rows;
* `message_points_at_fault` — the caret of a lexical error points at the failing word.
-/

import LoopLex.Proofs.Scan.Localisation
import LoopLex.Proofs.Text.Fields

namespace LoopLex

/-! ### What the rows of a diagnostic show -/

/-- A text, and how it is shown on one row: a newline and a NUL behind a backslash. -/
inductive Escaped : List Char → List Char → Prop where
  | nil : Escaped [] []
  | newline {text shown : List Char} (rest : Escaped text shown) :
    Escaped ('\n' :: text) ('\\' :: 'n' :: shown)
  | nul {text shown : List Char} (rest : Escaped text shown) :
    Escaped ('\x00' :: text) ('\\' :: '0' :: shown)
  | other {c : Char} {text shown : List Char} (noNewline : c ≠ '\n') (notNul : c ≠ '\x00')
    (rest : Escaped text shown) : Escaped (c :: text) (c :: shown)

namespace Diagnostic

/-- The header: the place, if there is one, what is wrong there, and the text near it. -/
inductive IsHeader (diagnostic : Diagnostic) : String → Prop where
  | placed {location : Location} {shown : String} (place : diagnostic.location = some location)
    (near : Escaped diagnostic.near.toList shown.toList) :
    IsHeader diagnostic (location.filename ++ ":" ++ toString location.line ++ ":" ++
      toString location.column ++ ": error: " ++ diagnostic.description ++ " near '" ++ shown ++
      "'")
  | bare {shown : String} (nowhere : diagnostic.location = none)
    (near : Escaped diagnostic.near.toList shown.toList) :
    IsHeader diagnostic ("error: " ++ diagnostic.description ++ " near '" ++ shown ++ "'")

/-- The source line of a place, and a caret below it if the column is one that a line can have. -/
inductive IsSource (diagnostic : Diagnostic) : List String → Prop where
  | hidden (absent : diagnostic.location = none ∨ diagnostic.sourceLine = none) :
    IsSource diagnostic []
  | line {location : Location} {line : String} (place : diagnostic.location = some location)
    (shown : diagnostic.sourceLine = some line) (outside : location.column ≤ 0) :
    IsSource diagnostic ["    " ++ line]
  | caret {location : Location} {line : String} {spaces : Nat}
    (place : diagnostic.location = some location) (shown : diagnostic.sourceLine = some line)
    (inside : 0 < location.column) (indent : spaces = location.column + 3) :
    IsSource diagnostic ["    " ++ line, String.ofList (List.replicate spaces ' ' ++ ['^'])]

/-- The hint, unless it is empty. -/
inductive IsHint (diagnostic : Diagnostic) : List String → Prop where
  | hidden (absent : diagnostic.hint = none ∨ diagnostic.hint = some "") : IsHint diagnostic []
  | hint {hint : String} (given : diagnostic.hint = some hint) (nonempty : hint ≠ "") :
    IsHint diagnostic ["hint: " ++ hint]

/-- The rows of a diagnostic, in order. -/
inductive LaidOut (diagnostic : Diagnostic) : List String → Prop where
  | rows {header : String} {source hints : List String} (first : diagnostic.IsHeader header)
    (second : diagnostic.IsSource source) (third : diagnostic.IsHint hints) :
    LaidOut diagnostic (header :: source ++ hints)

/-- No part of a diagnostic but the text near the place holds a newline. -/
structure FitsRows (diagnostic : Diagnostic) : Prop where
  description : '\n' ∉ diagnostic.description.toList
  filename : ∀ location ∈ diagnostic.location, '\n' ∉ location.filename.toList
  hint : ∀ hint ∈ diagnostic.hint, '\n' ∉ hint.toList
  sourceLine : ∀ line ∈ diagnostic.sourceLine, '\n' ∉ line.toList

end Diagnostic

/-! ### Texts without newlines -/

theorem escaped_oneLine (text : List Char) : Escaped text (text.flatMap oneLineChar) := by
  induction text with
  | nil => exact .nil
  | cons c text ih =>
    rw [List.flatMap_cons]
    by_cases newline : c = '\n'
    · subst newline
      exact .newline ih
    · by_cases nul : c = '\x00'
      · subst nul
        exact .nul ih
      · rw [oneLineChar, if_neg newline, if_neg nul]
        exact .other newline nul ih

theorem Escaped.not_mem_newline {text shown : List Char} (escaped : Escaped text shown) :
    '\n' ∉ shown := by
  induction escaped with
  | nil => exact List.not_mem_nil
  | newline _ ih | nul _ ih => simpa using ih
  | other noNewline _ _ ih => exact List.not_mem_cons_of_ne_of_not_mem (Ne.symm noNewline) ih

/-! ### The message of a diagnostic -/

namespace Diagnostic

variable {diagnostic : Diagnostic}

/-- Nothing but a place that cannot be written keeps a message from being put together. -/
theorem exists_message_iff :
    (∃ message, diagnostic.message = .ok message) ↔
      ∀ location ∈ diagnostic.location, location.Writable := by
  cases place : diagnostic.location with
  | none =>
    refine iff_of_true ⟨_, message_of_lead (lead_of_none place)⟩ ?_
    rintro location ⟨⟩
  | some location =>
    simp only [Option.mem_some_iff, forall_eq']
    by_cases writable : location.Writable
    · have start := lead_of_text place (Location.text_of_writable writable)
      exact iff_of_true ⟨_, message_of_lead start⟩ writable
    · refine iff_of_false ?_ writable
      rintro ⟨message, shown⟩
      cases (message_of_not_writable place writable).symm.trans shown

theorem isHeader_headerBehind {lead : String} (start : diagnostic.lead = .ok lead) :
    diagnostic.IsHeader (diagnostic.headerBehind lead) := by
  have near : Escaped diagnostic.near.toList (oneLine diagnostic.near).toList := by
    rw [oneLine, String.toList_ofList]
    exact escaped_oneLine _
  have writable := exists_message_iff.mp ⟨_, message_of_lead start⟩
  unfold headerBehind
  cases place : diagnostic.location with
  | none =>
    obtain rfl := Except.ok.inj ((lead_of_none place).symm.trans start)
    have bare := IsHeader.bare place near
    simpa only [String.append_assoc, String.empty_append] using bare
  | some location =>
    have text := Location.text_of_writable (writable location place)
    obtain rfl := Except.ok.inj ((lead_of_text place text).symm.trans start)
    have colon (rest : String) : ": " ++ ("error: " ++ rest) = ": error: " ++ rest := by
      rw [← String.append_assoc]
      rfl
    have placed := IsHeader.placed place near
    simpa only [String.append_assoc, colon] using placed

theorem isSource_sourceRows (diagnostic : Diagnostic) :
    diagnostic.IsSource diagnostic.sourceRows := by
  unfold sourceRows
  split
  · rename_i location line place shown
    by_cases inside : 0 < location.column
    · rw [if_pos inside]
      exact .caret place shown inside (by omega)
    · rw [if_neg inside]
      exact .line place shown (Int.not_lt.mp inside)
  · rename_i absent
    refine .hidden ?_
    cases place : diagnostic.location with
    | none => exact .inl rfl
    | some location =>
      cases shown : diagnostic.sourceLine with
      | none => exact .inr rfl
      | some line => exact absurd shown (absent location line place)

theorem isHint_hintRows (diagnostic : Diagnostic) : diagnostic.IsHint diagnostic.hintRows := by
  unfold hintRows
  cases given : diagnostic.hint with
  | none => exact .hidden (.inl given)
  | some hint =>
    by_cases empty : hint = ""
    · subst empty
      exact .hidden (.inr given)
    · simp only [if_neg empty]
      exact .hint given empty

theorem IsHeader.not_mem_newline {header : String} (isHeader : diagnostic.IsHeader header)
    (fits : diagnostic.FitsRows) : '\n' ∉ header.toList := by
  cases isHeader with
  | placed place near =>
    simp only [String.toList_append, List.mem_append, not_or, and_assoc]
    have number (n : Int) : '\n' ∉ (toString n).toList :=
      not_mem_toString (by decide) (by decide) n
    exact ⟨fits.filename _ place, by decide, number _, by decide, number _, by decide,
      fits.description, by decide, near.not_mem_newline, by decide⟩
  | bare nowhere near =>
    simp only [String.toList_append, List.mem_append, not_or, and_assoc]
    exact ⟨by decide, fits.description, by decide, near.not_mem_newline, by decide⟩

theorem IsSource.not_mem_newline {rows : List String} (isSource : diagnostic.IsSource rows)
    (fits : diagnostic.FitsRows) : ∀ row ∈ rows, '\n' ∉ row.toList := by
  have indented : ∀ line ∈ diagnostic.sourceLine, '\n' ∉ ("    " ++ line).toList := by
    intro line shown
    simp only [String.toList_append, List.mem_append, not_or]
    exact ⟨by decide, fits.sourceLine line shown⟩
  cases isSource with
  | hidden => exact List.forall_mem_nil _
  | line place shown => exact List.forall_mem_singleton.mpr (indented _ shown)
  | caret place shown =>
    refine List.forall_mem_cons.mpr ⟨indented _ shown, List.forall_mem_singleton.mpr ?_⟩
    simp

theorem IsHint.not_mem_newline {rows : List String} (isHint : diagnostic.IsHint rows)
    (fits : diagnostic.FitsRows) : ∀ row ∈ rows, '\n' ∉ row.toList := by
  cases isHint with
  | hidden => exact List.forall_mem_nil _
  | hint given =>
    refine List.forall_mem_singleton.mpr ?_
    simp only [String.toList_append, List.mem_append, not_or]
    exact ⟨by decide, fits.hint _ given⟩

theorem LaidOut.not_mem_newline {rows : List String} (laidOut : diagnostic.LaidOut rows)
    (fits : diagnostic.FitsRows) : ∀ row ∈ rows, '\n' ∉ row.toList := by
  cases laidOut with
  | rows first second third =>
    refine List.forall_mem_append.mpr ⟨?_, third.not_mem_newline fits⟩
    exact List.forall_mem_cons.mpr ⟨first.not_mem_newline fits, second.not_mem_newline fits⟩

/-- **The lines of a message are the rows of its diagnostic.** -/
theorem laidOut_message (fits : diagnostic.FitsRows) {message : String}
    (shown : diagnostic.message = .ok message) : diagnostic.LaidOut (lines message) := by
  obtain ⟨lead, start⟩ := exists_lead_of_message shown
  have laidOut : diagnostic.LaidOut (diagnostic.headerBehind lead ::
      (diagnostic.sourceRows ++ diagnostic.hintRows)) :=
    .rows (isHeader_headerBehind start) diagnostic.isSource_sourceRows diagnostic.isHint_hintRows
  obtain rfl := Except.ok.inj ((message_of_lead start).symm.trans shown)
  rw [lines_intercalate (List.cons_ne_nil _ _) (laidOut.not_mem_newline fits)]
  exact laidOut

end Diagnostic

/-! ### The message of a lexical error -/

theorem Cause.not_mem_newline_description (cause : Cause) : '\n' ∉ cause.description.toList := by
  cases cause with
  | tooManyDigits digits =>
    have number : '\n' ∉ (toString digits).toList :=
      not_mem_toString (by decide) (by decide) (.ofNat digits)
    show '\n' ∉ ("integer literal too long (" ++ toString digits ++ " digits)").toList
    simp only [String.toList_append, List.mem_append, not_or]
    exact ⟨⟨by simp, number⟩, by simp⟩
  | _ => decide

theorem Cause.not_mem_newline_hint (cause : Cause) : ∀ hint ∈ cause.hint?, '\n' ∉ hint.toList := by
  cases cause <;> simp [hint?]

/-- Only for an unexpected character there is no hint, and no hint is empty. -/
theorem Cause.hint?_eq_iff (cause : Cause) :
    cause.hint? = none ∨ cause.hint? = some "" ↔ cause.rule = .unexpectedCharacter := by
  cases cause <;> simp [hint?, rule]

variable {source : String} {options : Options} {fault : Fault} {offset : Nat}

theorem Fault.LocatedAt.fitsRows (located : fault.LocatedAt source options offset)
    (filename : '\n' ∉ options.filename.toList) : fault.diagnostic.FitsRows where
  description := fault.cause.not_mem_newline_description
  filename := by
    rintro _ ⟨⟩
    rw [located.filename]
    exact filename
  hint := fault.cause.not_mem_newline_hint
  sourceLine := by
    rintro _ ⟨⟩
    obtain ⟨index, _, onLine⟩ := located.sourceLine
    exact onLine.noNewline

/-- The text near a fault starts with the character at its offset. -/
theorem Fault.LocatedAt.head?_near (located : fault.LocatedAt source options offset) :
    fault.near.toList.head? = source.toList[offset]? := by
  obtain ⟨nonempty, rest, split⟩ := located.near
  obtain ⟨c, more, near⟩ := List.exists_cons_of_ne_nil nonempty
  rw [← List.head?_drop, ← split, near]
  rfl

/-- The rows of a fault at `offset`: a header, a source line, a row with a caret below it, and a
hint unless the rule is that of unexpected characters. The caret stands below the character at the
offset, which is the first one near the fault. -/
structure Fault.PointsAt (source : String) (fault : Fault) (offset : Nat)
    (header line caret : String) (hints : List String) : Prop where
  isHeader : fault.diagnostic.IsHeader header
  isSource : fault.diagnostic.IsSource [line, caret]
  isHint : fault.diagnostic.IsHint hints
  hinted : hints = [] ↔ fault.cause.rule = .unexpectedCharacter
  below : ∃ index c, caret.toList = List.replicate index ' ' ++ ['^'] ∧
    line.toList[index]? = some c ∧ source.toList[offset]? = some c ∧
    fault.near.toList.head? = some c

theorem Diagnostic.IsHint.eq_nil_iff {diagnostic : Diagnostic} {hints : List String}
    (isHint : diagnostic.IsHint hints) :
    hints = [] ↔ diagnostic.hint = none ∨ diagnostic.hint = some "" := by
  cases isHint with
  | hidden absent => simp [absent]
  | hint given nonempty => simp [given, nonempty]

/-- **The caret stands below the character at the offset of the fault.** -/
theorem Fault.LocatedAt.exists_pointsAt (located : fault.LocatedAt source options offset)
    {rows : List String} (laidOut : fault.diagnostic.LaidOut rows) :
    ∃ header line caret hints, rows = header :: line :: caret :: hints ∧
      fault.PointsAt source offset header line caret hints := by
  obtain ⟨index, column, onLine⟩ := located.sourceLine
  obtain ⟨c, inText, inLine⟩ := onLine.same
  have place : fault.diagnostic.location = some fault.location := rfl
  cases laidOut with
  | @rows header shown hints first second third =>
    have hinted : hints = [] ↔ fault.cause.rule = .unexpectedCharacter :=
      third.eq_nil_iff.trans fault.cause.hint?_eq_iff
    cases second with
    | hidden absent => rcases absent with absent | absent <;> cases absent
    | line at' _ outside =>
      cases place.symm.trans at'
      omega
    | @caret location line spaces at' shown inside indent =>
      have source' := Diagnostic.IsSource.caret at' shown inside indent
      cases place.symm.trans at'
      cases shown
      have indented : spaces = index + 4 := by omega
      refine ⟨_, _, _, _, rfl, first, source', third, hinted, spaces, c, String.toList_ofList, ?_,
        inText, ?_⟩
      · rw [indented, String.toList_append]
        exact inLine
      · rw [located.head?_near, inText]

end LoopLex
