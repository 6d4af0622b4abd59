/-
**Respelled texts.** Where a map of characters changes nothing that a rule looks for, the scan of a
text is respelled as the text is.

Rules look for letters, for the values of digits, and for a few characters by name. A map that
leaves all these as they are can still change a character that no rule looks for, or write a digit
as another digit of the same value. Then every piece of a text is a piece of the respelled text, of
the same length and at the same place, and names and numbers keep their meaning.

Past its end a text shows NULs, so a rule looks for a NUL too, but only behind the quote of an open
character literal. A map may change the NULs of a text, except there.

* `isFree` and `Respelling` — the characters that no rule looks for, and the maps that respell;
* `respell`, `Literal.respell` and `Token.respell` — respelled texts, values and tokens;
* `Shape.Reads.respell` and `Shape.Fits.decode_respell` — words, and what they mean;
* `Takes.respell` and `Flaw.respell` — what is taken of a text, and where that ends;
* `scan_respell_of_ok` and `Meets.respell` — both outcomes of a scan.
-/

import LoopLex.Proofs.Scan.Taking

namespace LoopLex

open Unicode (isDigit isLetter digitValue?)

/-! ### Respelling -/

/-- Whether no rule looks for the character, unless for the value that it has as a digit. -/
def isFree (c : Char) : Bool := !isLetter c && !('_' :: '.' :: openers).contains c

/-- A map that respells texts. -/
structure Respelling (f : Char → Char) : Prop where
  /-- Only a free character is written as another one, which is free too. -/
  free : ∀ c, f c = c ∨ isFree c = true ∧ isFree (f c) = true
  /-- A digit keeps its value, and what is no digit does not become one. -/
  digitValue : ∀ c, digitValue? (f c) = digitValue? c
  /-- Nothing but a NUL becomes a NUL. -/
  nul : ∀ c, f c = '\x00' → c = '\x00'

variable {f : Char → Char}

/-- The text with every character respelled. -/
def respell (f : Char → Char) (text : String) : String := .ofList (text.toList.map f)

/-- The value with every character of a text respelled. -/
def Literal.respell (f : Char → Char) : Literal → Literal
  | text value => text (LoopLex.respell f value)
  | literal => literal

/-- The token with its lexeme and its value respelled. -/
def Token.respell (f : Char → Char) (token : Token) : Token :=
  { token with
    lexeme := LoopLex.respell f token.lexeme
    literal := token.literal.map (Literal.respell f) }

/-- The fault with what is near it and its line respelled. -/
def Fault.respell (f : Char → Char) (fault : Fault) : Fault :=
  { fault with
    near := LoopLex.respell f fault.near
    sourceLine := LoopLex.respell f fault.sourceLine }

@[simp] theorem toList_respell (f : Char → Char) (text : String) :
    (respell f text).toList = text.toList.map f :=
  String.toList_ofList

theorem respell_ofList (f : Char → Char) (text : List Char) :
    respell f (.ofList text) = .ofList (text.map f) := by
  rw [respell, String.toList_ofList]

/-! ### Characters -/

theorem any_head?_map {p : Char → Bool} {text : List Char} (same : ∀ c, p (f c) = p c) :
    (text.map f).head?.any p = text.head?.any p := by
  cases text with
  | nil => rfl
  | cons c text => exact same c

namespace Respelling

variable {text : List Char} (respelling : Respelling f)
include respelling

/-- **What a rule looks for neither appears nor disappears.** -/
theorem eq_iff {c d : Char} (kept : isFree d = false) : f c = d ↔ c = d := by
  rcases respelling.free c with same | ⟨freed, freed'⟩
  · rw [same]
  · refine iff_of_false ?_ ?_
    · rintro rfl
      exact absurd freed' (Bool.eq_false_iff.mp kept)
    · rintro rfl
      exact absurd freed (Bool.eq_false_iff.mp kept)

theorem eq_self {c : Char} (kept : isFree c = false) : f c = c := (respelling.eq_iff kept).mpr rfl

theorem isDigit_eq (c : Char) : isDigit (f c) = isDigit c :=
  congrArg Option.isSome (respelling.digitValue c)

theorem isLetter_eq (c : Char) : isLetter (f c) = isLetter c := by
  rcases respelling.free c with same | ⟨freed, freed'⟩
  · rw [same]
  · unfold isFree at freed freed'
    rw [Bool.and_eq_true, Bool.not_eq_eq_eq_not] at freed freed'
    exact freed'.1.trans freed.1.symm

theorem isNameStart_eq (c : Char) : isNameStart (f c) = isNameStart c := by
  have underscore : f c = '_' ↔ c = '_' := respelling.eq_iff (by decide)
  simp only [isNameStart, respelling.isLetter_eq, underscore]

theorem isNamePart_eq (c : Char) : isNamePart (f c) = isNamePart c := by
  simp only [isNamePart, respelling.isNameStart_eq, respelling.isDigit_eq]

theorem mem_map_iff {d : Char} (kept : isFree d = false) : d ∈ text.map f ↔ d ∈ text := by
  simp only [List.mem_map, respelling.eq_iff kept, exists_eq_right]

theorem head?_map_eq_iff {d : Char} (kept : isFree d = false) :
    (text.map f).head? = some d ↔ text.head? = some d := by
  simp only [List.head?_map, Option.map_eq_some_iff, respelling.eq_iff kept, exists_eq_right]

/-- A text without free characters is only written as such by itself. -/
theorem map_eq_iff {known : List Char} (kept : ∀ c ∈ known, isFree c = false) :
    text.map f = known ↔ text = known := by
  induction known generalizing text with
  | nil => exact List.map_eq_nil_iff
  | cons d known ih =>
    obtain ⟨first, later⟩ := List.forall_mem_cons.mp kept
    cases text with
    | nil => simp
    | cons c text => simp [respelling.eq_iff first, ih later]

theorem map_of_kept (kept : ∀ c ∈ text, isFree c = false) : text.map f = text :=
  (respelling.map_eq_iff kept).mpr rfl

end Respelling

theorem isFree_of_mem_openers : ∀ c ∈ openers, isFree c = false := by
  intro c opener
  have marked : ('_' :: '.' :: openers).contains c = true :=
    List.contains_iff_mem.mpr (.tail _ (.tail _ opener))
  rw [isFree, marked, Bool.not_true, Bool.and_false]

/-- A newline stays, so no place changes. -/
theorem Position.afterText_respell (respelling : Respelling f) (place : Position)
    (text : List Char) : place.afterText (text.map f) = place.afterText text := by
  induction text generalizing place with
  | nil => rfl
  | cons c text ih =>
    have newline : f c = '\n' ↔ c = '\n' := respelling.eq_iff (by decide)
    have same : place.after (f c) = place.after c := by simp only [after, newline]
    rw [List.map_cons, afterText_cons, afterText_cons, same, ih]

theorem Position.behind_respell (respelling : Respelling f) (line : Int) (text : List Char) :
    behind line (text.map f) = behind line text := by
  rw [← afterText_startOf, afterText_respell respelling, afterText_startOf]

theorem lineAround_respell (respelling : Respelling f) (before ahead : List Char) :
    lineAround (before.map f) (ahead.map f) = respell f (lineAround before ahead) := by
  have stops : (fun c => decide (c ≠ '\n')) ∘ f = fun c => decide (c ≠ '\n') := by
    funext c
    have newline : f c = '\n' ↔ c = '\n' := respelling.eq_iff (by decide)
    simp only [Function.comp_apply, ne_eq, newline]
  unfold lineAround
  rw [respell_ofList, List.map_append, List.map_reverse, ← List.map_reverse, List.takeWhile_map,
    List.takeWhile_map, stops]

/-! ### Words -/

theorem DigitRun.respell {digits : List Char} (run : DigitRun digits)
    (respelling : Respelling f) : DigitRun (digits.map f) := by
  refine ⟨mt List.map_eq_nil_iff.mp run.1, List.forall_mem_map.mpr ?_⟩
  intro c member
  exact (respelling.isDigit_eq c).trans (run.2 c member)

/-- **The value of a numeral is that of its digits.** -/
theorem Numeral.value_respell (respelling : Respelling f) (digits : List Char) :
    value (digits.map f) = value digits := by
  simp only [value, List.foldl_map, digitValue, respelling.digitValue]

namespace Shape

variable {shape : Shape} {word rest : List Char}

/-- Operators and separators are made of characters that rules know by name. -/
theorem Fits.not_isFree {kind : Kind} (fits : (symbol kind).Fits word) :
    ∀ c ∈ word, isFree c = false := by
  have kept : (symbols.all fun text => text.all fun c => !isFree c) = true := by decide
  intro c member
  exact Bool.not_eq_eq_eq_not.mp (List.all_eq_true.mp (List.all_eq_true.mp kept _
    fits.mem_symbols) c member)

/-- **A word becomes a word of the same shape.** -/
theorem Fits.respell (fits : shape.Fits word) (respelling : Respelling f) :
    shape.Fits (word.map f) := by
  cases shape with
  | symbol kind =>
    rw [respelling.map_of_kept fits.not_isFree]
    exact fits
  | string =>
    cases fits with
    | @string inner unquoted =>
      have quote : f '"' = '"' := respelling.eq_self (by decide)
      have unquoted' : '"' ∉ inner.map f := mt (respelling.mem_map_iff (by decide)).mp unquoted
      rw [List.map_append, List.map_cons, List.map_singleton, quote]
      exact .string unquoted'
  | char =>
    cases fits with
    | char c =>
      have quote : f '\'' = '\'' := respelling.eq_self (by decide)
      simp only [List.map_cons, List.map_nil, quote]
      exact .char (f c)
  | integer =>
    cases fits with
    | integer run => exact .integer (run.respell respelling)
  | fraction =>
    cases fits with
    | fraction left right =>
      have dot : f '.' = '.' := respelling.eq_self (by decide)
      rw [List.map_append, List.map_cons, dot]
      exact .fraction (left.respell respelling) (right.respell respelling)
  | name =>
    cases fits with
    | @name first more start parts =>
      have start' : isNameStart (f first) = true := (respelling.isNameStart_eq first).trans start
      refine .name start' (List.forall_mem_map.mpr ?_)
      intro c member
      exact (respelling.isNamePart_eq c).trans (parts c member)

theorem inner_respell (f : Char → Char) (word : List Char) :
    inner (word.map f) = LoopLex.respell f (inner word) := by
  unfold inner
  rw [respell_ofList, List.map_dropLast, List.map_tail]

/-- What a table says of a name, it says of the respelled name, if its own names stay. -/
theorem lookup_respell {β : Type} {table : List (String × β)} (respelling : Respelling f)
    (kept : (table.all fun entry => entry.1.toList.all fun c => !isFree c) = true)
    (name : String) : table.lookup (LoopLex.respell f name) = table.lookup name := by
  induction table with
  | nil => rfl
  | cons entry table ih =>
    obtain ⟨known, value⟩ := entry
    rw [List.all_cons, Bool.and_eq_true] at kept
    have kept' : ∀ c ∈ known.toList, isFree c = false := fun c member =>
      Bool.not_eq_eq_eq_not.mp (List.all_eq_true.mp kept.1 c member)
    have same : (LoopLex.respell f name == known) = (name == known) := by
      rw [Bool.eq_iff_iff, beq_iff_eq, beq_iff_eq, ← String.toList_inj, toList_respell,
        respelling.map_eq_iff kept', String.toList_inj]
    rw [List.lookup_cons, List.lookup_cons, same, ih kept.2]

/-- **A name keeps its meaning**: the names of the tables are made of letters. -/
theorem decodeName_respell (respelling : Respelling f) (name : String) :
    decodeName (LoopLex.respell f name) = decodeName name := by
  unfold decodeName
  rw [lookup_respell respelling (by decide +kernel), lookup_respell respelling (by decide +kernel),
    lookup_respell respelling (by decide +kernel)]

/-- No name stands for a text. -/
theorem decodeName_snd_respell (f : Char → Char) (name : String) :
    (decodeName name).2.map (Literal.respell f) = (decodeName name).2 := by
  unfold decodeName
  split <;> rfl

/-- **A word keeps its meaning**, and if it stands for a text, that is respelled. -/
theorem Fits.decode_respell (fits : shape.Fits word) (respelling : Respelling f) :
    shape.decode (word.map f) = (shape.decode word).map fun meaning =>
      (meaning.1, meaning.2.map (Literal.respell f)) := by
  cases shape with
  | symbol kind => rfl
  | string | char =>
    unfold decode
    rw [inner_respell]
    rfl
  | integer =>
    cases fits with
    | integer run =>
      rw [decode, decode, integer_of_digitRun run,
        integer_of_digitRun (run.respell respelling), List.length_map,
        Numeral.value_respell respelling]
      by_cases long : Numeral.maxDigits < word.length
      · rw [if_pos long]
        rfl
      · rw [if_neg long]
        rfl
  | fraction =>
    cases fits with
    | @fraction whole digits left right =>
      have dot : f '.' = '.' := respelling.eq_self (by decide)
      rw [decode, decode, List.map_append, List.map_cons, dot, fraction_of_digitRuns left right,
        fraction_of_digitRuns (left.respell respelling) (right.respell respelling),
        List.length_map, ← List.map_append, Numeral.value_respell respelling]
      rfl
  | name =>
    show Except.ok (decodeName (.ofList (word.map f))) = .ok (_, (decodeName _).2.map _)
    rw [← respell_ofList, decodeName_respell respelling, decodeName_snd_respell]

theorem EndsBefore.respell (ends : shape.EndsBefore rest) (respelling : Respelling f) :
    shape.EndsBefore (rest.map f) := by
  have digit (text : List Char) : (text.map f).head?.any isDigit = text.head?.any isDigit :=
    any_head?_map respelling.isDigit_eq
  cases shape with
  | symbol kind =>
    intro suffixed
    rw [ne_eq, respelling.head?_map_eq_iff (by decide)]
    exact ends suffixed
  | integer =>
    refine ⟨(digit rest).trans ends.1, ?_⟩
    intro more dot
    obtain ⟨c, behind, rfl, same, rfl⟩ := List.map_eq_cons_iff.mp dot
    obtain rfl := (respelling.eq_iff (by decide)).mp same
    exact (digit behind).trans (ends.2 behind rfl)
  | fraction => exact (digit rest).trans ends
  | name => exact (any_head?_map respelling.isNamePart_eq).trans ends
  | _ => trivial

theorem Reads.respell (reads : shape.Reads word rest) (respelling : Respelling f) :
    shape.Reads (word.map f) (rest.map f) :=
  ⟨reads.fits.respell respelling, reads.ends.respell respelling, fun number =>
    (any_head?_map respelling.isLetter_eq).trans (reads.apart number)⟩

end Shape

/-! ### Whole texts -/

theorem Token.ofWord_respell (respelling : Respelling f) (place : Position) (word : List Char)
    (kind : Kind) (literal : Option Literal) :
    Token.ofWord place (word.map f) kind (literal.map (Literal.respell f)) =
      (Token.ofWord place word kind literal).respell f := by
  unfold Token.respell ofWord
  rw [respell_ofList, Position.afterText_respell respelling]

/-- **What is taken of a text is taken of the respelled text**, at the same places. -/
theorem Scan.Takes.respell {place : Position} {text rest : List Char} {tokens : List Token}
    (takes : Takes place text rest tokens) (respelling : Respelling f) :
    Takes place (text.map f) (rest.map f) (tokens.map (Token.respell f)) := by
  induction takes with
  | nil place rest => exact .nil place _
  | @blank place c text rest tokens blank later ih =>
    have opener : c ∈ openers := List.mem_append_left _ (List.mem_append_right _ blank)
    have same : f c = c := respelling.eq_self (isFree_of_mem_openers c opener)
    rw [List.map_cons, same]
    exact .blank blank ih
  | @word place shape word text rest kind literal tokens reads decoded later ih =>
    have reads' := reads.respell respelling
    have decoded' := reads.fits.decode_respell respelling
    rw [List.map_append] at reads'
    rw [decoded] at decoded'
    rw [← Position.afterText_respell respelling place word] at ih
    rw [List.map_append, List.map_cons, ← Token.ofWord_respell respelling]
    exact .word reads' decoded' ih

/-- **A stray character stays one.** Two characters behind a single quote a NUL makes the quote stray
by itself, so such a NUL has to stay. -/
theorem Stray.respell {cause : Cause} {near rest : List Char} (stray : Stray cause near rest)
    (respelling : Respelling f)
    (nulStays : cause = .openChar → (near ++ rest)[2]? = some '\x00' → f '\x00' = '\x00') :
    Stray cause (near.map f) (rest.map f) := by
  cases stray with
  | bang alone =>
    have same : f '!' = '!' := respelling.eq_self (by decide)
    rw [List.map_singleton, same]
    exact .bang (mt (respelling.head?_map_eq_iff (by decide)).mp alone)
  | @character c rest unknown noPart =>
    have unknown' : f c ∉ openers := by
      intro opener
      have kept := isFree_of_mem_openers _ opener
      rw [← (respelling.eq_iff kept).mp rfl] at opener
      exact unknown opener
    exact .character unknown' ((respelling.isNamePart_eq c).trans noPart)
  | @string inner unquoted =>
    have quote : f '"' = '"' := respelling.eq_self (by decide)
    rw [List.map_cons, quote]
    exact .string (mt (respelling.mem_map_iff (by decide)).mp unquoted)
  | charAtEnd short =>
    have quote : f '\'' = '\'' := respelling.eq_self (by decide)
    rw [← List.length_map f] at short
    rw [List.map_singleton, quote]
    exact .charAtEnd short
  | charBeforeNul c rest =>
    have quote : f '\'' = '\'' := respelling.eq_self (by decide)
    simp only [List.map_cons, List.map_nil, quote, nulStays rfl rfl]
    exact .charBeforeNul (f c) _
  | @char c next rest notNul notQuote =>
    have quote : f '\'' = '\'' := respelling.eq_self (by decide)
    simp only [List.map_cons, List.map_nil, quote]
    exact .char (f c) (mt (respelling.nul next) notNul)
      (mt (respelling.eq_iff (by decide)).mp notQuote)

theorem Flaw.respell {cause : Cause} {near rest : List Char} (flaw : Flaw cause near rest)
    (respelling : Respelling f)
    (nulStays : cause = .openChar → (near ++ rest)[2]? = some '\x00' → f '\x00' = '\x00') :
    Flaw cause (near.map f) (rest.map f) := by
  cases flaw with
  | stray stray => exact .stray (stray.respell respelling nulStays)
  | letter fits ends number led =>
    exact .letter (fits.respell respelling) (ends.respell respelling) number
      ((any_head?_map respelling.isLetter_eq).trans led)
  | tooLong run reads long =>
    rw [← List.length_map (f := f)] at long ⊢
    exact .tooLong (run.respell respelling) (reads.respell respelling) long

namespace Scan

variable {source : String} {options : Options} {front near rest : List Char} {words : List Token}
  {cause : Cause}

/-- The tokens of a respelled text. The end of input is not spelled in a text. -/
theorem scan_respell_of_ok (respelling : Respelling f) {tokens : List Token}
    (done : scan source options = .ok { tokens }) :
    ∃ words place, tokens = words ++ [.endOfInput place] ∧ (∀ token ∈ words, token.IsWord) ∧
      scan (respell f source) options =
        .ok { tokens := words.map (Token.respell f) ++ [.endOfInput place] } := by
  obtain ⟨words, takes, rfl⟩ := scan_eq_ok_iff.mp done
  have taken := takes.respell respelling
  rw [List.map_nil, ← toList_respell] at taken
  refine ⟨words, _, rfl, takes.isWord, scan_eq_ok_iff.mpr ⟨_, taken, ?_⟩⟩
  rw [toList_respell, Position.behind_respell respelling]

/-- A flaw that is left of a respelled flaw is met at the same place. -/
theorem exists_meets_respell (respelling : Respelling f)
    (split : source.toList = front ++ (near ++ rest))
    (takes : Takes (.startOf options.lineNumber) front (near ++ rest) words)
    {shown behind : List Char} (flaw : Flaw cause shown behind)
    (left : (near ++ rest).map f = shown ++ behind) :
    ∃ other, Meets (respell f source) options other ∧
      other = { (Fault.ofFlaw options.filename (.behind options.lineNumber front) front cause near
        rest).respell f with near := .ofList shown } := by
  have whole : (respell f source).toList = front.map f ++ (shown ++ behind) := by
    rw [toList_respell, split, List.map_append, left]
  have taken := takes.respell respelling
  rw [left] at taken
  refine ⟨_, ⟨_, shown, behind, _, cause, whole, taken, flaw, rfl⟩, ?_⟩
  unfold Fault.respell Fault.ofFlaw
  rw [Position.behind_respell respelling, ← lineAround_respell respelling, left]

/-- The fault of a respelled text, where no NUL of the text is respelled. -/
theorem Meets.respell (respelling : Respelling f) (nulStays : f '\x00' = '\x00') {fault : Fault}
    (meets : Meets source options fault) :
    Meets (LoopLex.respell f source) options (fault.respell f) := by
  obtain ⟨front, near, rest, words, cause, split, takes, flaw, rfl⟩ := meets
  have same := flaw.respell respelling fun _ _ => nulStays
  obtain ⟨other, met, rfl⟩ := exists_meets_respell respelling split takes same List.map_append
  rw [← respell_ofList] at met
  exact met

end Scan

end LoopLex
