/-
**What a text starts with, without looking at how it is read.**

A text that is not empty starts with a blank, with a word that nothing behind it makes longer, or
with a stray character that starts no word.

* `Shape.Fits` and `Shape.EndsBefore` — the words of a shape, and where such a word ends;
* `Stray` — the starts of a text at which no word starts;
* `opening` — every text starts in one of the three ways;
* `Head.read_of_blank`, `Head.read_of_fits` and `Head.read_of_stray` — `Head.read` tells which.
-/

import LoopLex.Proofs.Word.Alphabet
import LoopLex.Word.Grammar

namespace LoopLex

open Unicode (isDigit isLetter)

/-! ### The parts of a text -/

/-- A run of characters of a class ends where the next character is not of the class. -/
theorem takeWhile_append_of_apart {p : Char → Bool} {run rest : List Char}
    (inside : ∀ c ∈ run, p c = true) (apart : rest.head?.any p = false) :
    (run ++ rest).takeWhile p = run := by
  rw [List.takeWhile_append_of_pos inside]
  cases rest with
  | nil => simp
  | cons c rest => simp [show p c = false from apart]

theorem dropWhile_append_of_apart {p : Char → Bool} {run rest : List Char}
    (inside : ∀ c ∈ run, p c = true) (apart : rest.head?.any p = false) :
    (run ++ rest).dropWhile p = rest := by
  rw [List.dropWhile_append_of_pos inside]
  cases rest with
  | nil => rfl
  | cons c rest => simp [show p c = false from apart]

theorem head?_dropWhile_any (p : Char → Bool) (text : List Char) :
    (text.dropWhile p).head?.any p = false := by
  have stops := List.head?_dropWhile_not p text
  cases shown : (text.dropWhile p).head? with
  | none => rfl
  | some c =>
    rw [shown] at stops
    exact stops

theorem of_mem_takeWhile {p : Char → Bool} {text : List Char} :
    ∀ c ∈ text.takeWhile p, p c = true :=
  List.all_eq_true.mp List.all_takeWhile

theorem digitRun_takeWhile {text : List Char} (led : text.head?.any isDigit = true) :
    DigitRun (text.takeWhile isDigit) := by
  refine ⟨?_, of_mem_takeWhile⟩
  cases text with
  | nil => cases led
  | cons d text => simp [show isDigit d = true from led]

theorem ne_quote_of_not_mem {inner : List Char} (unquoted : '"' ∉ inner) :
    ∀ c ∈ inner, decide (c ≠ '"') = true :=
  fun _ member => decide_eq_true fun equal => unquoted (equal ▸ member)

/-! ### Words by their shape -/

namespace Shape

/-- The words of each shape. -/
inductive Fits : Shape → List Char → Prop where
  | single {c : Char} {kind : Kind} (known : (c, kind) ∈ Vocabulary.singles) :
    Fits (symbol kind) [c]
  | plain {c : Char} {kind withEquals : Kind}
    (known : (c, kind, withEquals) ∈ Vocabulary.equalsSuffix) : Fits (symbol kind) [c]
  | withEquals {c : Char} {plain kind : Kind}
    (known : (c, plain, kind) ∈ Vocabulary.equalsSuffix) : Fits (symbol kind) [c, '=']
  | notEqual : Fits (symbol .notEqual) ['!', '=']
  | string {inner : List Char} (unquoted : '"' ∉ inner) : Fits string ('"' :: inner ++ ['"'])
  | char (c : Char) : Fits char ['\'', c, '\'']
  | integer {digits : List Char} (run : DigitRun digits) : Fits integer digits
  | fraction {whole digits : List Char} (left : DigitRun whole) (right : DigitRun digits) :
    Fits fraction (whole ++ '.' :: digits)
  | name {first : Char} {more : List Char} (start : isNameStart first)
    (parts : ∀ c ∈ more, isNamePart c) : Fits name (first :: more)

/-- Where a word of a shape ends: nothing at the start of the text behind it makes it longer. -/
def EndsBefore : Shape → List Char → Prop
  | symbol kind, rest => kind ∈ Vocabulary.equalsSuffix.map (·.2.1) → rest.head? ≠ some '='
  | string, _ | char, _ => True
  | integer, rest => rest.head?.any isDigit = false ∧
      ∀ more, rest = '.' :: more → more.head?.any isDigit = false
  | fraction, rest => rest.head?.any isDigit = false
  | name, rest => rest.head?.any isNamePart = false

/-- Whether the words of the shape are numbers. -/
def isNumber : Shape → Bool
  | integer | fraction => true
  | _ => false

theorem endsBefore_nil (shape : Shape) : shape.EndsBefore [] := by
  cases shape with
  | symbol kind =>
    intro _ led
    cases led
  | integer =>
    refine ⟨rfl, ?_⟩
    intro more equal
    cases equal
  | string | char => trivial
  | fraction | name => rfl

/-- An operator that no `=` can follow ends anywhere. -/
theorem endsBefore_of_whole {kind : Kind}
    (whole : kind ∉ Vocabulary.equalsSuffix.map (·.2.1)) (rest : List Char) :
    (symbol kind).EndsBefore rest :=
  fun suffixed => absurd suffixed whole

theorem endsBefore_of_single {c : Char} {kind : Kind} (known : (c, kind) ∈ Vocabulary.singles)
    (rest : List Char) : (symbol kind).EndsBefore rest := by
  have whole : ∀ entry ∈ Vocabulary.singles, entry.2 ∉ Vocabulary.equalsSuffix.map (·.2.1) := by
    decide
  exact endsBefore_of_whole (whole _ known) rest

theorem endsBefore_of_withEquals {c : Char} {plain kind : Kind}
    (known : (c, plain, kind) ∈ Vocabulary.equalsSuffix) (rest : List Char) :
    (symbol kind).EndsBefore rest := by
  have whole : ∀ entry ∈ Vocabulary.equalsSuffix,
      entry.2.2 ∉ Vocabulary.equalsSuffix.map (·.2.1) := by
    decide
  exact endsBefore_of_whole (whole _ known) rest

theorem endsBefore_notEqual (rest : List Char) : (symbol .notEqual).EndsBefore rest :=
  endsBefore_of_whole (by decide) rest

theorem Fits.ne_nil {shape : Shape} {word : List Char} (fits : shape.Fits word) : word ≠ [] := by
  cases fits with
  | integer run => exact run.1
  | _ => simp

theorem Fits.exists_cons {shape : Shape} {word : List Char} (fits : shape.Fits word) :
    ∃ c more, word = c :: more :=
  List.exists_cons_of_ne_nil fits.ne_nil

/-- The operators and separators are those of the tables, and `!=`. -/
theorem symbols_eq : symbols =
    Vocabulary.singles.map (fun entry => [entry.1]) ++
      Vocabulary.equalsSuffix.map (fun entry => [entry.1]) ++
      Vocabulary.equalsSuffix.map (fun entry => [entry.1, '=']) ++ [['!', '=']] := rfl

theorem Fits.mem_symbols {kind : Kind} {word : List Char} (fits : (symbol kind).Fits word) :
    word ∈ symbols := by
  rw [symbols_eq]
  simp only [List.mem_append, List.mem_map, List.mem_singleton]
  cases fits with
  | single known => exact .inl (.inl (.inl ⟨_, known, rfl⟩))
  | plain known => exact .inl (.inl (.inr ⟨_, known, rfl⟩))
  | withEquals known => exact .inl (.inr ⟨_, known, rfl⟩)
  | notEqual => exact .inr rfl

/-- **A text is a word if it is a word of some shape.** -/
theorem word_iff_fits {word : List Char} : Word word ↔ ∃ shape, Fits shape word := by
  constructor
  · intro isWord
    cases isWord with
    | symbol known =>
      rw [symbols_eq] at known
      simp only [List.mem_append, List.mem_map, List.mem_singleton] at known
      rcases known with ((⟨⟨c, kind⟩, member, rfl⟩ | ⟨⟨c, plain, kind⟩, member, rfl⟩) |
        ⟨⟨c, plain, kind⟩, member, rfl⟩) | rfl
      · exact ⟨_, .single member⟩
      · exact ⟨_, .plain member⟩
      · exact ⟨_, .withEquals member⟩
      · exact ⟨_, .notEqual⟩
    | string unquoted => exact ⟨_, .string unquoted⟩
    | char c => exact ⟨_, .char c⟩
    | integer run => exact ⟨_, .integer run⟩
    | fraction left right => exact ⟨_, .fraction left right⟩
    | name start parts => exact ⟨_, .name start parts⟩
  · rintro ⟨shape, fits⟩
    cases fits with
    | single known => exact .symbol (Fits.single known).mem_symbols
    | plain known => exact .symbol (Fits.plain known).mem_symbols
    | withEquals known => exact .symbol (Fits.withEquals known).mem_symbols
    | notEqual => exact .symbol Fits.notEqual.mem_symbols
    | string unquoted => exact .string unquoted
    | char c => exact .char c
    | integer run => exact .integer run
    | fraction left right => exact .fraction left right
    | name start parts => exact .name start parts

end Shape

/-! ### Starts of a text at which no word starts -/

/-- A cause, the characters that show it at the start of a text, and the text behind them. -/
inductive Stray : Cause → List Char → List Char → Prop where
  | bang {rest : List Char} (alone : rest.head? ≠ some '=') : Stray .strayBang ['!'] rest
  | character {c : Char} {rest : List Char} (unknown : c ∉ openers)
    (noPart : isNamePart c = false) :
    Stray .strayCharacter [c] rest
  | string {inner : List Char} (unquoted : '"' ∉ inner) : Stray .openString ('"' :: inner) []
  | charAtEnd {rest : List Char} (short : rest.length < 2) : Stray .openChar ['\''] rest
  | charBeforeNul (c : Char) (rest : List Char) : Stray .openChar ['\''] (c :: '\x00' :: rest)
  | char (c : Char) {next : Char} {rest : List Char} (notNul : next ≠ '\x00')
    (notQuote : next ≠ '\'') : Stray .openChar ['\'', c] (next :: rest)

/-- What a text that is not empty starts with: `c` is its first character, `ahead` the text behind
it, and `more` what belongs to the word or to the stray characters beyond `c`. -/
inductive Opening (c : Char) (ahead : List Char) : Prop where
  | blank (blank : c ∈ Vocabulary.blanks)
  | word {shape : Shape} {more rest : List Char} (split : ahead = more ++ rest)
    (fits : shape.Fits (c :: more)) (ends : shape.EndsBefore rest)
  | stray {cause : Cause} {more rest : List Char} (split : ahead = more ++ rest)
    (stray : Stray cause (c :: more) rest)

namespace Opening

theorem of_equalsSuffix {c : Char} {plain withEquals : Kind}
    (known : (c, plain, withEquals) ∈ Vocabulary.equalsSuffix) (ahead : List Char) :
    Opening c ahead := by
  by_cases led : ahead.head? = some '='
  · obtain ⟨rest, rfl⟩ := List.head?_eq_some_iff.mp led
    have split : '=' :: rest = ['='] ++ rest := rfl
    exact .word split (.withEquals known) (Shape.endsBefore_of_withEquals known rest)
  · exact .word (List.nil_append ahead).symm (.plain known) fun _ => led

theorem of_bang (ahead : List Char) : Opening '!' ahead := by
  by_cases led : ahead.head? = some '='
  · obtain ⟨rest, rfl⟩ := List.head?_eq_some_iff.mp led
    have split : '=' :: rest = ['='] ++ rest := rfl
    exact .word split .notEqual (Shape.endsBefore_notEqual rest)
  · exact .stray (List.nil_append ahead).symm (.bang led)

theorem of_doubleQuote (ahead : List Char) : Opening '"' ahead := by
  by_cases closed : '"' ∈ ahead
  · obtain ⟨inner, rest, rfl, unquoted⟩ := List.eq_append_cons_of_mem closed
    have split : inner ++ '"' :: rest = (inner ++ ['"']) ++ rest := by
      rw [List.append_assoc, List.singleton_append]
    exact .word split (.string unquoted) trivial
  · exact .stray (List.append_nil ahead).symm (.string closed)

theorem of_singleQuote (ahead : List Char) : Opening '\'' ahead := by
  match ahead with
  | [] | [_] => exact .stray (List.nil_append _).symm (.charAtEnd (by simp))
  | c :: next :: rest =>
    by_cases nul : next = '\x00'
    · subst nul
      exact .stray (List.nil_append _).symm (.charBeforeNul c rest)
    · by_cases quote : next = '\''
      · subst quote
        have split : c :: '\'' :: rest = [c, '\''] ++ rest := rfl
        exact .word split (.char c) trivial
      · have split : c :: next :: rest = [c] ++ next :: rest := rfl
        exact .stray split (.char c nul quote)

theorem of_isDigit {c : Char} (digit : isDigit c = true) (ahead : List Char) :
    Opening c ahead := by
  have whole : DigitRun (c :: ahead.takeWhile isDigit) :=
    ⟨by simp, List.forall_mem_cons.mpr ⟨digit, of_mem_takeWhile⟩⟩
  by_cases dotted : ∃ more, ahead.dropWhile isDigit = '.' :: more ∧ more.head?.any isDigit = true
  · obtain ⟨more, dot, led⟩ := dotted
    have split : ahead = (ahead.takeWhile isDigit ++ '.' :: more.takeWhile isDigit) ++
        more.dropWhile isDigit := by
      rw [List.append_assoc, List.cons_append, List.takeWhile_append_dropWhile, ← dot,
        List.takeWhile_append_dropWhile]
    exact .word split (.fraction whole (digitRun_takeWhile led)) (head?_dropWhile_any _ _)
  · refine .word List.takeWhile_append_dropWhile.symm (.integer whole)
      ⟨head?_dropWhile_any _ _, fun more dot => ?_⟩
    exact Bool.eq_false_iff.mpr fun led => dotted ⟨more, dot, led⟩

theorem of_not_mem_openers {c : Char} (unknown : c ∉ openers) (ahead : List Char) :
    Opening c ahead := by
  by_cases digit : isDigit c = true
  · exact of_isDigit digit ahead
  · by_cases start : isNameStart c = true
    · exact .word List.takeWhile_append_dropWhile.symm (.name start of_mem_takeWhile)
        (head?_dropWhile_any _ _)
    · refine .stray (List.nil_append ahead).symm (.character unknown ?_)
      rw [isNamePart, Bool.eq_false_iff.mpr start, Bool.eq_false_iff.mpr digit]
      rfl

end Opening

/-- **Every text that is not empty starts with a blank, a word or a stray character.** -/
theorem opening (c : Char) (ahead : List Char) : Opening c ahead := by
  by_cases opener : c ∈ openers
  · simp only [openers, List.mem_append, List.mem_map, List.mem_cons, List.not_mem_nil,
      or_false] at opener
    rcases opener with ((⟨_, known, rfl⟩ | ⟨_, known, rfl⟩) | blank) | (rfl | rfl | rfl)
    · exact .word (List.nil_append ahead).symm (.single known) (Shape.endsBefore_of_single known _)
    · exact .of_equalsSuffix known ahead
    · exact .blank blank
    · exact .of_bang ahead
    · exact .of_doubleQuote ahead
    · exact .of_singleQuote ahead
  · exact .of_not_mem_openers opener ahead

/-! ### Reading tells the three ways apart -/

namespace Head

theorem read_of_blank {c : Char} (ahead : List Char) (blank : c ∈ Vocabulary.blanks) :
    read c ahead = .blank := by
  simp only [Vocabulary.blanks, List.mem_cons, List.not_mem_nil, or_false] at blank
  rcases blank with rfl | rfl | rfl | rfl <;> rfl

theorem read_of_single {c : Char} {kind : Kind} (ahead : List Char)
    (known : (c, kind) ∈ Vocabulary.singles) : read c ahead = .word (.symbol kind) [] := by
  have found : ∀ entry ∈ Vocabulary.singles,
      Vocabulary.singles.lookup entry.1 = some entry.2 := by
    decide
  rw [read, found _ known]

theorem read_of_equalsSuffix {c : Char} {plain withEquals : Kind} (ahead : List Char)
    (known : (c, plain, withEquals) ∈ Vocabulary.equalsSuffix) :
    read c ahead = readEquals plain withEquals ahead := by
  have found : ∀ entry ∈ Vocabulary.equalsSuffix,
      Vocabulary.singles.lookup entry.1 = none ∧
        Vocabulary.equalsSuffix.lookup entry.1 = some entry.2 := by
    decide
  rw [read, (found _ known).1, (found _ known).2]

theorem readString_append {inner rest : List Char} (unquoted : '"' ∉ inner) :
    readString (inner ++ ['"'] ++ rest) = .word .string (inner ++ ['"']) := by
  have inside := ne_quote_of_not_mem unquoted
  have reach : (inner ++ ['"'] ++ rest).takeWhile (· ≠ '"') = inner := by
    rw [List.append_assoc]
    exact takeWhile_append_of_apart inside rfl
  rw [readString, reach, if_neg]
  simp

theorem readString_of_not_mem {inner : List Char} (unquoted : '"' ∉ inner) :
    readString inner = .flaw .openString inner := by
  have inside := ne_quote_of_not_mem unquoted
  have reach : inner.takeWhile (· ≠ '"') = inner := by
    have cut : (inner ++ []).takeWhile (· ≠ '"') = inner := takeWhile_append_of_apart inside rfl
    rwa [List.append_nil] at cut
  rw [readString, reach, if_pos (Nat.le_refl _)]

/-- A run of digits is read as an integer where no digit follows, nor a dot and a digit. -/
theorem readNumber_integer {more rest : List Char} (digits : ∀ c ∈ more, isDigit c = true)
    (ends : Shape.integer.EndsBefore rest) :
    readNumber (more ++ rest) = closeNumber .integer more rest := by
  unfold readNumber
  rw [takeWhile_append_of_apart digits ends.1, dropWhile_append_of_apart digits ends.1]
  split
  · rename_i after
    rw [if_neg]
    rw [ends.2 after rfl]
    exact Bool.false_ne_true
  · rfl

theorem readNumber_fraction {more digits rest : List Char} (whole : ∀ c ∈ more, isDigit c = true)
    (right : DigitRun digits) (ends : Shape.fraction.EndsBefore rest) :
    readNumber (more ++ '.' :: digits ++ rest) =
      closeNumber .fraction (more ++ '.' :: digits) rest := by
  obtain ⟨nonempty, inside⟩ := right
  have dot : ('.' :: (digits ++ rest)).head?.any isDigit = false := by
    exact isDigit_of_mem_signs (by decide)
  have led : (digits ++ rest).head?.any isDigit = true := by
    cases digits with
    | nil => exact absurd rfl nonempty
    | cons d digits => exact inside d List.mem_cons_self
  rw [List.append_assoc, List.cons_append]
  unfold readNumber
  rw [takeWhile_append_of_apart whole dot, dropWhile_append_of_apart whole dot]
  simp only [led, if_true]
  rw [takeWhile_append_of_apart inside ends, dropWhile_append_of_apart inside ends]

/-- What a character starts that is neither a digit nor an opener, but can start a name. -/
theorem read_of_isNameStart {c : Char} (ahead : List Char) (start : isNameStart c = true) :
    read c ahead = .word .name (ahead.takeWhile isNamePart) := by
  have unknown : c ∉ openers := not_mem_openers_of_isNamePart (by rw [isNamePart, start]; rfl)
  have noDigit : ¬ isDigit c = true := by
    intro digit
    rw [isNameStart_of_isDigit digit] at start
    cases start
  rw [read_of_not_mem_openers ahead unknown, if_neg noDigit, if_pos start]

theorem read_of_isDigit {c : Char} (ahead : List Char) (digit : isDigit c = true) :
    read c ahead = readNumber ahead := by
  have unknown : c ∉ openers :=
    not_mem_openers_of_isNamePart (by rw [isNamePart, digit, Bool.or_true])
  rw [read_of_not_mem_openers ahead unknown, if_pos digit]

/-- **A word is read to its end.** Only a number can be refused, for a letter behind it. -/
theorem read_of_fits {shape : Shape} {c : Char} {more rest : List Char}
    (fits : shape.Fits (c :: more)) (ends : shape.EndsBefore rest) :
    read c (more ++ rest) =
      if shape.isNumber then closeNumber shape more rest else .word shape more := by
  generalize equal : c :: more = word at fits
  cases fits with
  | single known =>
    cases equal
    exact read_of_single rest known
  | plain known =>
    cases equal
    rw [List.nil_append, read_of_equalsSuffix rest known, readEquals,
      if_neg (ends (List.mem_map_of_mem known))]
    rfl
  | withEquals known =>
    cases equal
    rw [List.singleton_append, read_of_equalsSuffix _ known]
    rfl
  | notEqual =>
    cases equal
    rfl
  | string unquoted =>
    cases equal
    exact readString_append unquoted
  | char c =>
    cases equal
    rfl
  | integer run =>
    subst equal
    obtain ⟨digit, digits⟩ := List.forall_mem_cons.mp run.2
    rw [read_of_isDigit _ digit, readNumber_integer digits ends]
    rfl
  | @fraction whole digits left right =>
    obtain ⟨nonempty, inside⟩ := left
    cases whole with
    | nil => exact absurd rfl nonempty
    | cons d whole =>
      cases equal
      obtain ⟨digit, inside⟩ := List.forall_mem_cons.mp inside
      exact (read_of_isDigit _ digit).trans (readNumber_fraction inside right ends)
  | name start parts =>
    cases equal
    rw [read_of_isNameStart _ start, takeWhile_append_of_apart parts ends]
    rfl

/-- **A stray character is read as the flaw that it shows.** -/
theorem read_of_stray {cause : Cause} {c : Char} {more rest : List Char}
    (stray : Stray cause (c :: more) rest) : read c (more ++ rest) = .flaw cause more := by
  generalize equal : c :: more = near at stray
  cases stray with
  | bang alone =>
    cases equal
    show (if rest.head? = some '=' then Head.word _ _ else _) = _
    rw [if_neg alone]
  | character unknown noPart =>
    cases equal
    obtain ⟨noStart, noDigit⟩ := Bool.or_eq_false_iff.mp noPart
    rw [read_of_not_mem_openers _ unknown, noStart, noDigit]
    rfl
  | string unquoted =>
    cases equal
    rw [List.append_nil]
    exact readString_of_not_mem unquoted
  | charAtEnd short =>
    cases equal
    match rest, short with
    | [], _ | [_], _ => rfl
  | charBeforeNul c rest =>
    cases equal
    rfl
  | @char c next rest notNul notQuote =>
    cases equal
    have openChar : read '\'' (c :: next :: rest) = readChar (c :: next :: rest) := rfl
    rw [List.singleton_append, openChar, readChar, if_neg notNul, if_neg notQuote]

end Head

end LoopLex
