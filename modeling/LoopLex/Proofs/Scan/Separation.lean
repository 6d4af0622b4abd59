/-
**Which words need a gap between them.** Words that are laid out with gaps are scanned as the same
words exactly if none runs into the next.

A word is read in front of a character unless it runs into it, and in front of every blank. So only
two words with no gap between them can change each other, and the kind of the first and the first
character of the second tell whether they do.

* `Shape.Fits.reads_cons_iff` — a word is read in front of a character that it does not run into;
* `Lone.exists_fits` — a text that is one word by itself has the shape of one;
* `exists_takes_spaced` and `isChain_of_takes` — words are taken with their gaps if none runs into
  the next, and only then;
* `scan_spaced_iff` — the scan of words with their gaps.
-/

import LoopLex.Proofs.Scan.Rendering
import LoopLex.Proofs.Word.Meaning
import LoopLex.Scan.Spacing
import Mathlib.Data.List.Chain
import Mathlib.Data.List.Forall2

namespace LoopLex

open Unicode (isDigit isLetter)

/-! ### Words in front of a character -/

/-- Whether a word of the shape runs into a `c` right behind it. -/
def Shape.runsInto (shape : Shape) (c : Char) : Bool :=
  match shape with
  | symbol kind => [.assign, .less, .greater].contains kind && c = '='
  | string | char => false
  | integer | fraction => isLetter c || isDigit c
  | name => isNamePart c

namespace Shape

/-- **A word is read in front of a character that it does not run into**, and of no other. -/
theorem Fits.reads_cons_iff {shape : Shape} {word rest : List Char} {c : Char}
    (fits : shape.Fits word) (noDot : c ≠ '.') :
    shape.Reads word (c :: rest) ↔ shape.runsInto c = false := by
  have numbers : (isLetter c || isDigit c) = false ↔ isDigit c = false ∧ isLetter c = false := by
    rw [Bool.or_eq_false_iff, and_comm]
  cases shape with
  | symbol kind =>
    have suffixed : [Kind.assign, .less, .greater].contains kind = true ↔
        kind ∈ Vocabulary.equalsSuffix.map (·.2.1) := List.contains_iff_mem
    constructor
    · intro reads
      refine Bool.eq_false_iff.mpr fun runs => ?_
      obtain ⟨known, equals⟩ := Bool.and_eq_true_iff.mp runs
      rw [of_decide_eq_true equals] at reads
      exact reads.ends (suffixed.mp known) rfl
    · intro apart
      refine ⟨fits, fun known led => ?_, fun number => by cases number⟩
      cases led
      have runs : runsInto (symbol kind) '=' = true :=
        Bool.and_eq_true_iff.mpr ⟨suffixed.mpr known, rfl⟩
      rw [apart] at runs
      cases runs
  | string => exact ⟨fun _ => rfl, fun _ => ⟨fits, trivial, fun number => by cases number⟩⟩
  | char => exact ⟨fun _ => rfl, fun _ => ⟨fits, trivial, fun number => by cases number⟩⟩
  | integer =>
    refine Iff.trans ⟨fun reads => ⟨reads.ends.1, reads.apart rfl⟩, fun apart => ?_⟩ numbers.symm
    refine ⟨fits, ⟨apart.1, ?_⟩, fun _ => apart.2⟩
    intro more dot
    exact absurd (List.cons.inj dot).1 noDot
  | fraction =>
    exact Iff.trans ⟨fun reads => ⟨reads.ends, reads.apart rfl⟩,
      fun apart => ⟨fits, apart.1, fun _ => apart.2⟩⟩ numbers.symm
  | name =>
    exact ⟨fun reads => reads.ends, fun apart => ⟨fits, apart, fun number => by cases number⟩⟩

/-! ### The kind of a word tells what it runs into -/

/-- A word that is spelled like a name has a kind of its own. -/
theorem decodeName_fst_mem (name : String) : (decodeName name).1 ∈ Vocabulary.nameKinds := by
  have operators : ∀ entry ∈ Vocabulary.logicalOperators, entry.2 ∈ Vocabulary.nameKinds := by
    decide
  have keywords : ∀ entry ∈ Vocabulary.keywords, entry.2 ∈ Vocabulary.nameKinds := by decide
  unfold decodeName
  split
  · exact List.mem_cons_of_mem _ List.mem_cons_self
  · rename_i found
    exact operators _ (mem_of_lookup found)
  · cases found : Vocabulary.keywords.lookup name with
    | none => decide
    | some kind => exact keywords _ (mem_of_lookup found)

/-- **The kind of a word tells what the word runs into.** -/
theorem Fits.runsInto_eq {shape : Shape} {word : List Char} {kind : Kind}
    {literal : Option Literal} (fits : shape.Fits word)
    (decoded : shape.decode word = .ok (kind, literal)) (c : Char) :
    kind.runsInto c = shape.runsInto c := by
  cases shape with
  | symbol symbolKind =>
    cases decoded
    have noName : ∀ kind ∈ symbolKinds, Vocabulary.nameKinds.contains kind = false ∧
        [Kind.intLiteral, .floatLiteral].contains kind = false := by
      decide
    obtain ⟨name, number⟩ := noName kind fits.mem_symbolKinds
    rw [Kind.runsInto, name, number]
    rfl
  | string | char =>
    cases decoded
    rfl
  | integer | fraction =>
    obtain ⟨value, made⟩ := exists_of_map_eq_ok decoded
    cases made
    exact Bool.or_false _
  | name =>
    have same : (decodeName _).1 = kind := congrArg Prod.fst (Except.ok.inj decoded)
    have known : kind ∈ Vocabulary.nameKinds := same ▸ decodeName_fst_mem _
    have noOther : ∀ kind ∈ Vocabulary.nameKinds,
        [Kind.intLiteral, .floatLiteral].contains kind = false ∧
          [Kind.assign, .less, .greater].contains kind = false := by
      decide
    obtain ⟨number, operator⟩ := noOther kind known
    rw [Kind.runsInto, number, operator, List.contains_iff_mem.mpr known, Bool.false_and,
      Bool.false_and, Bool.or_false, Bool.or_false, Bool.true_and]
    rfl

end Shape

namespace Scan

variable {place : Position} {gap text rest : List Char} {tokens : List Token} {token : Token}
  {entries : List Spaced} {options : Options}

/-! ### What is taken of a text with a gap or a word in front -/

/-- **Blanks in front of a text are passed over.** -/
theorem Takes.of_blanks_append (takes : Takes place (gap ++ text) rest tokens)
    (blanks : ∀ c ∈ gap, c ∈ Vocabulary.blanks) :
    Takes (place.afterText gap) text rest tokens := by
  induction gap generalizing place with
  | nil => exact takes
  | cons c gap ih =>
    obtain ⟨blank, blanks⟩ := List.forall_mem_cons.mp blanks
    generalize equal : c :: gap ++ text = whole at takes
    cases takes with
    | nil => cases equal
    | blank _ later =>
      cases equal
      exact ih later blanks
    | word reads =>
      obtain ⟨d, more, rfl⟩ := reads.fits.exists_cons
      obtain ⟨rfl, _⟩ := List.cons.inj equal
      exact absurd blank reads.fits.not_blank

/-- A word in front of a text is read, if it is the lexeme of the first token. -/
theorem Takes.exists_reads {shape : Shape} {word : List Char} (fits : shape.Fits word)
    (takes : Takes place (word ++ text) rest (token :: tokens))
    (lexeme : token.lexeme = .ofList word) :
    shape.Reads word (text ++ rest) ∧ Takes (place.afterText word) text rest tokens := by
  generalize equal : word ++ text = whole at takes
  cases takes with
  | blank blank =>
    obtain ⟨d, more, rfl⟩ := fits.exists_cons
    cases equal
    exact absurd blank fits.not_blank
  | @word _ shape' word' text' _ kind literal _ reads decoded later =>
    obtain rfl : word' = word := String.ofList_injective lexeme
    obtain rfl := List.append_cancel_left equal
    obtain rfl := reads.fits.unique fits
    exact ⟨reads, later⟩

/-- No lexeme of what is taken of a text is longer than the text. -/
theorem Takes.lexeme_length_le (takes : Takes place text rest tokens) :
    ∀ token ∈ tokens, token.lexeme.length ≤ text.length := by
  induction takes with
  | nil => exact List.forall_mem_nil _
  | blank blank later ih => exact fun token member => Nat.le_succ_of_le (ih token member)
  | @word _ _ word text _ _ _ _ reads decoded later ih =>
    rw [List.length_append, List.forall_mem_cons]
    constructor
    · show (String.ofList word).length ≤ _
      rw [String.length_ofList]
      exact Nat.le_add_right _ _
    · exact fun token member => Nat.le_add_left_of_le (ih token member)

/-- **A text that is one word by itself has the shape of a word**, with the meaning of its token. -/
theorem Lone.exists_fits (lone : Lone) :
    ∃ shape : Shape, shape.Fits lone.word ∧
      shape.decode lone.word = .ok (lone.token.kind, lone.token.literal) := by
  obtain ⟨options, last, done⟩ := lone.alone
  obtain ⟨words, takes, same⟩ := scan_eq_ok_iff.mp done
  have split : [lone.token] ++ [last] = words ++ [_] := same
  obtain ⟨rfl, _⟩ := List.append_inj' split rfl
  rw [String.toList_ofList] at takes
  have whole := lone.whole
  generalize lone.word = text at takes whole
  generalize lone.token = token at takes whole
  cases takes with
  | blank blank later =>
    have short := later.lexeme_length_le token List.mem_cons_self
    rw [whole, String.length_ofList, List.length_cons] at short
    exact absurd short (Nat.not_succ_le_self _)
  | @word _ shape word text _ _ _ _ reads decoded later =>
    obtain rfl : text = [] := List.self_eq_append_right.mp (String.ofList_injective whole)
    rw [List.append_nil]
    exact ⟨shape, reads.fits, decoded⟩

/-! ### Words with their gaps -/

theorem spaced_cons (gap : List Char) (entry : Spaced) (entries : List Spaced) :
    spaced gap (entry :: entries) = gap ++ (entry.word ++ spaced entry.gap entries) := by
  simp only [spaced, List.flatMap_cons, List.append_assoc]

/-- A word is read in front of its gap and the words behind unless it runs into the next one. -/
theorem Spaced.reads_iff {shape : Shape} {entry : Spaced} (fits : shape.Fits entry.word)
    (decoded : shape.decode entry.word = .ok (entry.token.kind, entry.token.literal)) :
    shape.Reads entry.word (spaced entry.gap entries) ↔
      ∀ next ∈ entries.head?, ¬ entry.RunsInto next := by
  cases gap : entry.gap with
  | cons c more =>
    have blank : StartsBlank (spaced (c :: more) entries) := by
      intro d led
      cases led
      exact entry.blank c (gap ▸ List.mem_cons_self)
    refine ⟨fun _ next _ runs => ?_, fun _ => fits.reads_of_blank blank⟩
    rw [runs.1] at gap
    cases gap
  | nil =>
    cases entries with
    | nil =>
      refine ⟨fun _ next member => ?_, fun _ => fits.reads_nil⟩
      cases member
    | cons next entries =>
      obtain ⟨shape', fits', _⟩ := next.exists_fits
      obtain ⟨c, more, word⟩ := fits'.exists_cons
      rw [word] at fits'
      have led : next.word.head?.any entry.token.kind.runsInto = shape.runsInto c := by
        rw [word]
        exact fits.runsInto_eq decoded c
      have text : spaced [] (next :: entries) = c :: (more ++ spaced next.gap entries) := by
        rw [spaced_cons, word]
        rfl
      rw [text, fits.reads_cons_iff fits'.head_ne_dot, ← led]
      constructor
      · intro apart other member runs
        obtain rfl := Option.some.inj member
        rw [Spaced.RunsInto, apart] at runs
        cases runs.2
      · intro apart
        exact Bool.eq_false_iff.mpr fun runs => apart next rfl ⟨gap, runs⟩

/-- **Words none of which runs into the next are taken with their gaps.** -/
theorem exists_takes_spaced (blank : ∀ c ∈ gap, c ∈ Vocabulary.blanks)
    (apart : entries.IsChain fun first next => ¬ first.RunsInto next) (place : Position) :
    ∃ tokens, Takes place (spaced gap entries) [] tokens ∧
      tokens.map (·.content) = entries.map (·.token.content) := by
  induction entries generalizing gap place with
  | nil => exact ⟨[], Takes.blanks_append blank (.nil _ _), rfl⟩
  | cons entry entries ih =>
    obtain ⟨next, later⟩ := List.isChain_cons.mp apart
    obtain ⟨shape, fits, decoded⟩ := entry.exists_fits
    have reads := (Spaced.reads_iff fits decoded).mpr next
    obtain ⟨tokens, takes, same⟩ :=
      ih entry.blank later ((place.afterText gap).afterText entry.word)
    refine ⟨.ofWord (place.afterText gap) entry.word entry.token.kind entry.token.literal :: tokens,
      ?_, ?_⟩
    · rw [spaced_cons]
      refine Takes.blanks_append blank (.word ?_ decoded takes)
      rw [List.append_nil]
      exact reads
    · rw [List.map_cons, List.map_cons, same, Token.content, Token.content, entry.whole]
      rfl

/-- **Words that are taken with their gaps do not run into each other.** -/
theorem isChain_of_takes (blank : ∀ c ∈ gap, c ∈ Vocabulary.blanks)
    (takes : Takes place (spaced gap entries) [] tokens)
    (same : tokens.map (·.content) = entries.map (·.token.content)) :
    entries.IsChain fun first next => ¬ first.RunsInto next := by
  induction entries generalizing gap place tokens with
  | nil => exact .nil
  | cons entry entries ih =>
    obtain ⟨shape, fits, decoded⟩ := entry.exists_fits
    rw [spaced_cons] at takes
    obtain ⟨token, later, rfl, content, rest⟩ := List.map_eq_cons_iff.mp same
    have lexeme : token.lexeme = .ofList entry.word :=
      (congrArg (fun content => content.2.1) content).trans entry.whole
    obtain ⟨reads, takes⟩ := (takes.of_blanks_append blank).exists_reads fits lexeme
    rw [List.append_nil] at reads
    exact List.isChain_cons.mpr ⟨(Spaced.reads_iff fits decoded).mp reads,
      ih entry.blank takes rest⟩

theorem keepsTokens_iff (blank : ∀ c ∈ gap, c ∈ Vocabulary.blanks) :
    KeepsTokens gap entries options ↔
      entries.IsChain fun first next => ¬ first.RunsInto next := by
  constructor
  · rintro ⟨tokens, place, done, same⟩
    obtain ⟨words, takes, split⟩ := scan_eq_ok_iff.mp done
    obtain ⟨rfl, _⟩ := List.append_inj' split rfl
    rw [String.toList_ofList] at takes
    exact isChain_of_takes blank takes same
  · intro apart
    obtain ⟨tokens, takes, same⟩ :=
      exists_takes_spaced blank apart (.startOf options.lineNumber)
    refine ⟨tokens, _, scan_eq_ok_iff.mpr ⟨tokens, ?_, rfl⟩, same⟩
    rw [String.toList_ofList]
    exact takes

/-- Words that run into each other with wider gaps do so with narrower ones. -/
theorem Spaced.Widened.runsInto {first next first' next' : Spaced} (left : first.Widened first')
    (right : next.Widened next') (runs : first'.RunsInto next') : first.RunsInto next := by
  obtain ⟨narrow, led⟩ := runs
  have word : next'.word = next.word := congrArg Lone.word right.same
  have token : first'.token = first.token := congrArg Lone.token left.same
  rw [word, token] at led
  exact ⟨left.room narrow, led⟩

/-- Wider gaps keep words apart. -/
theorem isChain_of_widened {wider : List Spaced}
    (widened : List.Forall₂ Spaced.Widened entries wider)
    (apart : entries.IsChain fun first next => ¬ first.RunsInto next) :
    wider.IsChain fun first next => ¬ first.RunsInto next := by
  induction widened with
  | nil => exact .nil
  | cons here later ih =>
    obtain ⟨next, rest⟩ := List.isChain_cons.mp apart
    refine List.isChain_cons.mpr ⟨?_, ih rest⟩
    intro follower member runs
    cases later with
    | nil => cases member
    | cons there _ =>
      obtain rfl := Option.some.inj member
      exact next _ rfl (here.runsInto there runs)

/-- **The scan of words with gaps between them has their tokens exactly if no word runs into the
next.** So a gap can be put between any two words, and any gap can be changed into another one that
is not empty. -/
theorem scan_spaced_iff {gap : List Char} (blank : ∀ c ∈ gap, c ∈ Vocabulary.blanks)
    (entries : List Spaced) (options : Options) :
    (KeepsTokens gap entries options ↔
      entries.IsChain fun first next => ¬ first.RunsInto next) ∧
    (KeepsTokens gap entries options → ∀ other wider, (∀ c ∈ other, c ∈ Vocabulary.blanks) →
      List.Forall₂ Spaced.Widened entries wider → KeepsTokens other wider options) := by
  refine ⟨keepsTokens_iff blank, ?_⟩
  intro keeps other wider otherBlank widened
  exact (keepsTokens_iff otherBlank).mpr
    (isChain_of_widened widened ((keepsTokens_iff blank).mp keeps))

/-- A name that touches the number in front of it, the same words with gaps, and two operators that
touch and are scanned as one. -/
theorem scan_spaced_iff_touching :
    ∃ touching wider clashing : List Spaced,
      (spaced [] touching = ['3', '_'] ∧ KeepsTokens [] touching ⟨"f", 1⟩) ∧
      (spaced ['\t'] wider = ['\t', '3', ' ', '_', '\n'] ∧ KeepsTokens ['\t'] wider ⟨"f", 1⟩) ∧
      spaced [] clashing = ['<', '='] ∧ clashing.length = 2 ∧
        ¬ KeepsTokens [] clashing ⟨"f", 1⟩ := by
  obtain ⟨number, word3, kind3⟩ : ∃ lone : Lone, lone.word = ['3'] ∧
      lone.token.kind = .intLiteral :=
    ⟨⟨['3'], ⟨.intLiteral, "3", some (.int 3), 1, 1, 1⟩,
      ⟨⟨"f", 1⟩, .endOfInput ⟨1, 2⟩, by decide +kernel⟩, rfl⟩, rfl, rfl⟩
  obtain ⟨name, word_, _⟩ : ∃ lone : Lone, lone.word = ['_'] ∧ lone.token.kind = .identifier :=
    ⟨⟨['_'], ⟨.identifier, "_", none, 1, 1, 1⟩,
      ⟨⟨"f", 1⟩, .endOfInput ⟨1, 2⟩, by decide +kernel⟩, rfl⟩, rfl, rfl⟩
  obtain ⟨less, wordLess, kindLess⟩ : ∃ lone : Lone, lone.word = ['<'] ∧
      lone.token.kind = .less :=
    ⟨⟨['<'], ⟨.less, "<", none, 1, 1, 1⟩,
      ⟨⟨"f", 1⟩, .endOfInput ⟨1, 2⟩, by decide +kernel⟩, rfl⟩, rfl, rfl⟩
  obtain ⟨equals, wordEquals, _⟩ : ∃ lone : Lone, lone.word = ['='] ∧
      lone.token.kind = .assign :=
    ⟨⟨['='], ⟨.assign, "=", none, 1, 1, 1⟩,
      ⟨⟨"f", 1⟩, .endOfInput ⟨1, 2⟩, by decide +kernel⟩, rfl⟩, rfl, rfl⟩
  have noGap : ∀ c ∈ ([] : List Char), c ∈ Vocabulary.blanks := List.forall_mem_nil _
  have gap : ∀ d ∈ Vocabulary.blanks, ∀ c ∈ [d], c ∈ Vocabulary.blanks := fun d blank =>
    List.forall_mem_singleton.mpr blank
  have touching : KeepsTokens [] [⟨number, [], noGap⟩, ⟨name, [], noGap⟩] ⟨"f", 1⟩ := by
    refine (scan_spaced_iff noGap _ _).1.mpr (.cons_cons ?_ (.singleton _))
    rintro ⟨_, runs⟩
    rw [word_, kind3] at runs
    exact absurd runs (by decide)
  refine ⟨_, [⟨number, [' '], gap _ (by decide)⟩, ⟨name, ['\n'], gap _ (by decide)⟩],
    [⟨less, [], noGap⟩, ⟨equals, [], noGap⟩], ⟨?_, touching⟩, ⟨?_, ?_⟩, ?_, rfl, ?_⟩
  · simp only [spaced, List.flatMap_cons, List.flatMap_nil, word3, word_]
    rfl
  · simp only [spaced, List.flatMap_cons, List.flatMap_nil, word3, word_]
    rfl
  · refine (scan_spaced_iff noGap _ _).2 touching _ _ (gap _ (by decide)) ?_
    exact .cons ⟨rfl, fun _ => rfl⟩ (.cons ⟨rfl, fun _ => rfl⟩ .nil)
  · simp only [spaced, List.flatMap_cons, List.flatMap_nil, wordLess, wordEquals]
    rfl
  · intro keeps
    have apart := (scan_spaced_iff noGap _ _).1.mp keeps
    refine (List.isChain_cons_cons.mp apart).1 ⟨rfl, ?_⟩
    rw [wordEquals, kindLess]
    rfl

end Scan

end LoopLex
