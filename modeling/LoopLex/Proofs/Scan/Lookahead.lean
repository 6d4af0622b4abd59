/-
**How far a scan looks ahead.** Two characters behind a word decide where it ends, and nothing
further on does: behind a number a dot belongs to it if a digit follows the dot.

So a text can change from some offset on without a change to the tokens that end two characters
before the offset or earlier. If the changed text has a fault, it stands behind these tokens.

* `Shape.Reads.congr_take` — a word is read in front of any text with the same two characters;
* `Takes.congr_take` — and so is a whole part of a text;
* `Cut` — a text cut behind the words that end up to a bound, and `Takes.nonempty_cut`;
* `FirstTokens` — the tokens of a scan that end up to a bound;
* `scan_keeps_tokens` — the tokens that two texts with the same start have in common.
-/

import LoopLex.Proofs.Scan.Localisation
import LoopLex.Proofs.Scan.Positions

namespace LoopLex

open Unicode (isDigit)

/-! ### Texts with the same start -/

variable {rest other : List Char}

theorem take_eq_of_le {m n : Nat} (agree : rest.take n = other.take n) (fewer : m ≤ n) :
    rest.take m = other.take m := by
  calc rest.take m = (rest.take n).take m := by rw [List.take_take, Nat.min_eq_left fewer]
    _ = (other.take n).take m := by rw [agree]
    _ = other.take m := by rw [List.take_take, Nat.min_eq_left fewer]

theorem head?_eq_of_take_eq {n : Nat} (agree : rest.take (n + 1) = other.take (n + 1)) :
    rest.head? = other.head? := by
  have heads := congrArg List.head? agree
  rw [List.head?_take, List.head?_take, if_neg (Nat.succ_ne_zero n), if_neg (Nat.succ_ne_zero n)]
    at heads
  exact heads

/-- A text in front makes the common start longer. -/
theorem take_append_eq {n : Nat} (agree : rest.take n = other.take n) (text : List Char) :
    (text ++ rest).take n = (text ++ other).take n := by
  rw [List.take_append, List.take_append, take_eq_of_le agree (Nat.sub_le n text.length)]

/-- Two characters more than a part of a text are those behind the part. -/
theorem exists_append_of_take_eq {near far other : List Char} {n : Nat}
    (agree : (near ++ far).take n = other.take n) (within : near.length + 2 ≤ n) :
    ∃ behind, other = near ++ behind ∧ far.take 2 = behind.take 2 := by
  have start : other.take near.length = near := by
    have shorter : near.length ≤ n := Nat.le_of_add_right_le within
    rw [← take_eq_of_le agree shorter, List.take_left]
  refine ⟨other.drop near.length, ?_, ?_⟩
  · calc other = other.take near.length ++ other.drop near.length :=
          (List.take_append_drop _ _).symm
      _ = near ++ other.drop near.length := by rw [start]
  · have longer := congrArg (List.drop near.length) (take_eq_of_le agree within)
    rw [← List.take_drop, ← List.take_drop, List.drop_left] at longer
    exact longer

/-! ### The two characters behind a word -/

namespace Shape

variable {shape : Shape} {word : List Char}

theorem EndsBefore.congr_take (ends : shape.EndsBefore rest)
    (agree : rest.take 2 = other.take 2) : shape.EndsBefore other := by
  have heads : rest.head? = other.head? := head?_eq_of_take_eq agree
  cases shape with
  | symbol kind => exact fun suffixed => heads ▸ ends suffixed
  | integer =>
    refine ⟨heads ▸ ends.1, ?_⟩
    rintro more rfl
    cases rest with
    | nil => cases agree
    | cons c behind =>
      obtain ⟨rfl, seconds⟩ := List.cons.inj agree
      have second : behind.head? = more.head? := head?_eq_of_take_eq seconds
      exact second ▸ ends.2 behind rfl
  | fraction => exact (congrArg (Option.any isDigit) heads).symm.trans ends
  | name => exact (congrArg (Option.any isNamePart) heads).symm.trans ends
  | _ => trivial

/-- **A word is read in front of any text that starts with the same two characters.** -/
theorem Reads.congr_take (reads : shape.Reads word rest) (agree : rest.take 2 = other.take 2) :
    shape.Reads word other :=
  ⟨reads.fits, reads.ends.congr_take agree, fun number =>
    head?_eq_of_take_eq agree ▸ reads.apart number⟩

end Shape

namespace Scan

/-- **A part of a text is taken in front of any text that starts with the same two characters.** -/
theorem Takes.congr_take {place : Position} {text : List Char} {tokens : List Token}
    (takes : Takes place text rest tokens) (agree : rest.take 2 = other.take 2) :
    Takes place text other tokens := by
  induction takes with
  | nil place rest => exact .nil place other
  | blank blank later ih => exact .blank blank (ih agree)
  | @word place shape word text rest kind literal tokens reads decoded later ih =>
    exact .word (reads.congr_take (take_append_eq agree text)) decoded (ih agree)

end Scan

/-! ### A cut behind the words that end up to a bound -/

theorem Spread.lt_of_mem {line : Int} {text : List Char} {first last : Nat} {tokens : List Token}
    {spans : List (Nat × Nat)} (spread : Spread line text first last tokens spans) :
    ∀ span ∈ spans, span.1 < span.2 := by
  intro span member
  obtain ⟨index, here, rfl⟩ := List.getElem_of_mem member
  have there : index < tokens.length := spread.exact.length_eq ▸ here
  exact (spread.exact.get there here).nonempty

namespace Scan

/-- A text behind `front`, cut so that the first part has the words that end up to offset `bound`
and the second part has the others. -/
structure Cut (line : Int) (front text rest : List Char) (tokens : List Token) (bound : Nat) where
  near : List Char
  far : List Char
  /-- The words of the first part, which stand at `spans`. -/
  kept : List Token
  /-- The words of the second part, which stand at `farther`. -/
  later : List Token
  spans : List (Nat × Nat)
  farther : List (Nat × Nat)
  text_eq : text = near ++ far
  tokens_eq : tokens = kept ++ later
  takes : Takes (.behind line front) near (far ++ rest) kept
  spread : Spread line (front ++ (text ++ rest)) front.length (front.length + text.length) tokens
    (spans ++ farther)
  paired : kept.length = spans.length
  before : ∀ span ∈ spans, span.2 ≤ front.length + near.length
  within : front.length + near.length ≤ bound
  beyond : ∀ span ∈ farther, bound < span.2

namespace Cut

variable {line : Int} {front text rest : List Char} {tokens : List Token} {bound : Nat}

/-- The cut in front of a text whose words all end behind the bound. -/
def atStart {spans : List (Nat × Nat)}
    (spread : Spread line (front ++ (text ++ rest)) front.length (front.length + text.length)
      tokens spans)
    (low : front.length ≤ bound) (beyond : ∀ span ∈ spans, bound < span.2) :
    Cut line front text rest tokens bound where
  near := []
  far := text
  kept := []
  later := tokens
  spans := []
  farther := spans
  text_eq := rfl
  tokens_eq := rfl
  takes := .nil _ _
  spread := spread
  paired := rfl
  before := List.forall_mem_nil _
  within := low
  beyond := beyond

/-- The cut of a text with one more blank in front. -/
def consBlank {c : Char} (blank : c ∈ Vocabulary.blanks)
    (cut : Cut line (front ++ [c]) text rest tokens bound) :
    Cut line front (c :: text) rest tokens bound where
  near := c :: cut.near
  far := cut.far
  kept := cut.kept
  later := cut.later
  spans := cut.spans
  farther := cut.farther
  text_eq := congrArg (c :: ·) cut.text_eq
  tokens_eq := cut.tokens_eq
  takes := .blank blank (Position.behind_append_singleton line front c ▸ cut.takes)
  spread := .of_behind_blank blank cut.spread
  paired := cut.paired
  before span member := by
    have inside := cut.before span member
    simp only [List.length_append, List.length_cons, List.length_nil] at inside ⊢
    omega
  within := by
    have inside := cut.within
    simp only [List.length_append, List.length_cons, List.length_nil] at inside ⊢
    omega
  beyond := cut.beyond

/-- The cut of a text with one more word in front. -/
def consWord {shape : Shape} {word : List Char} {kind : Kind} {literal : Option Literal}
    (reads : shape.Reads word (text ++ rest)) (decoded : shape.decode word = .ok (kind, literal))
    (cut : Cut line (front ++ word) text rest tokens bound) :
    Cut line front (word ++ text) rest (.ofWord (.behind line front) word kind literal :: tokens)
      bound where
  near := word ++ cut.near
  far := cut.far
  kept := .ofWord (.behind line front) word kind literal :: cut.kept
  later := cut.later
  spans := (front.length, front.length + word.length) :: cut.spans
  farther := cut.farther
  text_eq := by rw [List.append_assoc, ← cut.text_eq]
  tokens_eq := congrArg (_ :: ·) cut.tokens_eq
  takes := by
    refine .word ?_ decoded (Position.behind_append line front word ▸ cut.takes)
    rw [← List.append_assoc, ← cut.text_eq]
    exact reads
  spread := .of_behind_word reads.fits kind literal cut.spread
  paired := congrArg Nat.succ cut.paired
  before span member := by
    rcases List.mem_cons.mp member with rfl | member
    · simp only [List.length_append]
      omega
    · have inside := cut.before span member
      simp only [List.length_append] at inside ⊢
      omega
  within := by
    have inside := cut.within
    simp only [List.length_append] at inside ⊢
    omega
  beyond := cut.beyond

end Cut

/-- **A text that is taken can be cut behind the words that end up to a bound.** -/
theorem Takes.nonempty_cut {line : Int} {front text rest : List Char} {tokens : List Token}
    {bound : Nat} (takes : Takes (.behind line front) text rest tokens)
    (low : front.length ≤ bound) : Nonempty (Cut line front text rest tokens bound) := by
  generalize start : Position.behind line front = place at takes
  induction takes generalizing front with
  | nil place rest => exact ⟨.atStart (.nil line _ _) low (List.forall_mem_nil _)⟩
  | @blank place c text rest tokens blank later ih =>
    have next : Position.behind line (front ++ [c]) = place.after c := by
      rw [Position.behind_append_singleton, start]
    by_cases room : (front ++ [c]).length ≤ bound
    · obtain ⟨cut⟩ := ih room next
      exact ⟨cut.consBlank blank⟩
    · rw [← next] at later
      obtain ⟨spans, spread⟩ := later.exists_spread
      refine ⟨.atStart (.of_behind_blank blank spread) low fun span member => ?_⟩
      have behind := (spread.within span member).1
      have nonempty := spread.lt_of_mem span member
      omega
  | @word place shape word text rest kind literal tokens reads decoded later ih =>
    have next : Position.behind line (front ++ word) = place.afterText word := by
      rw [Position.behind_append, start]
    subst start
    by_cases room : (front ++ word).length ≤ bound
    · obtain ⟨cut⟩ := ih room next
      exact ⟨cut.consWord reads decoded⟩
    · rw [← next] at later
      obtain ⟨spans, spread⟩ := later.exists_spread
      refine ⟨.atStart (.of_behind_word reads.fits kind literal spread) low fun span member => ?_⟩
      rw [List.length_append] at room
      rcases List.mem_cons.mp member with rfl | member
      · exact Nat.lt_of_not_le room
      · have behind := (spread.within span member).1
        have nonempty := spread.lt_of_mem span member
        rw [List.length_append] at behind
        omega

/-! ### Scans of texts with the same start -/

variable {source other : String} {options : Options} {tokens kept : List Token}

/-- What is taken of the start of a text has the first tokens of the scan, and no fault. -/
theorem scan_behind_takes {near behind : List Char} (split : other.toList = near ++ behind)
    (takes : Takes (.startOf options.lineNumber) near behind kept) :
    (∃ more, scan other options = .ok { tokens := kept ++ more }) ∨
      ∃ (fault : Fault) (offset : Nat), scan other options = fault.outcome ∧
        fault.LocatedAt other options offset ∧ near.length ≤ offset := by
  rcases exists_takes ((Position.startOf options.lineNumber).afterText near) behind with
    ⟨words, later⟩ | ⟨front, flawed, rest, words, cause, rfl, later, flaw⟩
  · have whole : Takes (.startOf options.lineNumber) other.toList [] (kept ++ words) := by
      rw [← List.append_nil behind] at takes
      rw [split]
      exact takes.append later
    refine .inl ⟨words ++ [.endOfInput (.behind options.lineNumber other.toList)], ?_⟩
    rw [← List.append_assoc]
    exact scan_eq_ok_iff.mpr ⟨_, whole, rfl⟩
  · have reach : other.toList = (near ++ front) ++ (flawed ++ rest) := by
      rw [split, List.append_assoc]
    have whole : Takes (.startOf options.lineNumber) (near ++ front) (flawed ++ rest)
        (kept ++ words) := takes.append later
    refine .inr ⟨_, _, Meets.scan_eq ⟨_, _, _, _, _, reach, whole, flaw, rfl⟩,
      locatedAt_of_flaw reach whole flaw, ?_⟩
    rw [List.length_append]
    exact Nat.le_add_right _ _

/-- A text that ends within the common start, and not at its end, is the other text. -/
theorem eq_of_take_eq {k : Nat} (agree : source.toList.take k = other.toList.take k)
    (short : source.toList.length < k) : other = source := by
  have whole : source.toList.take k = source.toList := List.take_of_length_le (Nat.le_of_lt short)
  rw [whole] at agree
  have shorter : other.toList.length ≤ k := by
    have count := congrArg List.length agree
    rw [List.length_take] at count
    omega
  rw [List.take_of_length_le shorter] at agree
  exact String.ext agree.symm

/-- Of the tokens of a scan, `kept` are those that end at offset `bound` or earlier. They are slices
of the source, at `spans`. -/
structure FirstTokens (source : String) (options : Options) (tokens : List Token) (bound : Int)
    (kept : List Token) (spans : List (Nat × Nat)) : Prop where
  paired : kept.length = spans.length
  within : ∀ span ∈ spans, (span.2 : Int) ≤ bound
  others : ∃ later farther,
    tokens = kept ++ later ++ [.endOfInput (.behind options.lineNumber source.toList)] ∧
    Spread options.lineNumber source.toList 0 source.toList.length (kept ++ later)
      (spans ++ farther) ∧
    ∀ span ∈ farther, bound < span.2

/-- The common start of two texts is taken of both as far as the words of the first end two
characters in front of the end of that start. -/
theorem exists_firstTokens {k : Nat} (done : scan source options = .ok { tokens })
    (agree : source.toList.take k = other.toList.take k) :
    ∃ near behind kept spans, FirstTokens source options tokens (k - 2) kept spans ∧
      other.toList = near ++ behind ∧ Takes (.startOf options.lineNumber) near behind kept ∧
      ∀ span ∈ spans, span.2 ≤ near.length := by
  obtain ⟨words, takes, rfl⟩ := scan_eq_ok_iff.mp done
  have fromStart : Takes (.behind options.lineNumber []) source.toList [] words := by
    rw [← Position.afterText_startOf]
    exact takes
  by_cases few : k < 2
  · obtain ⟨spans, spread⟩ := fromStart.exists_spread
    rw [List.nil_append, List.append_nil, List.length_nil, Nat.zero_add] at spread
    have beyond : ∀ span ∈ spans, (k : Int) - 2 < span.2 := by
      intro span member
      have nonempty := spread.lt_of_mem span member
      omega
    exact ⟨[], other.toList, [], [],
      ⟨rfl, List.forall_mem_nil _, words, spans, rfl, spread, beyond⟩, rfl, .nil _ _,
      List.forall_mem_nil _⟩
  · obtain ⟨near, far, kept, later, spans, farther, text_eq, rfl, taken, spread, paired, before,
      within, beyond⟩ := (fromStart.nonempty_cut (Nat.zero_le (k - 2))).some
    rw [List.nil_append, List.append_nil, List.length_nil, Nat.zero_add] at spread
    rw [List.append_nil, ← Position.afterText_startOf] at taken
    rw [List.length_nil, Nat.zero_add] at before within
    rw [text_eq] at agree
    obtain ⟨behind, split, same⟩ := exists_append_of_take_eq agree (by omega)
    refine ⟨near, behind, kept, spans, ⟨paired, ?within, later, farther, rfl, spread, ?beyond⟩,
      split, taken.congr_take same, before⟩
    case within =>
      intro span member
      have inside := before span member
      omega
    case beyond =>
      intro span member
      have outside := beyond span member
      omega

/-- **Two characters behind a token, the text does not matter to it.** If two texts have the same
first `k` characters and the first can be scanned, the scan of the second has the same tokens as far
as they end at offset `k - 2` or earlier. Should the second text have a fault, it stands behind
these tokens. The end of input is one of them if the first text ends there. -/
theorem scan_keeps_tokens {k : Nat} (done : scan source options = .ok { tokens })
    (agree : source.toList.take k = other.toList.take k) :
    (∃ kept spans, FirstTokens source options tokens (k - 2) kept spans ∧
      ((∃ more, scan other options = .ok { tokens := kept ++ more }) ∨
        ∃ (fault : Fault) (offset : Nat), scan other options = fault.outcome ∧
          fault.LocatedAt other options offset ∧ ∀ span ∈ spans, span.2 ≤ offset)) ∧
    (source.toList.length + 2 ≤ k → scan other options = .ok { tokens }) := by
  constructor
  · obtain ⟨near, behind, kept, spans, first, split, takes, before⟩ :=
      exists_firstTokens done agree
    refine ⟨kept, spans, first, ?_⟩
    rcases scan_behind_takes split takes with complete | ⟨fault, offset, stopped, located, reached⟩
    · exact .inl complete
    · exact .inr ⟨fault, offset, stopped, located, fun span member =>
        Nat.le_trans (before span member) reached⟩
  · intro ends
    rw [eq_of_take_eq agree (by omega)]
    exact done

/-- A common start that ends within an operator. The other text has a fault behind the operator. -/
theorem scan_keeps_tokens_before_operator :
    ∃ tokens, scan "ab 3 =\n" ⟨"f", -1⟩ = .ok { tokens } ∧
      "ab 3 =\n".toList.take 6 = "ab 3 == \"".toList.take 6 ∧
      ∃ kept spans, FirstTokens "ab 3 =\n" ⟨"f", -1⟩ tokens ((6 : Nat) - 2) kept spans ∧
        ((∃ more, scan "ab 3 == \"" ⟨"f", -1⟩ = .ok { tokens := kept ++ more }) ∨
          ∃ (fault : Fault) (offset : Nat), scan "ab 3 == \"" ⟨"f", -1⟩ = fault.outcome ∧
            fault.LocatedAt "ab 3 == \"" ⟨"f", -1⟩ offset ∧ ∀ span ∈ spans, span.2 ≤ offset) := by
  have done : scan "ab 3 =\n" ⟨"f", -1⟩ = .ok
      { tokens := [⟨.identifier, "ab", none, -1, 1, 2⟩, ⟨.intLiteral, "3", some (.int 3), -1, 4, 4⟩,
        ⟨.assign, "=", none, -1, 6, 6⟩, ⟨.endOfInput, "\x00", none, 0, 1, 1⟩] } := by
    decide +kernel
  have agree : "ab 3 =\n".toList.take 6 = "ab 3 == \"".toList.take 6 := by decide +kernel
  exact ⟨_, done, agree, (scan_keeps_tokens done agree).1⟩

end Scan

end LoopLex
