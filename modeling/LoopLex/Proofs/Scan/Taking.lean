/-
**A whole scan as a derivation**: which part of a text is taken, and which tokens are made of it.

`Takes place text rest tokens` says, without a cursor, that `text` from `place` on and in front of
`rest` consists of blanks and words, and that `tokens` are those of the words. A scan takes a text
as far as it has pieces. At the end of the text it has all tokens, and otherwise it meets the fault
of the flaw there. The outcome is that fault, unless its place has too many digits to be written.

* `Takes` — the derivation;
* `Takes.isWord` — its tokens are those of words with a meaning;
* `tokensFrom_of_takes` — a scan goes over a text that is taken and makes its tokens;
* `exists_takes` — every text is taken up to its end or up to a flaw;
* `Meets` and `Fault.outcome` — the fault that a scan meets, and the outcome that it leads to;
* `scan_eq_ok_iff`, `scan_eq_fault_iff` and `scan_eq_error_iff` — the outcomes of a scan, and
  `scan_outcome`: no other.
-/

import LoopLex.Proofs.Scan.Step

namespace LoopLex

/-- The token of a word that has a meaning, wherever the word stands. -/
inductive Token.IsWord : Token → Prop where
  | word {shape : Shape} {word : List Char} {kind : Kind} {literal : Option Literal}
    (place : Position) (fits : shape.Fits word) (decoded : shape.decode word = .ok (kind, literal)) :
    IsWord (.ofWord place word kind literal)

theorem Token.IsWord.kind_ne_endOfInput {token : Token} (isWord : token.IsWord) :
    token.kind ≠ .endOfInput := by
  cases isWord with
  | word place fits decoded => exact fits.kind_ne_endOfInput decoded

/-- The outcome of a scan that meets the fault: the fault, if its place can be written. -/
def Fault.outcome (fault : Fault) : Except Misuse Scan.Result :=
  if fault.location.Writable then .ok { fault := some fault } else .error fault.location.refusal

namespace Fault

variable {fault other : Fault}

theorem outcome_of_writable (writable : fault.location.Writable) :
    fault.outcome = .ok { fault := some fault } :=
  if_pos writable

theorem outcome_of_not_writable (long : ¬ fault.location.Writable) :
    fault.outcome = .error fault.location.refusal :=
  if_neg long

theorem outcome_ne_tokens {tokens : List Token} : fault.outcome ≠ .ok { tokens } := by
  unfold outcome
  split <;> simp

theorem outcome_eq_fault_iff :
    fault.outcome = .ok { fault := some other } ↔ fault.location.Writable ∧ other = fault := by
  unfold outcome
  split
  · rename_i writable
    simp [writable, eq_comm]
  · rename_i long
    simp [long]

theorem outcome_eq_error_iff {misuse : Misuse} :
    fault.outcome = .error misuse ↔
      ¬ fault.location.Writable ∧ misuse = fault.location.refusal := by
  unfold outcome
  split
  · rename_i writable
    simp [writable]
  · rename_i long
    simp [long, eq_comm]

end Fault

namespace Scan

/-- From `place` on, `text` in front of `rest` is blanks and words, and `tokens` are the words. -/
inductive Takes : Position → List Char → List Char → List Token → Prop where
  | nil (place : Position) (rest : List Char) : Takes place [] rest []
  | blank {place : Position} {c : Char} {text rest : List Char} {tokens : List Token}
    (blank : c ∈ Vocabulary.blanks) (later : Takes (place.after c) text rest tokens) :
    Takes place (c :: text) rest tokens
  | word {place : Position} {shape : Shape} {word text rest : List Char} {kind : Kind}
    {literal : Option Literal} {tokens : List Token} (reads : shape.Reads word (text ++ rest))
    (decoded : shape.decode word = .ok (kind, literal))
    (later : Takes (place.afterText word) text rest tokens) :
    Takes place (word ++ text) rest (.ofWord place word kind literal :: tokens)

/-- **Every token that is taken is that of a word.** -/
theorem Takes.isWord {place : Position} {text rest : List Char} {tokens : List Token}
    (takes : Takes place text rest tokens) : ∀ token ∈ tokens, token.IsWord := by
  induction takes with
  | nil => exact List.forall_mem_nil _
  | blank blank later ih => exact ih
  | word reads decoded later ih =>
    exact List.forall_mem_cons.mpr ⟨.word _ reads.fits decoded, ih⟩

theorem Takes.append {place : Position} {first second rest : List Char} {tokens more : List Token}
    (front : Takes place first (second ++ rest) tokens)
    (back : Takes (place.afterText first) second rest more) :
    Takes place (first ++ second) rest (tokens ++ more) := by
  generalize after : second ++ rest = ahead at front
  induction front with
  | nil place ahead => exact back
  | blank blank later ih => exact .blank blank (ih back after)
  | word reads decoded later ih =>
    subst after
    rw [Position.afterText_append] at back
    rw [List.append_assoc]
    refine .word ?_ decoded (ih back rfl)
    rw [List.append_assoc]
    exact reads

/-- **A blank behind a text changes nothing that is taken of it.** -/
theorem Takes.append_blank {place : Position} {text rest tail : List Char} {tokens : List Token}
    (takes : Takes place text rest tokens) (blank : StartsBlank tail) :
    Takes place text (rest ++ tail) tokens := by
  induction takes with
  | nil place rest => exact .nil place _
  | blank member later ih => exact .blank member ih
  | word reads decoded later ih =>
    refine .word ?_ decoded ih
    rw [← List.append_assoc]
    exact reads.append blank

/-! ### A scan follows the derivation -/

variable {options : Options} {place : Position} {text front near rest : List Char}
  {tokens words : List Token} {cause : Cause}

/-- **A scan goes over a text that is taken and makes its tokens.** -/
theorem tokensFrom_of_takes {cursor : Cursor} (takes : Takes cursor.here text rest tokens)
    (ahead : cursor.ahead = text ++ rest) :
    tokensFrom options cursor = prepend tokens (tokensFrom options (cursor.past text rest)) := by
  generalize start : cursor.here = place at takes
  induction takes generalizing cursor with
  | nil place rest =>
    have same : cursor.past [] rest = cursor := Cursor.past_nil ahead
    rw [same, prepend_nil]
  | @blank place c text rest tokens blank later ih =>
    have stepped : step options cursor.mark = pure (none, cursor.mark.past [c] (text ++ rest)) :=
      step_of_blank blank ahead
    have more : cursor.ahead ≠ [] := by rw [ahead]; simp
    rw [tokensFrom_of_step more stepped]
    show prepend [] _ = _
    rw [prepend_nil, ih rfl (by rw [← start]; rfl), Cursor.past_past, tokensFrom_mark_past]
    rfl
  | @word place shape word text rest kind literal tokens reads decoded later ih =>
    rw [List.append_assoc] at ahead
    have stepped : step options cursor.mark = pure (some (.ofWord cursor.here word kind literal),
        cursor.mark.past word (text ++ rest)) := step_of_reads reads decoded ahead
    have more : cursor.ahead ≠ [] := by
      rw [ahead]
      exact fun empty => reads.fits.ne_nil (List.append_eq_nil_iff.mp empty).1
    rw [tokensFrom_of_step more stepped, ih rfl (by rw [← start]; rfl), Cursor.past_past,
      tokensFrom_mark_past, prepend_prepend, start]
    rfl

/-- **Every text is taken up to its end or up to a flaw.** -/
theorem exists_takes (place : Position) (text : List Char) :
    (∃ tokens, Takes place text [] tokens) ∨
      ∃ front near rest tokens cause, text = front ++ (near ++ rest) ∧
        Takes place front (near ++ rest) tokens ∧ Flaw cause near rest := by
  induction size : text.length using Nat.strongRecOn generalizing place text with
  | _ n ih =>
    cases text with
    | nil => exact .inl ⟨[], .nil place []⟩
    | cons c ahead =>
      cases firstPiece (List.cons_ne_nil c ahead) with
      | flaw split flaw => exact .inr ⟨[], _, _, [], _, split, .nil place _, flaw⟩
      | @blank c' rest split blank =>
        cases split
        have shorter : ahead.length < n := by
          rw [← size]
          exact Nat.lt_succ_self _
        rcases ih _ shorter (place.after c) ahead rfl with ⟨tokens, takes⟩ |
          ⟨front, near, rest, tokens, cause, rfl, takes, flaw⟩
        · exact .inl ⟨tokens, .blank blank takes⟩
        · exact .inr ⟨c :: front, near, rest, tokens, cause, rfl, .blank blank takes, flaw⟩
      | @word shape word rest kind literal split reads decoded =>
        have shorter : rest.length < n := by
          have positive := List.length_pos_iff.mpr reads.fits.ne_nil
          rw [← size, split, List.length_append]
          omega
        rw [split]
        rcases ih _ shorter (place.afterText word) rest rfl with ⟨tokens, takes⟩ |
          ⟨front, near, after, tokens, cause, rfl, takes, flaw⟩
        · refine .inl ⟨_, .word ?_ decoded takes⟩
          rw [List.append_nil]
          exact reads
        · refine .inr ⟨word ++ front, near, after, _, cause, ?_, .word reads decoded takes, flaw⟩
          rw [List.append_assoc]

/-! ### The outcomes of a scan -/

/-- The records of a scan leave its result alone. -/
theorem run_result (source : String) (options : Options) :
    (run source options).result =
      (tokensFrom options (.ofText source.toList options.lineNumber)).result := by
  unfold run
  cases made : tokensFrom options (.ofText source.toList options.lineNumber) with
  | mk log result => cases result <;> rfl

theorem run_result_of_takes {source : String}
    (takes : Takes (.startOf options.lineNumber) source.toList [] words) :
    (run source options).result =
      .ok (words ++ [.endOfInput (.behind options.lineNumber source.toList)]) := by
  have ahead : (Cursor.ofText source.toList options.lineNumber).ahead = source.toList ++ [] :=
    (List.append_nil _).symm
  rw [run_result, tokensFrom_of_takes takes ahead, tokensFrom_of_atEnd rfl,
    ← Position.afterText_startOf]
  rfl

/-- **The fault that a scan meets**: that of a flaw behind what is taken of the text. -/
def Meets (source : String) (options : Options) (fault : Fault) : Prop :=
  ∃ front near rest words cause, source.toList = front ++ (near ++ rest) ∧
    Takes (.startOf options.lineNumber) front (near ++ rest) words ∧ Flaw cause near rest ∧
    fault = .ofFlaw options.filename (.behind options.lineNumber front) front cause near rest

variable {source : String} {fault : Fault}

/-- A fault is located in the file that the options name. -/
theorem Meets.filename (meets : Meets source options fault) :
    fault.location.filename = options.filename := by
  obtain ⟨_, _, _, _, _, _, _, _, rfl⟩ := meets
  rfl

theorem Meets.run_result (meets : Meets source options fault) :
    (run source options).result = .error fault.stop := by
  obtain ⟨front, near, rest, words, cause, split, takes, flaw, rfl⟩ := meets
  have ahead : (Cursor.ofText source.toList options.lineNumber).ahead =
      front ++ (near ++ rest) := split
  have more : near ++ rest ≠ [] := fun empty =>
    flaw.ne_nil (List.append_eq_nil_iff.mp empty).1
  have front_eq : (Cursor.ofText source.toList options.lineNumber).behind ++ front = front := rfl
  have here : ((Cursor.ofText source.toList options.lineNumber).past front (near ++ rest)).here =
      .behind options.lineNumber front := Position.afterText_startOf _ _
  rw [Scan.run_result, tokensFrom_of_takes takes ahead,
    tokensFrom_of_abort more (step_of_flaw flaw rfl), abort_eq, faultAt_mark_past,
    Cursor.behind_past, front_eq, here, prepend, Except.map]

theorem scan_of_run_ok (done : (run source options).result = .ok tokens) :
    scan source options = .ok { tokens } := by
  unfold scan
  rw [done]

/-- **A fault that is met decides the outcome of the scan.** -/
theorem Meets.scan_eq (meets : Meets source options fault) :
    scan source options = fault.outcome := by
  unfold scan
  rw [meets.run_result]
  by_cases writable : fault.location.Writable
  · rw [Fault.stop_of_writable writable, Fault.outcome_of_writable writable]
  · rw [Fault.stop_of_not_writable writable, Fault.outcome_of_not_writable writable]

theorem tokens_ne_fault :
    (Except.ok { tokens } : Except Misuse Result) ≠ .ok { fault := some fault } := by
  intro same
  have noFault : none = some fault := congrArg Result.fault (Except.ok.inj same)
  cases noFault

/-- A text is taken as a whole, or the scan of it meets a fault. -/
theorem takes_or_meets (source : String) (options : Options) :
    (∃ words, Takes (.startOf options.lineNumber) source.toList [] words) ∨
      ∃ fault, Meets source options fault := by
  rcases exists_takes (.startOf options.lineNumber) source.toList with takes |
    ⟨front, near, rest, words, cause, split, takes, flaw⟩
  · exact .inl takes
  · exact .inr ⟨_, front, near, rest, words, cause, split, takes, flaw, rfl⟩

/-- **The tokens of a scan** are those that are taken of the whole text, and the end of input. -/
theorem scan_eq_ok_iff :
    scan source options = .ok { tokens } ↔
      ∃ words, Takes (.startOf options.lineNumber) source.toList [] words ∧
        tokens = words ++ [.endOfInput (.behind options.lineNumber source.toList)] := by
  constructor
  · intro done
    rcases takes_or_meets source options with ⟨words, takes⟩ | ⟨fault, meets⟩
    · rw [scan_of_run_ok (run_result_of_takes takes)] at done
      cases done
      exact ⟨words, takes, rfl⟩
    · exact absurd (meets.scan_eq.symm.trans done) Fault.outcome_ne_tokens
  · rintro ⟨words, takes, rfl⟩
    exact scan_of_run_ok (run_result_of_takes takes)

/-- **A scan has all tokens of a text, or meets a fault.** -/
theorem scan_outcome (source : String) (options : Options) :
    (∃ tokens, scan source options = .ok { tokens }) ∨
      ∃ fault, Meets source options fault := by
  rcases takes_or_meets source options with ⟨words, takes⟩ | meets
  · exact .inl ⟨_, scan_of_run_ok (run_result_of_takes takes)⟩
  · exact .inr meets

/-- **The fault of a scan** is the one that it meets, in a place that can be written. -/
theorem scan_eq_fault_iff :
    scan source options = .ok { fault := some fault } ↔
      Meets source options fault ∧ fault.location.Writable := by
  constructor
  · intro stopped
    rcases scan_outcome source options with ⟨tokens, done⟩ | ⟨other, meets⟩
    · exact absurd (done.symm.trans stopped) tokens_ne_fault
    · obtain ⟨writable, rfl⟩ :=
        Fault.outcome_eq_fault_iff.mp (meets.scan_eq.symm.trans stopped)
      exact ⟨meets, writable⟩
  · rintro ⟨meets, writable⟩
    rw [meets.scan_eq, Fault.outcome_of_writable writable]

/-- **A scan is refused** exactly where it meets a fault in a place that cannot be written. -/
theorem scan_eq_error_iff {misuse : Misuse} :
    scan source options = .error misuse ↔
      ∃ fault, Meets source options fault ∧ ¬ fault.location.Writable ∧
        misuse = fault.location.refusal := by
  constructor
  · intro refused
    rcases scan_outcome source options with ⟨tokens, done⟩ | ⟨fault, meets⟩
    · cases done.symm.trans refused
    · exact ⟨fault, meets, Fault.outcome_eq_error_iff.mp (meets.scan_eq.symm.trans refused)⟩
  · rintro ⟨fault, meets, long, rfl⟩
    rw [meets.scan_eq, Fault.outcome_of_not_writable long]

/-- The tokens of a scan are those of words, with the end of input behind them. -/
theorem exists_words_of_scan (done : scan source options = .ok { tokens }) :
    ∃ words place, tokens = words ++ [.endOfInput place] ∧ ∀ token ∈ words, token.IsWord := by
  obtain ⟨words, takes, rfl⟩ := scan_eq_ok_iff.mp done
  exact ⟨words, _, rfl, takes.isWord⟩

end Scan

end LoopLex
