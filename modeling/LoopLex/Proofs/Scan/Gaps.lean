/-
**The characters between tokens.** Where tokens are spread over a part of a text, every character of
the part is in the lexeme of one of them or is a blank outside of them all. So the blanks outside
are counted by the lengths of the lexemes.

* `Outside` and `blanksOutside` — offsets that no span holds, and the blanks at such offsets;
* `Spread.uncons` — the tokens behind the first one are spread over what is behind it;
* `Spread.countP_outside` — the offsets outside and the characters inside add up;
* `Spread.blanksOutside_add` — and so do the blanks outside.
-/

import LoopLex.Proofs.Scan.Positions

namespace LoopLex

/-- The offset is in none of the spans. -/
def Outside (spans : List (Nat × Nat)) (offset : Nat) : Prop :=
  ∀ span ∈ spans, ¬ (span.1 ≤ offset ∧ offset < span.2)

instance (spans : List (Nat × Nat)) : DecidablePred (Outside spans) := fun offset =>
  inferInstanceAs (Decidable (∀ span ∈ spans, ¬ (span.1 ≤ offset ∧ offset < span.2)))

/-- The number of blanks of a text that are in none of the spans. -/
def blanksOutside (text : List Char) (spans : List (Nat × Nat)) : Nat :=
  (List.range text.length).countP fun offset =>
    text[offset]?.any (· ∈ Vocabulary.blanks) ∧ Outside spans offset

variable {line : Int} {text : List Char} {first last : Nat} {token : Token} {tokens : List Token}
  {span : Nat × Nat} {spans : List (Nat × Nat)}

theorem outside_cons {offset : Nat} :
    Outside (span :: spans) offset ↔
      ¬ (span.1 ≤ offset ∧ offset < span.2) ∧ Outside spans offset :=
  List.forall_mem_cons

theorem Token.Spans.length_lexeme (spans_token : token.Spans line text span) :
    token.lexeme.toList.length = span.2 - span.1 := by
  rw [spans_token.lexeme, List.length_drop, List.length_take,
    Nat.min_eq_left spans_token.within]

theorem range'_append_of_le {first middle last : Nat} (front : first ≤ middle)
    (back : middle ≤ last) :
    List.range' first (middle - first) ++ List.range' middle (last - middle) =
      List.range' first (last - first) := by
  have start : middle = first + (middle - first) := (Nat.add_sub_cancel' front).symm
  have total : last - first = (middle - first) + (last - middle) := by omega
  rw [total, ← List.range'_append_1, ← start]

namespace Spread

/-- **The tokens behind the first one are spread over what is behind it.** -/
theorem uncons (spread : Spread line text first last (token :: tokens) (span :: spans)) :
    token.Spans line text span ∧ first ≤ span.1 ∧ span.2 ≤ last ∧
      Spread line text span.2 last tokens spans := by
  obtain ⟨behind, ascending⟩ := List.pairwise_cons.mp spread.ascending
  obtain ⟨front, back⟩ := spread.within span List.mem_cons_self
  cases spread.exact with
  | cons spans_token exact =>
    have nonempty : span.1 < span.2 := spans_token.nonempty
    refine ⟨spans_token, front, back, exact, ascending, ?_, ?_⟩
    · exact fun later member =>
        ⟨behind later member, (spread.within later (List.mem_cons_of_mem _ member)).2⟩
    · intro offset c low high found outside
      refine spread.blank offset c (by omega) high found ?_
      exact outside_cons.mpr ⟨fun inside => Nat.not_lt.mpr low inside.2, outside⟩

/-- In front of all tokens every offset is outside. -/
theorem outside_of_lt (spread : Spread line text first last tokens spans) {offset : Nat}
    (front : offset < first) : Outside spans offset := fun span member inside =>
  Nat.not_le.mpr front (Nat.le_trans (spread.within span member).1 inside.1)

/-- **The offsets outside of all tokens and the characters of the tokens add up.** Up to the end of
the first token, the offsets in front of it are outside of all, and those in it are not. -/
theorem countP_outside (spread : Spread line text first last tokens spans)
    (ordered : first ≤ last) :
    (List.range' first (last - first)).countP (Outside spans) +
      (tokens.flatMap (·.lexeme.toList)).length = last - first := by
  induction tokens generalizing first spans with
  | nil =>
    cases spread.exact
    have all : (List.range' first (last - first)).countP (Outside []) =
        (List.range' first (last - first)).length :=
      List.countP_eq_length.mpr fun offset _ => decide_eq_true (List.forall_mem_nil _)
    rw [all, List.length_range', List.flatMap_nil, List.length_nil, Nat.add_zero]
  | cons token tokens ih =>
    obtain ⟨span, spans, rfl⟩ : ∃ span later, spans = span :: later := by
      cases spread.exact with
      | cons => exact ⟨_, _, rfl⟩
    obtain ⟨spans_token, front, back, behind⟩ := spread.uncons
    have nonempty : span.1 < span.2 := spans_token.nonempty
    have split : List.range' first (last - first) =
        List.range' first (span.1 - first) ++ (List.range' span.1 (span.2 - span.1) ++
          List.range' span.2 (last - span.2)) := by
      rw [range'_append_of_le (Nat.le_of_lt nonempty) back,
        range'_append_of_le front (Nat.le_trans (Nat.le_of_lt nonempty) back)]
    have before : (List.range' first (span.1 - first)).countP (Outside (span :: spans)) =
        (List.range' first (span.1 - first)).length := by
      refine List.countP_eq_length.mpr fun offset member => decide_eq_true ?_
      have low := List.mem_range'_1.mp member
      exact outside_cons.mpr ⟨fun within => by omega, behind.outside_of_lt (by omega)⟩
    have inside : (List.range' span.1 (span.2 - span.1)).countP (Outside (span :: spans)) = 0 := by
      refine List.countP_eq_zero.mpr fun offset member outside => ?_
      have within := List.mem_range'_1.mp member
      exact (outside_cons.mp (of_decide_eq_true outside)).1 ⟨within.1, by omega⟩
    have after : (List.range' span.2 (last - span.2)).countP (Outside (span :: spans)) =
        (List.range' span.2 (last - span.2)).countP (Outside spans) := by
      refine List.countP_congr fun offset member => ?_
      have high := (List.mem_range'_1.mp member).1
      rw [decide_eq_true_iff, decide_eq_true_iff, outside_cons]
      exact and_iff_right fun within => Nat.not_lt.mpr high within.2
    have rest := ih behind back
    rw [split, List.countP_append, List.countP_append, before, inside, after, List.length_range',
      List.flatMap_cons, List.length_append, spans_token.length_lexeme]
    omega

/-- **The blanks outside of all tokens and the characters of the tokens add up** to the text. -/
theorem blanksOutside_add (spread : Spread line text 0 text.length tokens spans) :
    blanksOutside text spans + (tokens.flatMap (·.lexeme.toList)).length = text.length := by
  have counted := spread.countP_outside (Nat.zero_le _)
  rw [Nat.sub_zero, ← List.range_eq_range'] at counted
  rw [← counted]
  congr 1
  refine List.countP_congr fun offset member => ?_
  have within := List.mem_range.mp member
  rw [decide_eq_true_iff, decide_eq_true_iff, List.getElem?_eq_getElem within, Option.any_some]
  refine and_iff_right_of_imp fun outside => decide_eq_true ?_
  exact spread.blank offset _ (Nat.zero_le _) within (List.getElem?_eq_getElem within) outside

end Spread

end LoopLex
