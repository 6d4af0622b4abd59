/-
**Tokens tell the text up to its blanks.** The tokens of a scan can be laid out as text, each at its
own place, and the scan of that text gives the same tokens.

Only blanks are forgotten: those in front of a newline, and whether a blank on a line was a space, a
tab or a carriage return. A word is still read in front of what is laid out behind it, which is a
blank or starts with the character that stood there.

* `Layout.exists_gap` — from a place to one further on there is a gap that leads there;
* `Rendering` — a layout that stands for a text;
* `Takes.exists_rendering` — a text that is taken to its end has a layout from any earlier place;
* `scan_render` — the scan of the layout of a scan's tokens.
-/

import LoopLex.Proofs.Scan.Taking
import LoopLex.Proofs.Text.Order
import LoopLex.Token.Layout
import Mathlib.Control.Monad.Basic

namespace LoopLex

/-! ### Gaps between places -/

namespace Layout

/-- The gap between two places: newlines and spaces that lead from the first to the second. -/
structure Gap (place goal : Position) (gap : List Char) : Prop where
  found : gap? place goal = some gap
  blanks : ∀ c ∈ gap, c ∈ Vocabulary.blanks
  leads : place.afterText gap = goal

variable {place goal : Position} {gap rest : List Char}

theorem blank_of_mem_replicate {n : Nat} {blank c : Char} (known : blank ∈ Vocabulary.blanks)
    (member : c ∈ List.replicate n blank) : c ∈ Vocabulary.blanks := by
  rw [List.eq_of_mem_replicate member]
  exact known

theorem gap_of_line_eq (sameLine : place.line = goal.line) (right : place.column ≤ goal.column) :
    Gap place goal (List.replicate (goal.column - place.column).toNat ' ') where
  found := by
    have notBelow : ¬ place.line < goal.line := by omega
    have noNewline : (goal.line - place.line).toNat = 0 := by omega
    unfold gap?
    rw [if_neg notBelow, noNewline]
    exact if_pos ⟨Int.le_of_eq sameLine, right⟩
  blanks c member := blank_of_mem_replicate (by decide) member
  leads := by
    have column : place.column + ((goal.column - place.column).toNat : Int) = goal.column := by
      omega
    rw [Position.afterText_spaces, sameLine, column]

/-- To a later line, newlines lead to its column 1 and spaces on from there. -/
theorem gap_of_line_lt (below : place.line < goal.line) (right : 1 ≤ goal.column) :
    Gap place goal (List.replicate (goal.line - place.line).toNat '\n' ++
      List.replicate (goal.column - 1).toNat ' ') where
  found := by
    unfold gap?
    rw [if_pos below]
    exact if_pos ⟨Int.le_of_lt below, right⟩
  blanks c member := by
    rcases List.mem_append.mp member with front | back
    · exact blank_of_mem_replicate (by decide) front
    · exact blank_of_mem_replicate (by decide) back
  leads := by
    obtain ⟨more, count⟩ : ∃ more, (goal.line - place.line).toNat = more + 1 :=
      Nat.exists_eq_succ_of_ne_zero (by omega)
    have line : place.line + (more + 1) = goal.line := by omega
    have column : 1 + ((goal.column - 1).toNat : Int) = goal.column := by omega
    rw [Position.afterText_append, count, Position.afterText_newlines, Position.afterText_spaces]
    show Position.mk (place.line + (more + 1)) (1 + ((goal.column - 1).toNat : Int)) = goal
    rw [line, column]

/-- **From a place to one further on there is a gap.** -/
theorem exists_gap (reach : place.Reaches goal) : ∃ gap, Gap place goal gap := by
  by_cases below : place.line < goal.line
  · exact ⟨_, gap_of_line_lt below (reach.one_le_column below)⟩
  · have sameLine : place.line = goal.line := Int.le_antisymm reach.line_le (Int.not_lt.mp below)
    exact ⟨_, gap_of_line_eq sameLine (reach.column_le sameLine)⟩

/-- A gap starts with a blank, or there is nothing between the two places. -/
theorem Gap.startsBlank_or_eq_nil (between : Gap place goal gap) (rest : List Char) :
    StartsBlank (gap ++ rest) ∨ place = goal ∧ gap = [] := by
  cases gap with
  | nil => exact .inr ⟨between.leads, rfl⟩
  | cons c gap =>
    left
    intro d led
    cases led
    exact between.blanks c List.mem_cons_self

theorem Gap.render?_cons {token : Token} {tokens : List Token}
    (between : Gap place ⟨token.line, token.columnStart⟩ gap)
    (later : render? (place.afterText (gap ++ written token)) tokens = some rest) :
    render? place (token :: tokens) = some (gap ++ (written token ++ rest)) := by
  rw [render?, between.found]
  show (do return gap ++ written token ++ (← render? _ tokens)) = _
  rw [later, ← List.append_assoc]
  rfl

end Layout

namespace Scan

/-! ### Layouts that stand for a text -/

variable {place goal : Position} {text out word gap rest : List Char} {tokens : List Token}
  {shape : Shape} {kind : Kind} {literal : Option Literal}

theorem written_ofWord (fits : shape.Fits word)
    (decoded : shape.decode word = .ok (kind, literal)) (place : Position) :
    Layout.written (.ofWord place word kind literal) = word := by
  rw [Layout.written, if_neg]
  · exact String.toList_ofList
  · exact fits.kind_ne_endOfInput decoded

theorem Takes.blanks_append (blanks : ∀ c ∈ gap, c ∈ Vocabulary.blanks)
    (takes : Takes (place.afterText gap) text rest tokens) :
    Takes place (gap ++ text) rest tokens := by
  induction gap generalizing place with
  | nil => exact takes
  | cons c gap ih =>
    obtain ⟨blank, blanks⟩ := List.forall_mem_cons.mp blanks
    exact .blank blank (ih blanks takes)

/-- No text that is taken starts with a dot. -/
theorem Takes.head?_ne_dot (takes : Takes place text rest tokens) : text.head? ≠ some '.' := by
  cases takes with
  | nil => simp
  | blank blank later =>
    intro led
    cases led
    exact absurd blank (by decide)
  | @word _ shape word text _ _ _ _ reads decoded later =>
    obtain ⟨c, more, rfl⟩ := reads.fits.exists_cons
    intro led
    exact reads.fits.head_ne_dot (Option.some.inj led)

/-- The text `out` from `place` on stands for `text` from `goal` on: it is the layout of the tokens
and of the end of input, the same tokens are taken of it, it ends at the same place, and it starts
with a blank or like `text`. -/
structure Rendering (place goal : Position) (text out : List Char) (tokens : List Token) :
    Prop where
  rendered : Layout.render? place (tokens ++ [.endOfInput (goal.afterText text)]) = some out
  takes : Takes place out [] tokens
  stop : place.afterText out = goal.afterText text
  head : StartsBlank out ∨ place = goal ∧ out.head? = text.head?

/-- A word is read in front of what stands for the text behind it. -/
theorem Rendering.reads_before (rendering : Rendering goal goal text out tokens)
    (reads : shape.Reads word text) : shape.Reads word out := by
  rcases rendering.head with blank | ⟨_, same⟩
  · exact reads.fits.reads_of_blank blank
  · exact reads.congr_head same rendering.takes.head?_ne_dot

theorem rendering_nil (between : Layout.Gap place goal gap) : Rendering place goal [] gap [] where
  rendered := by
    have rendered : Layout.render? place [.endOfInput goal] = some (gap ++ []) :=
      between.render?_cons rfl
    rw [List.append_nil] at rendered
    exact rendered
  takes := by
    rw [← List.append_nil gap]
    exact Takes.blanks_append between.blanks (.nil _ _)
  stop := between.leads
  head := by
    rcases between.startsBlank_or_eq_nil [] with blank | ⟨same, rfl⟩
    · rw [List.append_nil] at blank
      exact .inl blank
    · exact .inr ⟨same, rfl⟩

/-- A blank in front of a text makes the gap in front of its first word wider. -/
theorem Rendering.of_blank {c : Char} (reach : place.Reaches goal)
    (rendering : Rendering place (goal.after c) text out tokens) :
    Rendering place goal (c :: text) out tokens where
  rendered := rendering.rendered
  takes := rendering.takes
  stop := rendering.stop
  head := by
    rcases rendering.head with blank | ⟨same, _⟩
    · exact .inl blank
    · have before : place.Precedes (goal.after c) :=
        reach.trans_precedes (Position.precedes_after goal c)
      exact absurd same before.ne

theorem Rendering.of_word (between : Layout.Gap place goal gap) (reads : shape.Reads word text)
    (decoded : shape.decode word = .ok (kind, literal))
    (later : Rendering (goal.afterText word) (goal.afterText word) text out tokens) :
    Rendering place goal (word ++ text) (gap ++ (word ++ out))
      (.ofWord goal word kind literal :: tokens) where
  rendered := by
    have written := written_ofWord reads.fits decoded goal
    have tail : Layout.render?
        (place.afterText (gap ++ Layout.written (.ofWord goal word kind literal)))
        (tokens ++ [.endOfInput (goal.afterText (word ++ text))]) = some out := by
      rw [written, Position.afterText_append, Position.afterText_append, between.leads]
      exact later.rendered
    calc Layout.render? place (.ofWord goal word kind literal ::
          (tokens ++ [.endOfInput (goal.afterText (word ++ text))]))
        = some (gap ++ (Layout.written (.ofWord goal word kind literal) ++ out)) :=
          between.render?_cons tail
      _ = some (gap ++ (word ++ out)) := by rw [written]
  takes := by
    refine Takes.blanks_append between.blanks ?_
    rw [between.leads]
    refine .word ?_ decoded later.takes
    rw [List.append_nil]
    exact later.reads_before reads
  stop := by
    rw [Position.afterText_append, between.leads, Position.afterText_append, later.stop,
      Position.afterText_append]
  head := by
    rcases between.startsBlank_or_eq_nil (word ++ out) with blank | ⟨same, rfl⟩
    · exact .inl blank
    · obtain ⟨c, more, rfl⟩ := reads.fits.exists_cons
      exact .inr ⟨same, rfl⟩

/-- **A text that is taken to its end has a layout from any earlier place on.** The place stays
behind while blanks are passed over, and catches up at every word. -/
theorem Takes.exists_rendering (takes : Takes goal text [] tokens) (reach : place.Reaches goal) :
    ∃ out, Rendering place goal text out tokens := by
  generalize done : [] = rest at takes
  induction takes generalizing place with
  | nil goal rest =>
    obtain ⟨gap, between⟩ := Layout.exists_gap reach
    exact ⟨gap, rendering_nil between⟩
  | @blank goal c text rest tokens blank later ih =>
    have further : place.Reaches (goal.after c) :=
      .inr (reach.trans_precedes (Position.precedes_after goal c))
    obtain ⟨out, rendering⟩ := ih further done
    exact ⟨out, rendering.of_blank reach⟩
  | @word goal shape word text rest kind literal tokens reads decoded later ih =>
    subst done
    rw [List.append_nil] at reads
    obtain ⟨gap, between⟩ := Layout.exists_gap reach
    obtain ⟨out, rendering⟩ := ih (.refl _) rfl
    exact ⟨_, .of_word between reads decoded rendering⟩

/-- **The tokens of a scan can be laid out, and the scan of the layout gives the same tokens.** -/
theorem scan_render {source : String} {options : Options} {tokens : List Token}
    (done : scan source options = .ok { tokens }) :
    ∃ text, Layout.render? (.startOf options.lineNumber) tokens = some text ∧
      ∀ filename, scan (String.ofList text) { filename, lineNumber := options.lineNumber } =
        .ok { tokens } := by
  obtain ⟨words, takes, rfl⟩ := scan_eq_ok_iff.mp done
  obtain ⟨out, rendering⟩ := takes.exists_rendering (.refl _)
  rw [← Position.afterText_startOf]
  refine ⟨out, rendering.rendered, ?_⟩
  intro filename
  apply scan_eq_ok_iff.mpr
  refine ⟨words, ?_, ?_⟩
  · rw [String.toList_ofList]
    exact rendering.takes
  · rw [String.toList_ofList, ← Position.afterText_startOf, rendering.stop]

/-- Blanks of all sorts, in front of tokens, between them and behind them, and literals that reach
over lines. -/
theorem scan_render_literals :
    ∃ tokens, scan "\t'\n'\r\"a\nb\" \t\r\n\n =\t\n " ⟨"f", -1⟩ = .ok { tokens } ∧
      ∃ text, Layout.render? (.startOf (-1)) tokens = some text ∧
        ∀ filename, scan (String.ofList text) ⟨filename, -1⟩ = .ok { tokens } := by
  have done : scan "\t'\n'\r\"a\nb\" \t\r\n\n =\t\n " ⟨"f", -1⟩ = .ok
      { tokens := [⟨.charLiteral, "'\n'", some (.text "\n"), -1, 2, 1⟩,
        ⟨.stringLiteral, "\"a\nb\"", some (.text "a\nb"), 0, 3, 2⟩,
        ⟨.assign, "=", none, 3, 2, 2⟩, ⟨.endOfInput, "\x00", none, 4, 2, 2⟩] } := by
    decide +kernel
  exact ⟨_, done, scan_render done⟩

end Scan

end LoopLex
