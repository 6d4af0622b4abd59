/-
**Locations as text.** Both forms of a location tell the file name, the line and the column,
whatever characters the file name holds. A location has both of them or, if a number has too many
digits, neither.

In the short form the file name stands as it is, and can look like a location itself. But no integer
holds a colon, so the last two colons are those of the line and the column. In the long form the
file name is quoted.

* `text_eq_ok_iff` and `debugText_eq_ok_iff` — the two forms, with their separators;
* `text_injective` and `debugText_injective` — each form by itself;
* `texts_identify` — the two forms.
-/

import LoopLex.Proofs.Text.Fields
import LoopLex.Proofs.Text.Quoted
import LoopLex.Text.Location

namespace LoopLex.Location

open Unicode (isDigit)

attribute [ext] Location

variable {first second location : Location} {shown : String}

/-! ### The short form -/

theorem text_eq_ok_iff :
    location.text = .ok shown ↔ location.Writable ∧
      shown.toList = location.filename.toList ++ ':' :: (toString location.line).toList ++
        ':' :: (toString location.column).toList := by
  by_cases writable : location.Writable
  · rw [text_of_writable writable, Except.ok.injEq, ← String.toList_inj]
    simp [writable, eq_comm]
  · rw [text_of_not_writable writable]
    simp [writable]

theorem not_mem_colon_toString (n : Int) : ':' ∉ (toString n).toList :=
  not_mem_toString (by decide) (by decide) n

/-- An integer as text has nothing behind it. -/
theorem toString_injective {m n : Int} (same : (toString m).toList = (toString n).toList) :
    m = n := by
  have ended : (toString m).toList ++ [] = (toString n).toList ++ [] := by rw [same]
  exact (toString_append_inj rfl rfl ended).1

/-- **The short form of a location tells its parts**, read from the right. -/
theorem text_injective (left : first.text = .ok shown) (right : second.text = .ok shown) :
    first = second := by
  have texts := (text_eq_ok_iff.mp left).2.symm.trans (text_eq_ok_iff.mp right).2
  obtain ⟨front, columns⟩ :=
    append_cons_inj_of_not_mem (not_mem_colon_toString _) (not_mem_colon_toString _) texts
  obtain ⟨filenames, lines⟩ :=
    append_cons_inj_of_not_mem (not_mem_colon_toString _) (not_mem_colon_toString _) front
  exact Location.ext (String.toList_injective filenames) (toString_injective lines)
    (toString_injective columns)

example : (⟨"a:1", -2, 3⟩ : Location).text = .ok "a:1:-2:3" := by decide +kernel

/-! ### The long form -/

/-- What stands behind the file name in the long form. -/
def numbers (location : Location) : List Char :=
  ", line=".toList ++ ((toString location.line).toList ++
    (", column=".toList ++ ((toString location.column).toList ++ ")".toList)))

theorem debugText_eq_ok_iff :
    location.debugText = .ok shown ↔ location.Writable ∧
      shown.toList = "SourceLocation(filename=".toList ++
        (Quoted.encode location.filename.toList ++ location.numbers) := by
  by_cases writable : location.Writable
  · rw [debugText_of_writable writable, Except.ok.injEq, ← String.toList_inj]
    unfold numbers
    simp only [String.toList_append, Quoted.toList_quoted]
    simp only [List.append_assoc, writable, true_and]
    exact eq_comm
  · rw [debugText_of_not_writable writable]
    simp [writable]

theorem numbers_inj (same : first.numbers = second.numbers) :
    first.line = second.line ∧ first.column = second.column := by
  have comma (rest : List Char) : (", column=".toList ++ rest).head?.any isDigit = false :=
    separator_apart (by decide) (by decide) rest
  unfold numbers at same
  obtain ⟨lines, behind⟩ :=
    toString_append_inj (comma _) (comma _) (List.append_cancel_left same)
  obtain ⟨columns, -⟩ := toString_append_inj rfl rfl (List.append_cancel_left behind)
  exact ⟨lines, columns⟩

/-- **The long form of a location tells its parts**, read from the left. -/
theorem debugText_injective (left : first.debugText = .ok shown)
    (right : second.debugText = .ok shown) : first = second := by
  have texts := (debugText_eq_ok_iff.mp left).2.symm.trans (debugText_eq_ok_iff.mp right).2
  obtain ⟨filenames, behind⟩ := Quoted.encode_append_inj (List.append_cancel_left texts)
  obtain ⟨lines, columns⟩ := numbers_inj behind
  exact Location.ext (String.toList_injective filenames) lines columns

theorem exists_text_iff : (∃ shown, location.text = .ok shown) ↔ location.Writable :=
  ⟨fun ⟨_, known⟩ => (text_eq_ok_iff.mp known).1, fun writable => ⟨_, text_of_writable writable⟩⟩

theorem exists_debugText_iff : (∃ shown, location.debugText = .ok shown) ↔ location.Writable :=
  ⟨fun ⟨_, known⟩ => (debugText_eq_ok_iff.mp known).1,
    fun writable => ⟨_, debugText_of_writable writable⟩⟩

/-- **Locations with the same text are the same**, in the short form and in the long one. A location
has the two forms exactly if both of its numbers can be written. -/
theorem texts_identify (first second : Location) :
    ((∃ shown, first.text = .ok shown) ↔ first.Writable) ∧
    ((∃ shown, first.debugText = .ok shown) ↔ first.Writable) ∧
    (first.Writable →
      (first.text = second.text ↔ first = second) ∧
        (first.debugText = second.debugText ↔ first = second)) := by
  refine ⟨exists_text_iff, exists_debugText_iff, fun writable => ⟨⟨?_, ?_⟩, ⟨?_, ?_⟩⟩⟩
  · intro same
    obtain ⟨shown, left⟩ := exists_text_iff.mpr writable
    exact text_injective left (same.symm.trans left)
  · rintro rfl
    rfl
  · intro same
    obtain ⟨shown, left⟩ := exists_debugText_iff.mpr writable
    exact debugText_injective left (same.symm.trans left)
  · rintro rfl
    rfl

/-- A file name that ends like a location, and the location that it ends like. -/
theorem texts_identify_colons :
    ∃ first second : Location, first = ⟨"a:1", 2, 3⟩ ∧ second = ⟨"a", 1, 2⟩ ∧ first.Writable ∧
      first.text ≠ second.text ∧ first.debugText ≠ second.debugText := by
  have writable : Writable ⟨"a:1", 2, 3⟩ := by decide +kernel
  have other : (⟨"a:1", 2, 3⟩ : Location) ≠ ⟨"a", 1, 2⟩ := by decide
  obtain ⟨short, long⟩ := (texts_identify ⟨"a:1", 2, 3⟩ ⟨"a", 1, 2⟩).2.2 writable
  exact ⟨_, _, rfl, rfl, writable, mt short.mp other, mt long.mp other⟩

/-- The first line whose number has too many digits, in neither of the two forms. -/
theorem texts_lack_long_line :
    (¬ ∃ shown, (⟨"f", Numeral.limit, 1⟩ : Location).text = .ok shown) ∧
      ¬ ∃ shown, (⟨"f", Numeral.limit, 1⟩ : Location).debugText = .ok shown := by
  have long : ¬ Writable ⟨"f", Numeral.limit, 1⟩ := by decide +kernel
  exact ⟨mt exists_text_iff.mp long, mt exists_debugText_iff.mp long⟩

end LoopLex.Location
