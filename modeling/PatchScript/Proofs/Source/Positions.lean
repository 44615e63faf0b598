import Mathlib.Order.Basic
import PatchScript.Source

/-!
# The order of positions

Positions are ordered as they follow each other in a text: by line, and in a line by column.
More text leads to a later position, in the same line unless there is a line break in it.
-/

namespace PatchScript
namespace Position

instance : LE Position where
  le earlier later :=
    earlier.line < later.line ∨ earlier.line = later.line ∧ earlier.column ≤ later.column

instance : LT Position where
  lt earlier later :=
    earlier.line < later.line ∨ earlier.line = later.line ∧ earlier.column < later.column

theorem le_def {earlier later : Position} :
    earlier ≤ later ↔
      earlier.line < later.line ∨ earlier.line = later.line ∧ earlier.column ≤ later.column :=
  Iff.rfl

theorem lt_def {earlier later : Position} :
    earlier < later ↔
      earlier.line < later.line ∨ earlier.line = later.line ∧ earlier.column < later.column :=
  Iff.rfl

instance : PartialOrder Position where
  le_refl _ := .inr ⟨rfl, Nat.le_refl _⟩
  le_trans first second third before after := by
    rw [le_def] at *
    omega
  lt_iff_le_not_ge first second := by
    rw [le_def, le_def, lt_def]
    omega
  le_antisymm first second before after := by
    rw [le_def] at *
    obtain ⟨line, column⟩ := first
    obtain ⟨line', column'⟩ := second
    simp only [mk.injEq] at *
    omega

/-- One character leads on: a line break to the next line, a tab to the column after the next
multiple of four, and any other character to the next column. -/
theorem advance_eq {position : Position} (counted : 1 ≤ position.column) (c : Char) :
    position.advance c =
      if c = '\n' then { line := position.line + 1, column := 1 }
      else if c = '\t' then
        { line := position.line, column := 4 * ((position.column - 1) / 4 + 1) + 1 }
      else { line := position.line, column := position.column + 1 } := by
  have tab : position.column + (tabWidth - (position.column - 1) % tabWidth) =
      4 * ((position.column - 1) / 4 + 1) + 1 := by
    rw [tabWidth]
    omega
  rw [advance, tab]

variable (position : Position)

theorem lt_advance (c : Char) : position < position.advance c := by
  rw [lt_def, advance]
  split
  · exact .inl (Nat.lt_succ_self _)
  · split
    · have := Nat.mod_lt (position.column - 1) (show 0 < tabWidth by decide)
      exact .inr ⟨rfl, Nat.lt_add_of_pos_right (Nat.sub_pos_of_lt this)⟩
    · exact .inr ⟨rfl, Nat.lt_succ_self _⟩

theorem le_after (text : List Char) : position ≤ position.after text := by
  induction text generalizing position with
  | nil => exact le_refl position
  | cons c text ih => exact (position.lt_advance c).le.trans (ih _)

theorem lt_after {text : List Char} (nonempty : text ≠ []) : position < position.after text := by
  cases text with
  | nil => exact absurd rfl nonempty
  | cons c text => exact (position.lt_advance c).trans_le (le_after _ text)

theorem line_after {text : List Char} (inline : '\n' ∉ text) :
    (position.after text).line = position.line := by
  induction text generalizing position with
  | nil => rfl
  | cons c text ih =>
    rw [List.mem_cons, not_or] at inline
    rw [after_cons, ih _ inline.2, advance, if_neg (Ne.symm inline.1)]
    split <;> rfl

end Position
end PatchScript
