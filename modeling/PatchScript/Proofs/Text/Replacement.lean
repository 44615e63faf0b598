import PatchScript.Text.Search
import Mathlib.Data.List.Infix

/-!
# Matches in a text

What it means to replace the matches of a text from left to right, said without searching.
Cutting a text at the matches and joining the parts does just that; joined with the matches
themselves, the parts are the text, and no part has a match.
-/

namespace PatchScript
namespace Text

variable {old new text written : List Char}

/-! ## Replacing from left to right -/

/-- The matches of a text in another are replaced from left to right.  A character is kept only
where no match starts. -/
inductive Replaced (old new : List Char) : List Char → List Char → Prop where
  | nil : Replaced old new [] []
  | found {rest written : List Char} :
      Replaced old new rest written → Replaced old new (old ++ rest) (new ++ written)
  | kept {c : Char} {rest written : List Char} :
      ¬ old <+: c :: rest → Replaced old new rest written →
      Replaced old new (c :: rest) (c :: written)

namespace Replaced

/-- There is one way to replace the matches of a text that is not empty. -/
theorem unique {other : List Char} (nonempty : old ≠ []) (replaced : Replaced old new text written)
    (also : Replaced old new text other) : other = written := by
  induction replaced generalizing other with
  | nil =>
    generalize same : [] = text at also
    cases also with
    | nil => rfl
    | found _ => exact absurd (List.append_eq_nil_iff.mp same.symm).1 nonempty
    | kept _ _ => cases same
  | @found rest written _ ih =>
    generalize same : old ++ rest = text at also
    cases also with
    | nil => exact absurd (List.append_eq_nil_iff.mp same).1 nonempty
    | found also =>
      obtain rfl := List.append_cancel_left same
      rw [ih also]
    | kept none _ => exact absurd (same ▸ List.prefix_append old rest) none
  | @kept c rest written none _ ih =>
    generalize same : c :: rest = text at also
    cases also with
    | nil => cases same
    | found _ => exact absurd (same ▸ List.prefix_append old _) none
    | kept _ also =>
      cases same
      rw [ih also]

theorem eq_of_same (replaced : Replaced old old text written) : written = text := by
  induction replaced with
  | nil => rfl
  | found _ ih => rw [ih]
  | kept _ _ ih => rw [ih]

end Replaced

/-! ## Cutting at matches -/

theorem splitFrom_ne_nil (separator : List Char) (skip : Nat) (part text : List Char) :
    splitFrom separator skip part text ≠ [] := by
  fun_induction splitFrom separator skip part text <;> simp_all

/-- A match is skipped. -/
theorem drop_of_append {c : Char} {rest after : List Char} (nonempty : old ≠ [])
    (starts : old ++ after = c :: rest) : rest.drop (old.length - 1) = after := by
  obtain ⟨head, tail, rfl⟩ := List.exists_cons_of_ne_nil nonempty
  obtain ⟨rfl, rfl⟩ := List.cons_eq_cons.mp starts
  simp

/-- The part that is read stands before what is replaced. -/
theorem replaced_splitFrom (nonempty : old ≠ []) (new : List Char) (skip : Nat)
    (part text : List Char) :
    ∃ written, Replaced old new (text.drop skip) written ∧
      new.intercalate (splitFrom old skip part text) = part.reverse ++ written := by
  fun_induction splitFrom old skip part text with
  | case1 skip part => exact ⟨[], by simpa using .nil, by simp⟩
  | case2 part c rest more ih => exact ih
  | case3 part c rest isMatch ih =>
    obtain ⟨after, starts⟩ := List.isPrefixOf_iff_prefix.mp isMatch
    obtain ⟨written, replaced, joined⟩ := ih
    rw [drop_of_append nonempty starts] at replaced
    refine ⟨new ++ written, ?_, ?_⟩
    · rw [List.drop_zero, ← starts]
      exact replaced.found
    · rw [List.intercalate_cons_of_ne_nil (splitFrom_ne_nil _ _ _ _), joined]
      simp
  | case4 part c rest noMatch ih =>
    obtain ⟨written, replaced, joined⟩ := ih
    refine ⟨c :: written, .kept (mt List.isPrefixOf_iff_prefix.mpr noMatch) replaced, ?_⟩
    rw [joined]
    simp

/-- No match starts in the part that is read, so none is in a part. -/
theorem not_infix_of_mem_splitFrom {skip : Nat} {part piece : List Char} (nonempty : old ≠ [])
    (none : ∀ back, back <:+ part.reverse → back ≠ [] → ¬ old <+: back ++ text.drop skip)
    (member : piece ∈ splitFrom old skip part text) : ¬ old <:+: piece := by
  have read {part text : List Char}
      (none : ∀ back, back <:+ part.reverse → back ≠ [] → ¬ old <+: back ++ text) :
      ¬ old <:+: part.reverse := by
    rintro ⟨front, tail, same⟩
    refine none (old ++ tail) ⟨front, by rw [← List.append_assoc, same]⟩ (by simp [nonempty]) ?_
    rw [List.append_assoc]
    exact List.prefix_append old _
  fun_induction splitFrom old skip part text with
  | case1 skip part =>
    rw [List.mem_singleton.mp member]
    exact read none
  | case2 part c rest more ih => exact ih none member
  | case3 part c rest isMatch ih =>
    obtain rfl | later := List.mem_cons.mp member
    · exact read none
    · refine ih (fun back suffix isPart => ?_) later
      exact absurd (List.suffix_nil.mp suffix) isPart
  | case4 part c rest noMatch ih =>
    refine ih (fun back suffix isPart => ?_) member
    rw [List.reverse_cons] at suffix
    obtain rfl | ⟨front, rfl, inside⟩ := List.suffix_concat_iff.mp suffix
    · exact absurd rfl isPart
    · rw [List.append_assoc]
      by_cases last : front = []
      · subst last
        exact mt List.isPrefixOf_iff_prefix.mpr noMatch
      · exact none front inside last

/-! ## Parts of texts -/

theorem join_eq_intercalate (separator : String) (texts : List String) :
    join separator texts = separator.intercalate texts := by
  have appended (first : String) (rest : List String) :
      join separator (first :: rest) = separator.intercalate (first :: rest) := by
    induction rest generalizing first with
    | nil => rw [String.intercalate_singleton]; rfl
    | cons second rest ih =>
      have joined : join separator (first :: second :: rest) =
          join separator ((first ++ separator ++ second) :: rest) := rfl
      rw [joined, ih, String.intercalate_cons_append, String.intercalate_cons_cons]
  cases texts with
  | nil => rw [String.intercalate_nil]; rfl
  | cons first rest => exact appended first rest

theorem intercalate_chars (text : List Char) : [].intercalate (text.map fun c => [c]) = text := by
  induction text with
  | nil => rfl
  | cons c rest ih => cases rest <;> simp_all

theorem toList_join_parts (separator : String) (parts : List (List Char)) :
    (join separator (parts.map String.ofList)).toList = separator.toList.intercalate parts := by
  simp [join_eq_intercalate, Function.comp_def]

/-- A text with another in the place of what separates its parts. -/
def exchanged (text old new : String) : String :=
  join new ((split old.toList text.toList).map String.ofList)

/-- Joining the parts between the matches replaces them. -/
theorem replaced_exchanged {old : String} (nonempty : old ≠ "") (text new : String) :
    Replaced old.toList new.toList text.toList (exchanged text old new).toList := by
  have chars : old.toList ≠ [] := by simpa using nonempty
  obtain ⟨written, replaced, joined⟩ := replaced_splitFrom chars new.toList 0 [] text.toList
  rw [exchanged, toList_join_parts, split, if_neg (by simpa using chars), joined]
  exact replaced

/-- The parts joined with what separated them are the text. -/
theorem exchanged_self (text separator : String) : exchanged text separator separator = text := by
  rw [← String.toList_inj]
  by_cases empty : separator = ""
  · subst empty
    rw [exchanged, toList_join_parts]
    exact intercalate_chars text.toList
  · exact (replaced_exchanged empty text separator).eq_of_same

/-- No part has what separated it from others. -/
theorem not_infix_of_mem_split {separator : String} (nonempty : separator ≠ "") {piece : List Char}
    (member : piece ∈ split separator.toList text) : ¬ separator.toList <:+: piece := by
  have chars : separator.toList ≠ [] := by simpa using nonempty
  rw [split, if_neg (by simpa using chars)] at member
  refine not_infix_of_mem_splitFrom chars (fun back suffix isPart => ?_) member
  exact absurd (List.suffix_nil.mp suffix) isPart

end Text
end PatchScript
