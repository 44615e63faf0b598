import Mathlib.Data.List.Forall2
import PatchScript.OrderedMap

/-!
# Related contents

Two sequences, or two maps, whose contents are related place by place.  What reads one
of them reads the other alike, and the same change keeps them related.
-/

namespace PatchScript

variable {α β : Type} {Related : α → β → Prop}

/-! ## Sequences -/

section Sequences

variable {items : List α} {others : List β}

variable (related : List.Forall₂ Related items others)
include related

theorem forall₂_getElem? (index : Nat) : Option.Rel Related items[index]? others[index]? := by
  induction related generalizing index with
  | nil => exact .none
  | cons first _ ih =>
    cases index with
    | zero => exact .some first
    | succ index => exact ih index

section

variable (index : Nat) {item : α} {other : β} (new : Related item other)
include new

theorem forall₂_set : List.Forall₂ Related (items.set index item) (others.set index other) := by
  induction related generalizing index with
  | nil => exact .nil
  | cons first rest ih =>
    cases index with
    | zero => exact .cons new rest
    | succ index => exact .cons first (ih index)

theorem forall₂_insertIdx :
    List.Forall₂ Related (items.insertIdx index item) (others.insertIdx index other) := by
  induction related generalizing index with
  | nil =>
    cases index with
    | zero => exact .cons new .nil
    | succ index => exact .nil
  | cons first rest ih =>
    cases index with
    | zero => exact .cons new (.cons first rest)
    | succ index => exact .cons first (ih index)

end

theorem forall₂_eraseIdx (index : Nat) :
    List.Forall₂ Related (items.eraseIdx index) (others.eraseIdx index) := by
  induction related generalizing index with
  | nil => exact .nil
  | cons first rest ih =>
    cases index with
    | zero => exact rest
    | succ index => exact .cons first (ih index)

theorem forall₂_dropLast : List.Forall₂ Related items.dropLast others.dropLast := by
  rw [List.dropLast_eq_take, List.dropLast_eq_take, related.length_eq]
  exact List.forall₂_take _ related

theorem forall₂_getLast? : Option.Rel Related items.getLast? others.getLast? := by
  rw [List.getLast?_eq_getElem?, List.getLast?_eq_getElem?, related.length_eq]
  exact forall₂_getElem? related _

/-- Sequences are counted alike, searched alike and tested alike. -/
theorem forall₂_map_eq {γ : Type} {observe : α → γ} {observeOther : β → γ}
    (same : ∀ item other, Related item other → observe item = observeOther other) :
    items.map observe = others.map observeOther := by
  induction related with
  | nil => rfl
  | cons first _ ih => rw [List.map_cons, List.map_cons, same _ _ first, ih]

end Sequences

/-! ## Maps -/

namespace OrderedMap

variable {map : OrderedMap α} {other : OrderedMap β}

/-- Two maps with the same keys in the same order, whose values are related. -/
def Matches (Related : α → β → Prop) (map : OrderedMap α) (other : OrderedMap β) : Prop :=
  List.Forall₂ (fun entry entry' => entry.1 = entry'.1 ∧ Related entry.2 entry'.2)
    map.entries other.entries

theorem matches_eq_iff {map other : OrderedMap α} : map.Matches Eq other ↔ map = other := by
  have same : (fun entry entry' : String × α => entry.1 = entry'.1 ∧ entry.2 = entry'.2) = Eq := by
    funext entry entry'
    exact propext Prod.ext_iff.symm
  rw [Matches, same, List.forall₂_eq_eq_eq]
  exact ⟨OrderedMap.ext, congrArg _⟩

theorem matches_and_left {Holds : α → Prop} :
    map.Matches (fun value value' => Holds value ∧ Related value value') other ↔
      (∀ value ∈ map.values, Holds value) ∧ map.Matches Related other := by
  simp only [Matches, and_left_comm, List.forall₂_and_left, values, List.forall_mem_map]

theorem matches_empty : (empty : OrderedMap α).Matches Related (empty : OrderedMap β) := .nil

section Matches

variable (related : map.Matches Related other) (key : String)

include related

theorem Matches.keys_eq : map.keys = other.keys :=
  forall₂_map_eq related fun _ _ entries => entries.1

theorem Matches.size_eq : map.size = other.size := related.length_eq

theorem Matches.values : List.Forall₂ Related map.values other.values :=
  List.forall₂_map_left_iff.mpr (List.forall₂_map_right_iff.mpr
    (List.Forall₂.imp (fun _ _ entries => entries.2) related))

theorem Matches.get? : Option.Rel Related (map.get? key) (other.get? key) := by
  obtain ⟨entries, distinct⟩ := map
  obtain ⟨entries', distinct'⟩ := other
  change List.Forall₂ _ entries entries' at related
  change Option.Rel Related (entries.lookup key) (entries'.lookup key)
  clear distinct distinct'
  induction related with
  | nil => exact .none
  | @cons entry entry' rest rest' first _ ih =>
    obtain ⟨name, value⟩ := entry
    obtain ⟨name', value'⟩ := entry'
    obtain ⟨rfl, values⟩ := first
    rw [Entries.lookup_cons, Entries.lookup_cons]
    split
    · exact .some values
    · exact ih

theorem Matches.contains_eq : map.contains key = other.contains key := by
  have found := related.get? key
  rw [contains, contains]
  generalize map.get? key = value, other.get? key = value' at found
  cases found <;> rfl

theorem Matches.insert {value : α} {value' : β} (new : Related value value') :
    (map.insert key value).Matches Related (other.insert key value') := by
  obtain ⟨entries, distinct⟩ := map
  obtain ⟨entries', distinct'⟩ := other
  change List.Forall₂ _ entries entries' at related
  change List.Forall₂ _ (Entries.insert key value entries) (Entries.insert key value' entries')
  clear distinct distinct'
  induction related with
  | nil => exact .cons ⟨rfl, new⟩ .nil
  | @cons entry entry' rest rest' first later ih =>
    obtain ⟨name, old⟩ := entry
    obtain ⟨name', old'⟩ := entry'
    obtain ⟨rfl, olds⟩ := first
    rw [Entries.insert, Entries.insert]
    split
    · exact .cons ⟨rfl, new⟩ later
    · exact .cons ⟨rfl, olds⟩ ih

theorem Matches.filter (keep : String → Bool) :
    (map.filter keep).Matches Related (other.filter keep) := by
  refine List.rel_filter ?_ related
  intro entry entry' entries
  simp only [entries.1]

theorem Matches.erase : (map.erase key).Matches Related (other.erase key) :=
  related.filter fun name => name != key

theorem Matches.insertAll {entries : List (String × α)} {entries' : List (String × β)}
    (added : List.Forall₂ (fun entry entry' => entry.1 = entry'.1 ∧ Related entry.2 entry'.2)
      entries entries') :
    (map.insertAll entries).Matches Related (other.insertAll entries') := by
  rw [OrderedMap.insertAll, OrderedMap.insertAll]
  induction added generalizing map other with
  | nil => exact related
  | cons first _ ih =>
    obtain ⟨same, values⟩ := first
    simp only [List.foldl_cons, same]
    exact ih (related.insert _ values)

end Matches

end OrderedMap
end PatchScript
