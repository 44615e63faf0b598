import PatchScript.OrderedMap

/-!
# Insertion order

What writing and erasing entries does to the order of keys.  A present key keeps its place, a
new one is appended, and erasing one keeps the order of the others.
-/

namespace PatchScript

namespace Entries

variable {α : Type}

variable {key : String} {value : α} {entries : List (String × α)}

theorem mem_of_mem_insert {entry : String × α} (member : entry ∈ insert key value entries) :
    entry = (key, value) ∨ entry ∈ entries := by
  induction entries with
  | nil => exact .inl (List.mem_singleton.mp member)
  | cons first rest ih =>
    obtain ⟨other, old⟩ := first
    unfold insert at member
    split at member
    · next same =>
      obtain here | later := List.mem_cons.mp member
      · exact .inl (same ▸ here)
      · exact .inr (List.mem_cons_of_mem _ later)
    · obtain here | later := List.mem_cons.mp member
      · exact .inr (here ▸ List.mem_cons_self)
      · exact (ih later).imp_right (List.mem_cons_of_mem _)

theorem mem_of_lookup (found : entries.lookup key = some value) : (key, value) ∈ entries := by
  induction entries with
  | nil => cases found
  | cons entry rest ih =>
    obtain ⟨other, old⟩ := entry
    rw [lookup_cons] at found
    split at found
    · next same =>
      cases found
      rw [same]
      exact List.mem_cons_self
    · exact List.mem_cons_of_mem _ (ih found)

end Entries

namespace OrderedMap

variable {α : Type}

theorem contains_iff {map : OrderedMap α} {key : String} :
    map.contains key = true ↔ key ∈ map.keys :=
  Entries.isSome_lookup

section

variable (map : OrderedMap α) (added : List (String × α))

theorem keys_insert (key : String) (value : α) :
    (map.insert key value).keys = if key ∈ map.keys then map.keys else map.keys ++ [key] :=
  Entries.keys_insert key value map.entries

theorem keys_erase (key : String) : (map.erase key).keys = map.keys.filter (· != key) :=
  Entries.keys_erase key map.entries

theorem keys_filter (keep : String → Bool) : (map.filter keep).keys = map.keys.filter keep := by
  simp [filter, keys, Entries.keys, List.filter_map, Function.comp_def]

theorem insertAll_cons (entry : String × α) (added : List (String × α)) :
    map.insertAll (entry :: added) = (map.insert entry.1 entry.2).insertAll added :=
  rfl

theorem insertAll_append (first second : List (String × α)) :
    map.insertAll (first ++ second) = (map.insertAll first).insertAll second :=
  List.foldl_append

/-- Keys that are not present are appended in the order in which they are first written. -/
theorem keys_insertAll :
    (map.insertAll added).keys =
      map.keys ++ ((Entries.keys added).filter (· ∉ map.keys)).eraseDups := by
  induction added generalizing map with
  | nil => simp [insertAll, Entries.keys]
  | cons entry added ih =>
    have first : Entries.keys (entry :: added) = entry.1 :: Entries.keys added := rfl
    rw [insertAll_cons, ih, keys_insert, first]
    by_cases present : entry.1 ∈ map.keys
    · simp [present]
    · rw [if_neg present, List.filter_cons_of_pos (by simpa using present), List.eraseDups_cons,
        List.filter_filter, List.append_assoc, List.singleton_append]
      congr 3
      refine List.filter_congr fun key _ => ?_
      by_cases same : key = entry.1 <;> simp [same]

theorem keys_prefix_insertAll : map.keys <+: (map.insertAll added).keys := by
  rw [keys_insertAll]
  exact List.prefix_append _ _

end

theorem keys_ofEntries (added : List (String × α)) :
    (ofEntries added).keys = (Entries.keys added).eraseDups := by
  have all : (Entries.keys added).filter (· ∉ (empty : OrderedMap α).keys) = Entries.keys added :=
    List.filter_eq_self.mpr fun key _ => by simp [keys, Entries.keys, empty]
  rw [ofEntries, keys_insertAll, all]
  rfl

theorem eraseDups_of_nodup {keys : List String} (distinct : keys.Nodup) :
    keys.eraseDups = keys := by
  induction keys with
  | nil => rfl
  | cons key keys ih =>
    obtain ⟨absent, rest⟩ := List.nodup_cons.mp distinct
    have others : keys.filter (fun other => !other == key) = keys := by
      refine List.filter_eq_self.mpr fun other member => ?_
      simpa using fun same : other = key => absent (same ▸ member)
    rw [List.eraseDups_cons, others, ih rest]

/-- The keys of another map that are not present are appended in their order. -/
theorem keys_insertAll_entries (map other : OrderedMap α) :
    (map.insertAll other.entries).keys = map.keys ++ other.keys.filter (· ∉ map.keys) := by
  rw [keys_insertAll]
  congr 1
  exact eraseDups_of_nodup (other.distinct.filter _)

/-- The values of another map replace those present. -/
theorem get?_insertAll_entries (map other : OrderedMap α) (key : String) :
    (map.insertAll other.entries).get? key = (other.get? key).or (map.get? key) := by
  obtain ⟨added, distinct⟩ := other
  simp only [get?]
  induction added generalizing map with
  | nil => rfl
  | cons entry added ih =>
    obtain ⟨name, value⟩ := entry
    obtain ⟨absent, rest⟩ := List.nodup_cons.mp distinct
    rw [insertAll_cons, ih _ rest, Entries.lookup_cons]
    simp only [insert, Entries.lookup_insert]
    by_cases same : key = name
    · have unlisted : added.lookup name = none :=
        Option.not_isSome_iff_eq_none.mp (mt Entries.isSome_lookup.mp absent)
      rw [if_pos same, if_pos same, same, unlisted]
      rfl
    · rw [if_neg same, if_neg same]

theorem mem_of_mem_insertAll {map : OrderedMap α} {added : List (String × α)} {entry : String × α}
    (member : entry ∈ (map.insertAll added).entries) : entry ∈ map.entries ∨ entry ∈ added := by
  induction added generalizing map with
  | nil => exact .inl member
  | cons first added ih =>
    obtain present | later := ih member
    · obtain rfl | earlier := Entries.mem_of_mem_insert present
      · exact .inr List.mem_cons_self
      · exact .inl earlier
    · exact .inr (List.mem_cons_of_mem _ later)

end OrderedMap
end PatchScript
