/-!
# Maps that remember insertion order

An `OrderedMap` is a list of entries with distinct keys.  Writing a present key
keeps its place, writing a new key appends it, and erasing a key keeps the order
of the others.
-/

namespace PatchScript

namespace Entries

variable {α : Type}

/-- Write a key in a list of entries: in place if it is present, at the end
otherwise. -/
def insert (key : String) (value : α) : List (String × α) → List (String × α)
  | [] => [(key, value)]
  | (other, old) :: rest =>
    if other = key then (other, value) :: rest
    else (other, old) :: insert key value rest

def keys (entries : List (String × α)) : List String :=
  entries.map Prod.fst

theorem lookup_cons (key other : String) (value : α) (rest : List (String × α)) :
    ((other, value) :: rest).lookup key = if key = other then some value else rest.lookup key := by
  rw [List.lookup_cons]
  by_cases same : key = other
  · simp [same]
  · have different : (key == other) = false := by simp [same]
    simp [different, same]

theorem isSome_lookup {key : String} {entries : List (String × α)} :
    (entries.lookup key).isSome = true ↔ key ∈ keys entries := by
  induction entries with
  | nil => simp [keys]
  | cons entry rest ih =>
    obtain ⟨other, value⟩ := entry
    rw [lookup_cons]
    by_cases same : key = other
    · simp [keys, same]
    · simp [keys, same, ih]

/-- Writing a key leaves the keys as they are or appends the key. -/
theorem keys_insert (key : String) (value : α) (entries : List (String × α)) :
    keys (insert key value entries) =
      if key ∈ keys entries then keys entries else keys entries ++ [key] := by
  induction entries with
  | nil => simp [insert, keys]
  | cons entry rest ih =>
    obtain ⟨other, old⟩ := entry
    by_cases same : other = key
    · simp [insert, keys, same]
    · have different : ¬ key = other := fun equal => same equal.symm
      simp only [insert, same, if_false, keys, List.map_cons, List.mem_cons, different,
        false_or]
      rw [show List.map Prod.fst (insert key value rest) = keys (insert key value rest)
        from rfl, ih]
      split <;> simp_all [keys]

theorem nodup_keys_insert (key : String) (value : α) {entries : List (String × α)}
    (distinct : (keys entries).Nodup) : (keys (insert key value entries)).Nodup := by
  rw [keys_insert]
  split
  · exact distinct
  · next absent =>
    rw [List.nodup_append]
    refine ⟨distinct, by simp, ?_⟩
    intro present member other singleton equal
    rw [List.mem_singleton] at singleton
    exact absent (singleton ▸ equal ▸ member)

/-- A new key is appended. -/
theorem insert_of_not_mem {key : String} {entries : List (String × α)} (value : α)
    (absent : key ∉ keys entries) : insert key value entries = entries ++ [(key, value)] := by
  induction entries with
  | nil => rfl
  | cons entry rest ih =>
    obtain ⟨other, old⟩ := entry
    simp only [keys, List.map_cons, List.mem_cons, not_or] at absent
    rw [insert, if_neg (Ne.symm absent.1), ih absent.2, List.cons_append]

/-- A key that is written has the value written; the others keep theirs. -/
theorem lookup_insert (key other : String) (value : α) (entries : List (String × α)) :
    (insert key value entries).lookup other =
      if other = key then some value else entries.lookup other := by
  induction entries with
  | nil => rw [insert, lookup_cons, List.lookup_nil]
  | cons entry rest ih =>
    obtain ⟨first, old⟩ := entry
    by_cases here : first = key
    · rw [insert, if_pos here, lookup_cons, lookup_cons, here]
      split <;> rfl
    · rw [insert, if_neg here, lookup_cons, lookup_cons, ih]
      by_cases same : other = first
      · rw [if_pos same, if_neg (same ▸ here), if_pos same]
      · rw [if_neg same, if_neg same]

/-- Erase a key from a list of entries. -/
def erase (key : String) (entries : List (String × α)) : List (String × α) :=
  entries.filter fun entry => entry.1 != key

theorem keys_erase (key : String) (entries : List (String × α)) :
    keys (erase key entries) = (keys entries).filter (· != key) := by
  simp [keys, erase, List.filter_map, Function.comp_def]

theorem nodup_keys_erase (key : String) {entries : List (String × α)}
    (distinct : (keys entries).Nodup) : (keys (erase key entries)).Nodup := by
  rw [keys_erase]
  exact distinct.filter _

theorem lookup_erase (key other : String) (entries : List (String × α)) :
    (erase key entries).lookup other = if other = key then none else entries.lookup other := by
  induction entries with
  | nil => simp [erase]
  | cons entry rest ih =>
    obtain ⟨name, value⟩ := entry
    by_cases erased : name = key
    · have dropped : erase key ((name, value) :: rest) = erase key rest := by
        simp [erase, erased]
      rw [dropped, ih, lookup_cons, erased]
      by_cases same : other = key
      · rw [if_pos same, if_pos same]
      · rw [if_neg same, if_neg same, if_neg same]
    · have kept : erase key ((name, value) :: rest) = (name, value) :: erase key rest := by
        simp [erase, erased]
      rw [kept, lookup_cons, lookup_cons, ih]
      by_cases same : other = name
      · rw [if_pos same, if_pos same, if_neg (same ▸ erased)]
      · rw [if_neg same, if_neg same]

end Entries

/-- A finite map from texts whose keys have an order. -/
structure OrderedMap (α : Type) where
  entries : List (String × α)
  /-- No key occurs twice. -/
  distinct : (Entries.keys entries).Nodup

namespace OrderedMap

variable {α : Type}

def empty : OrderedMap α :=
  { entries := [], distinct := by simp [Entries.keys] }

instance : Inhabited (OrderedMap α) :=
  ⟨empty⟩

def keys (map : OrderedMap α) : List String :=
  Entries.keys map.entries

/-- The values in the order of their keys. -/
def values (map : OrderedMap α) : List α :=
  map.entries.map Prod.snd

def size (map : OrderedMap α) : Nat :=
  map.entries.length

def get? (map : OrderedMap α) (key : String) : Option α :=
  map.entries.lookup key

def contains (map : OrderedMap α) (key : String) : Bool :=
  (map.get? key).isSome

/-- Write a key: in place if it is present, at the end otherwise. -/
def insert (map : OrderedMap α) (key : String) (value : α) : OrderedMap α :=
  { entries := Entries.insert key value map.entries
    distinct := Entries.nodup_keys_insert key value map.distinct }

def erase (map : OrderedMap α) (key : String) : OrderedMap α :=
  { entries := Entries.erase key map.entries
    distinct := Entries.nodup_keys_erase key map.distinct }

/-- Write a list of entries one after the other. -/
def insertAll (map : OrderedMap α) (entries : List (String × α)) : OrderedMap α :=
  entries.foldl (fun result entry => result.insert entry.1 entry.2) map

/-- The map of a list of entries; of two entries with one key the later wins, in
the place of the earlier. -/
def ofEntries (entries : List (String × α)) : OrderedMap α :=
  empty.insertAll entries

/-- Keep the entries that pass a test. -/
def filter (map : OrderedMap α) (keep : String → Bool) : OrderedMap α :=
  { entries := map.entries.filter fun entry => keep entry.1
    distinct := by
      have keysFilter : Entries.keys (map.entries.filter fun entry => keep entry.1) =
          (Entries.keys map.entries).filter keep := by
        simp [Entries.keys, List.filter_map, Function.comp_def]
      rw [keysFilter]
      exact map.distinct.filter _ }

theorem get?_insert (map : OrderedMap α) (key other : String) (value : α) :
    (map.insert key value).get? other = if other = key then some value else map.get? other :=
  Entries.lookup_insert key other value map.entries

theorem get?_erase (map : OrderedMap α) (key other : String) :
    (map.erase key).get? other = if other = key then none else map.get? other :=
  Entries.lookup_erase key other map.entries

@[ext] theorem ext {left right : OrderedMap α}
    (equal : left.entries = right.entries) : left = right := by
  cases left
  cases right
  simp_all

end OrderedMap
end PatchScript
