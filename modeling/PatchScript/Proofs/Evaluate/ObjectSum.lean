import PatchScript.Proofs.Evaluate.ObjectOrder
import PatchScript.Proofs.Store.PartialEquivalence

/-!
# Sums of objects

The sum of two objects is a new object with the entries of the first whose keys the second
lacks, in their order, and then the entries of the second.  Said like this, the laws of sums
are laws of lists.  Merging one object into another gives every key the value that it has in
the sum, but leaves the keys of the first where they are.
-/

namespace PatchScript

/-! ## Entries over entries -/

namespace Entries

variable {α : Type}

/-- Put entries after others; of two entries with one key the later is left. -/
def overlay (first second : List (String × α)) : List (String × α) :=
  (first.filter fun entry => entry.1 ∉ keys second) ++ second

theorem mem_keys_overlay {key : String} {first second : List (String × α)} :
    key ∈ keys (overlay first second) ↔ key ∈ keys first ∨ key ∈ keys second := by
  have filtered : keys (first.filter fun entry => entry.1 ∉ keys second) =
      (keys first).filter (· ∉ keys second) := by
    simp [keys, List.filter_map, Function.comp_def]
  have appended : keys (overlay first second) =
      (keys first).filter (· ∉ keys second) ++ keys second := by
    rw [← filtered, overlay, keys, List.map_append]
    rfl
  rw [appended, List.mem_append, List.mem_filter, decide_eq_true_eq]
  by_cases later : key ∈ keys second <;> simp [later]

/-- Of three lists, an entry is left if none after it has its key. -/
theorem overlay_assoc (first second third : List (String × α)) :
    overlay (overlay first second) third = overlay first (overlay second third) := by
  have left : (first.filter fun entry => entry.1 ∉ keys (overlay second third)) =
      (first.filter fun entry => entry.1 ∉ keys second).filter
        fun entry => entry.1 ∉ keys third := by
    rw [List.filter_filter]
    refine List.filter_congr fun entry _ => ?_
    simp [mem_keys_overlay, Bool.and_comm]
  calc overlay (overlay first second) third
    _ = (first.filter fun entry => entry.1 ∉ keys second).filter
          (fun entry => entry.1 ∉ keys third) ++ overlay second third := by
        rw [overlay, overlay, List.filter_append, List.append_assoc]
        rfl
    _ = overlay first (overlay second third) := by rw [← left, overlay.eq_def first]

theorem overlay_nil (entries : List (String × α)) : overlay entries [] = entries := by
  simp [overlay, keys]

theorem overlay_self (entries : List (String × α)) : overlay entries entries = entries := by
  have none : (entries.filter fun entry => entry.1 ∉ keys entries) = [] := by
    refine List.filter_eq_nil_iff.mpr fun entry member => ?_
    have listed : entry.1 ∈ keys entries := List.mem_map_of_mem member
    simpa using listed
  rw [overlay, none, List.nil_append]

end Entries

/-- Entries with keys that are not present are appended as they are. -/
theorem OrderedMap.entries_insertAll_of_new {α : Type} {map : OrderedMap α}
    {added : List (String × α)} (distinct : (Entries.keys added).Nodup)
    (new : ∀ key ∈ Entries.keys added, key ∉ map.keys) :
    (map.insertAll added).entries = map.entries ++ added := by
  induction added generalizing map with
  | nil => exact (List.append_nil _).symm
  | cons entry added ih =>
    obtain ⟨unlisted, rest⟩ := List.nodup_cons.mp distinct
    obtain ⟨absent, others⟩ := List.forall_mem_cons.mp new
    have inserted : (map.insert entry.1 entry.2).entries = map.entries ++ [entry] :=
      Entries.insert_of_not_mem entry.2 absent
    rw [insertAll_cons, ih rest, inserted, List.append_assoc, List.singleton_append]
    intro key member
    rw [keys_insert, if_neg absent, List.mem_append, List.mem_singleton]
    rintro (present | rfl)
    · exact others key member present
    · exact unlisted member

/-! ## Sums -/

namespace Operator

theorem entries_union (left right : OrderedMap Value) :
    (union left right).entries = Entries.overlay left.entries right.entries := by
  rw [union, OrderedMap.entries_insertAll_of_new right.distinct]
  · refine congrArg (· ++ right.entries) (List.filter_congr fun entry _ => ?_)
    rw [Bool.eq_iff_iff, Bool.not_eq_true', decide_eq_true_eq, ← Bool.not_eq_true]
    exact not_congr OrderedMap.contains_iff
  · intro key member
    rw [OrderedMap.keys_filter, List.mem_filter, OrderedMap.contains_iff.mpr member]
    exact fun present => Bool.false_ne_true present.2

theorem get?_union (left right : OrderedMap Value) (key : String) :
    (union left right).get? key = (right.get? key).or (left.get? key) := by
  ext value
  rw [Option.or_eq_some_iff, OrderedMap.get?_eq_some_iff, OrderedMap.get?_eq_some_iff,
    OrderedMap.get?_eq_none_iff, OrderedMap.get?_eq_some_iff, entries_union, Entries.overlay,
    List.mem_append, List.mem_filter, decide_eq_true_eq, or_comm, and_comm]
  rfl

end Operator

namespace Run

variable {store : Store} {computation : Run Value} {entries : List (String × Value)}

/-- A computation makes a new object with certain entries, and leaves all containers alone. -/
def Makes (store : Store) (computation : Run Value) (entries : List (String × Value)) : Prop :=
  ∃ ref after, computation store = .ok (.object ref) after ∧ ¬ store.HasObject ref ∧
    (after.object ref).entries = entries ∧ store.Keeps after

theorem makes_sum (left right : ObjectRef) {first second : List (String × Value)}
    (ofLeft : (store.object left).entries = first)
    (ofRight : (store.object right).entries = second) :
    Makes store (Operator.binary .add (.object left) (.object right))
      (Entries.overlay first second) := by
  let sum := Operator.union (store.object left) (store.object right)
  have made : ((store.addObject sum).2.object (store.addObject sum).1).entries =
      Entries.overlay first second := by
    rw [Store.object_addObject_self, Operator.entries_union, ofLeft, ofRight]
  exact ⟨_, _, rfl, Nat.lt_irrefl _, made, .addObject store sum⟩

/-- What is made can be worked with, and all that was there is as it was. -/
theorem makes_bind {next : Value → Run Value} {result : List (String × Value)}
    (made : Makes store computation entries)
    (goes : ∀ ref after, (after.object ref).entries = entries → store.Keeps after →
      Makes after (next (.object ref)) result) :
    Makes store (computation >>= next) result := by
  obtain ⟨made, middle, ran, _, found, kept⟩ := made
  obtain ⟨ref, after, went, new, holds, keeps⟩ := goes made middle found kept
  refine ⟨ref, after, bind_eq_ok_iff.mpr ⟨_, _, ran, went⟩, fun old => new ?_, holds,
    kept.trans keeps⟩
  exact Nat.lt_of_lt_of_le old kept.objects

theorem makes_sum_left {a b c : ObjectRef} (present : store.HasObject c) :
    Makes store (do
        let sum ← Operator.binary .add (.object a) (.object b)
        Operator.binary .add sum (.object c))
      (Entries.overlay (Entries.overlay (store.object a).entries (store.object b).entries)
        (store.object c).entries) := by
  refine makes_bind (makes_sum a b rfl rfl) fun ref after found kept => ?_
  exact makes_sum ref c found (congrArg OrderedMap.entries (kept.object present id))

theorem makes_sum_right {a b c : ObjectRef} (present : store.HasObject a) :
    Makes store (do
        let sum ← Operator.binary .add (.object b) (.object c)
        Operator.binary .add (.object a) sum)
      (Entries.overlay (Entries.overlay (store.object a).entries (store.object b).entries)
        (store.object c).entries) := by
  rw [Entries.overlay_assoc]
  refine makes_bind (makes_sum b c rfl rfl) fun ref after found kept => ?_
  exact makes_sum a ref (congrArg OrderedMap.entries (kept.object present id)) found

end Run

/-- The sum of two objects is a new object, with the entries of the first that the second has
no keys for and then those of the second.  So sums can be bracketed in any way, objects without
entries add nothing on either side, and an object added to itself gives its own entries.
Merging the second into the first gives every key the value of the sum, but the keys of the
first stay in front. -/
theorem sum_orderedUnion (site : CallSite) {store : Store} {a b c empty : ObjectRef}
    (hasA : store.HasObject a) (hasC : store.HasObject c)
    (isEmpty : (store.object empty).entries = []) :
    Run.Makes store (Operator.binary .add (.object a) (.object b))
      (Entries.overlay (store.object a).entries (store.object b).entries) ∧
    (∃ entries,
      Run.Makes store (do
        let sum ← Operator.binary .add (.object a) (.object b)
        Operator.binary .add sum (.object c)) entries ∧
      Run.Makes store (do
        let sum ← Operator.binary .add (.object b) (.object c)
        Operator.binary .add (.object a) sum) entries) ∧
    Run.Makes store (Operator.binary .add (.object a) (.object empty)) (store.object a).entries ∧
    Run.Makes store (Operator.binary .add (.object empty) (.object a)) (store.object a).entries ∧
    Run.Makes store (Operator.binary .add (.object a) (.object a)) (store.object a).entries ∧
    ∃ sum added merged,
      Operator.binary .add (.object a) (.object b) store = .ok (.object sum) added ∧
      (Native.objects .merge).dispatch site [.object a, .object b] store = .ok (.object a) merged ∧
      (∀ key, (merged.object a).get? key = (added.object sum).get? key) ∧
      (merged.object a).keys = (store.object a).keys ++
        (store.object b).keys.filter (· ∉ (store.object a).keys) ∧
      ∀ other, other ≠ a → merged.object other = store.object other := by
  refine ⟨Run.makes_sum a b rfl rfl, ⟨_, Run.makes_sum_left hasC, Run.makes_sum_right hasA⟩,
    ?_, Run.makes_sum empty a isEmpty rfl, ?_, ?_⟩
  · simpa only [Entries.overlay_nil] using Run.makes_sum a empty rfl isEmpty
  · simpa only [Entries.overlay_self] using Run.makes_sum a a rfl rfl
  · have merging := Store.merged_insertAll hasA b
    let sum := Operator.union (store.object a) (store.object b)
    have added : (store.addObject sum).2.object (store.addObject sum).1 = sum :=
      Store.object_addObject_self store sum
    refine ⟨_, _, _, rfl, rfl, fun key => ?_, merging.keys, merging.others⟩
    rw [merging.values, ← Operator.get?_union]
    exact congrArg (OrderedMap.get? · key) added.symm

/-- A store with three objects, the last without entries. -/
def summands : Store :=
  { Store.empty with
    objects := #[OrderedMap.ofEntries [("x", .null), ("y", .boolean true)],
      OrderedMap.ofEntries [("z", .null), ("x", .boolean true)], .empty] }

/-- The key that both objects have goes to the place that it has in the second. -/
theorem sum_orderedUnion_overlapping :
    summands.HasObject ⟨0⟩ ∧ summands.HasObject ⟨1⟩ ∧ (summands.object ⟨2⟩).entries = [] ∧
      Run.Makes summands (Operator.binary .add (.object ⟨0⟩) (.object ⟨1⟩))
        [("y", .boolean true), ("z", .null), ("x", .boolean true)] := by
  have hasFirst : summands.HasObject ⟨0⟩ := Nat.zero_lt_succ 2
  have hasSecond : summands.HasObject ⟨1⟩ := Nat.one_lt_succ_succ 1
  have isEmpty : (summands.object ⟨2⟩).entries = [] := rfl
  exact ⟨hasFirst, hasSecond, isEmpty,
    (sum_orderedUnion ⟨fun _ _ => pure .null, default⟩ hasFirst hasSecond isEmpty).1⟩

end PatchScript
