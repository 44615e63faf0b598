import PatchScript.Execution
import PatchScript.Proofs.Native.Regime
import PatchScript.Proofs.Store.Contents

/-!
# The order of keys in objects

What every operation that makes, changes or lists objects does to the order of their keys.  A
key that is written keeps its place or is appended, a key that is erased leaves the others in
their order, and all that lists an object lists it in the order of its keys.
-/

namespace PatchScript

variable {ref : ObjectRef} {store : Store} {key : String} {value : Value} {after : Store}

/-! ## Changes of an object -/

namespace Store

/-- A key of an object was written: it kept its place if it was there, and was appended
otherwise. -/
structure Wrote (before after : Store) (ref : ObjectRef) (key : String) (value : Value) : Prop where
  keys : (after.object ref).keys =
    if key ∈ (before.object ref).keys then (before.object ref).keys
    else (before.object ref).keys ++ [key]
  values (other : String) : (after.object ref).get? other =
    if other = key then some value else (before.object ref).get? other
  others (other : ObjectRef) : other ≠ ref → after.object other = before.object other

/-- A key of an object was erased: the others are in the order in which they were. -/
structure Erased (before after : Store) (ref : ObjectRef) (key : String) : Prop where
  present : key ∈ (before.object ref).keys
  keys : (after.object ref).keys = (before.object ref).keys.filter (· != key)
  values (other : String) : (after.object ref).get? other =
    if other = key then none else (before.object ref).get? other
  others (other : ObjectRef) : other ≠ ref → after.object other = before.object other

/-- The entries of an object were written into another: keys that were there kept their
place, the others were appended in their order. -/
structure Merged (before after : Store) (target source : ObjectRef) : Prop where
  keys : (after.object target).keys =
    (before.object target).keys ++
      (before.object source).keys.filter (· ∉ (before.object target).keys)
  values (key : String) : (after.object target).get? key =
    ((before.object source).get? key).or ((before.object target).get? key)
  others (other : ObjectRef) : other ≠ target → after.object other = before.object other

variable (present : store.HasObject ref)
include present

theorem wrote_insert (key : String) (value : Value) :
    store.Wrote (store.modifyObject ref fun entries => entries.insert key value) ref key value where
  keys := by rw [object_modifyObject_self present, OrderedMap.keys_insert]
  values other := by rw [object_modifyObject_self present, OrderedMap.get?_insert]
  others _ differs := object_modifyObject_of_ne differs _

theorem erased_erase (member : key ∈ (store.object ref).keys) :
    store.Erased (store.modifyObject ref fun entries => entries.erase key) ref key where
  present := member
  keys := by rw [object_modifyObject_self present, OrderedMap.keys_erase]
  values other := by rw [object_modifyObject_self present, OrderedMap.get?_erase]
  others _ differs := object_modifyObject_of_ne differs _

theorem merged_insertAll (source : ObjectRef) :
    store.Merged (store.modifyObject ref fun entries =>
      entries.insertAll (store.object source).entries) ref source where
  keys := by rw [object_modifyObject_self present, OrderedMap.keys_insertAll_entries]
  values key := by rw [object_modifyObject_self present, OrderedMap.get?_insertAll_entries]
  others _ differs := object_modifyObject_of_ne differs _

end Store

/-! ## Places -/

namespace Place

/-- The object and the key that a place stands for, if it is one of an object. -/
def key? (context : Context) : Place → Option (ObjectRef × String)
  | .bare name => some (context.root, name)
  | .property (.object ref) name => some (ref, name)
  | .index (.object ref) (.string key) => some (ref, key)
  | _ => none

variable {context : Context} {place : Place} {before : Store}

omit value in
theorem objects_of_changeFrames {plan : Frames → Except ErrorKind FrameChange}
    (ran : Run.changeFrames plan before = .ok () after) : after.objects = before.objects := by
  rw [Run.changeFrames_apply] at ran
  split at ran
  · cases ran
    rfl
  · cases ran

/-- A place is written or deleted that stands for a position of an array. -/
theorem objects_of_modifyArray {ref : ArrayRef} {key : Value}
    {change : Nat → Array Value → Array Value}
    (ran : (do
      let size := (← Run.arrayOf ref).size
      let place ← Run.lift (position key size)
      modify fun store => store.modifyArray ref (change place) : Run Unit) before = .ok () after) :
    after.objects = before.objects := by
  obtain ⟨_, _, read, ran⟩ := bind_eq_ok_iff.mp ran
  cases read
  obtain ⟨_, _, found, ran⟩ := bind_eq_ok_iff.mp ran
  obtain ⟨_, rfl⟩ := Run.lift_eq_ok_iff.mp found
  cases ran
  rfl

/-- A place was written: a key of an object, or else no object was changed. -/
def Written (context : Context) (place : Place) (value : Value) (before after : Store) : Prop :=
  match place.key? context with
  | some (ref, key) => before.HasObject ref → before.Wrote after ref key value
  | none => after.objects = before.objects

/-- A place was deleted: a key of an object, or else no object was changed. -/
def Deleted (context : Context) (place : Place) (before after : Store) : Prop :=
  match place.key? context with
  | some (ref, key) => before.HasObject ref → before.Erased after ref key
  | none => after.objects = before.objects

theorem written_of_set (ran : place.set context value before = .ok () after) :
    place.Written context value before after := by
  unfold set at ran
  split at ran
  · exact objects_of_changeFrames ran
  · next name =>
    cases ran
    exact fun present => Store.wrote_insert present name value
  · next container name =>
    cases container with
    | object ref =>
      cases ran
      exact fun present => Store.wrote_insert present name value
    | null | boolean _ | number _ | string _ | array _ | function _ => cases ran
  · next ref key =>
    cases key with
    | string key =>
      cases ran
      exact fun present => Store.wrote_insert present key value
    | null | boolean _ | number _ | object _ | array _ | function _ => cases ran
  · next ref key =>
    have unchanged := objects_of_modifyArray ran
    cases key <;> exact unchanged
  · cases ran

omit value in
theorem erased_of_deleteKey (ran : deleteKey ref key before = .ok () after)
    (present : before.HasObject ref) : before.Erased after ref key := by
  obtain ⟨entries, _, read, ran⟩ := bind_eq_ok_iff.mp ran
  cases read
  split at ran
  · next member =>
    cases ran
    exact Store.erased_erase present (OrderedMap.contains_iff.mp member)
  · cases ran

omit value in
theorem deleted_of_delete (ran : place.delete context before = .ok () after) :
    place.Deleted context before after := by
  unfold delete at ran
  split at ran
  · exact objects_of_changeFrames ran
  · exact erased_of_deleteKey ran
  · next container name =>
    cases container with
    | object ref => exact erased_of_deleteKey ran
    | null | boolean _ | number _ | string _ | array _ | function _ => cases ran
  · next ref key =>
    cases key with
    | string key => exact erased_of_deleteKey ran
    | null | boolean _ | number _ | object _ | array _ | function _ => cases ran
  · next ref key =>
    have unchanged := objects_of_modifyArray ran
    cases key <;> exact unchanged
  · cases ran

/-- A key of an object can always be written. -/
theorem exists_set (stands : place.key? context = some (ref, key)) (present : store.HasObject ref)
    (value : Value) :
    ∃ after, place.set context value store = .ok () after ∧ store.Wrote after ref key value := by
  unfold key? at stands
  split at stands <;> cases stands
  all_goals exact ⟨_, rfl, Store.wrote_insert present _ value⟩

theorem exists_deleteKey (present : store.HasObject ref) (member : key ∈ (store.object ref).keys) :
    ∃ after, deleteKey ref key store = .ok () after ∧ store.Erased after ref key := by
  refine ⟨_, bind_eq_ok_iff.mpr ⟨_, _, rfl, ?_⟩, Store.erased_erase present member⟩
  rw [if_pos (OrderedMap.contains_iff.mpr member)]
  rfl

/-- A key that an object has can be deleted. -/
theorem exists_delete (stands : place.key? context = some (ref, key))
    (present : store.HasObject ref) (member : key ∈ (store.object ref).keys) :
    ∃ after, place.delete context store = .ok () after ∧ store.Erased after ref key := by
  unfold key? at stands
  split at stands <;> cases stands
  all_goals exact exists_deleteKey present member

end Place

/-! ## Assignments, updates and deletions -/

namespace Evaluate

variable {below : Interpreter} {context : Context} {target : Reference}
variable {expr : Expr} {members : List (String × Expr)} {built result : OrderedMap Value}
variable {node : Statement}

/-- An assignment writes the place, after its parts and the value are evaluated. -/
theorem written_of_assign {op : Option BinaryOp} {span : Span}
    (ran : assign below context target op expr span store = .ok value after) :
    ∃ place resolved before,
      Place.resolve below context target store = .ok place resolved ∧
      assignedValue below context place target op expr span resolved = .ok value before ∧
      place.Written context value before after := by
  obtain ⟨place, resolved, resolves, ran⟩ := bind_eq_ok_iff.mp ran
  obtain ⟨assigned, before, assigns, ran⟩ := bind_eq_ok_iff.mp ran
  obtain ⟨_, _, sets, ran⟩ := bind_eq_ok_iff.mp ran
  cases ran
  exact ⟨place, resolved, before, resolves, assigns,
    Place.written_of_set (Run.mapError_eq_ok_iff.mp sets)⟩

/-- An update writes the place, after its parts are evaluated and it is read. -/
theorem written_of_update {increment yieldsNew : Bool}
    (ran : update below context target increment yieldsNew store = .ok value after) :
    ∃ place resolved old before,
      Place.resolve below context target store = .ok place resolved ∧
      numberAt context place resolved = .ok old before ∧
      place.Written context (.number (if increment then old + 1 else old - 1)) before after := by
  obtain ⟨place, resolved, resolves, ran⟩ := bind_eq_ok_iff.mp ran
  obtain ⟨old, before, reads, ran⟩ := bind_eq_ok_iff.mp ran
  obtain ⟨_, _, sets, ran⟩ := bind_eq_ok_iff.mp ran
  cases ran
  exact ⟨place, resolved, old, before, resolves, Run.mapError_eq_ok_iff.mp reads,
    Place.written_of_set (Run.mapError_eq_ok_iff.mp sets)⟩

/-- A deletion erases the place, after its parts are evaluated. -/
theorem deleted_of_statement (form : node.form = .delete target) {signal : Signal}
    (ran : statement below context node store = .ok signal after) :
    ∃ place before,
      Place.resolve below context target store = .ok place before ∧
      place.Deleted context before after := by
  unfold statement at ran
  rw [form] at ran
  obtain ⟨place, before, resolves, ran⟩ := bind_eq_ok_iff.mp ran
  obtain ⟨_, _, deletes, ran⟩ := bind_eq_ok_iff.mp ran
  cases ran
  exact ⟨place, before, resolves, Place.deleted_of_delete (Run.mapError_eq_ok_iff.mp deletes)⟩

/-! ## New objects -/

/-- The entries of an object are written in the order in which they stand. -/
theorem entries_eq_insertAll (ran : entries below context members built store = .ok result after) :
    ∃ added, Entries.keys added = members.map Prod.fst ∧ result = built.insertAll added := by
  induction members generalizing built store with
  | nil =>
    cases ran
    exact ⟨[], rfl, rfl⟩
  | cons member members ih =>
    obtain ⟨key, expr⟩ := member
    obtain ⟨first, _, _, ran⟩ := bind_eq_ok_iff.mp ran
    obtain ⟨added, names, rfl⟩ := ih ran
    refine ⟨(key, first) :: added, ?_, rfl⟩
    rw [Entries.keys, List.map_cons, List.map_cons]
    exact congrArg (key :: ·) names

theorem functionEntries_eq_insertAll {functions : List Native}
    (ran : functionEntries functions built store = .ok result after) :
    (∃ added, Entries.keys added = functions.map Native.name ∧ result = built.insertAll added) ∧
      after.objects = store.objects := by
  induction functions generalizing built store with
  | nil =>
    cases ran
    exact ⟨⟨[], rfl, rfl⟩, rfl⟩
  | cons function functions ih =>
    obtain ⟨first, _, made, ran⟩ := bind_eq_ok_iff.mp ran
    cases made
    obtain ⟨⟨added, names, rfl⟩, unchanged⟩ := ih ran
    refine ⟨⟨(function.name, _) :: added, ?_, rfl⟩, unchanged⟩
    rw [Entries.keys, List.map_cons, List.map_cons]
    exact congrArg (function.name :: ·) names

/-- An object literal makes an object with its keys in the order in which they stand first. -/
theorem keys_of_object (form : expr.form = .object members)
    (ran : expression below context expr store = .ok value after) :
    ∃ ref, value = .object ref ∧ (after.object ref).keys = (members.map Prod.fst).eraseDups := by
  unfold expression at ran
  rw [form] at ran
  obtain ⟨built, before, builds, ran⟩ := bind_eq_ok_iff.mp ran
  obtain ⟨ref, _, made, ran⟩ := bind_eq_ok_iff.mp ran
  cases ran
  obtain ⟨added, names, rfl⟩ := entries_eq_insertAll builds
  refine ⟨ref, rfl, ?_⟩
  rw [(Run.object_of_newObject made).1, ← names]
  exact OrderedMap.keys_ofEntries added

/-- The object of a native library has the constants and then the functions as its keys. -/
theorem keys_of_populate {library : NativeLibrary} (ran : populate library ref store = .ok () after)
    (present : store.HasObject ref) :
    (after.object ref).keys =
      (library.constants.map Prod.fst ++ library.functions.map Native.name).eraseDups := by
  obtain ⟨contents, before, builds, ran⟩ := bind_eq_ok_iff.mp ran
  cases ran
  obtain ⟨⟨added, names, rfl⟩, unchanged⟩ := functionEntries_eq_insertAll builds
  have kept : before.HasObject ref := by
    unfold Store.HasObject
    rw [unchanged]
    exact present
  rw [Store.object_modifyObject_self kept, OrderedMap.ofEntries, ← OrderedMap.insertAll_append]
  have listed := OrderedMap.keys_ofEntries
    (library.constants.map (fun constant => (constant.1, Value.number constant.2)) ++ added)
  rw [Entries.keys, List.map_append, List.map_map] at listed
  rw [← names]
  exact listed

/-! ## Iteration -/

/-- An object is iterated over by its keys, in their order. -/
theorem statement_foreach {name : String} {iterable : Expr} {body : Statement}
    (form : node.form = .foreach name iterable body) {before : Store}
    (evaluated : below.evaluate context iterable store = .ok (.object ref) before) :
    statement below context node store =
      foreachValue below context name iterable.span body
        ((before.object ref).keys.map Value.string) before := by
  unfold statement
  rw [form]
  simp only [bind, EStateM.bind, evaluated]
  rfl

end Evaluate

/-! ## Sums of objects -/

namespace Operator

theorem keys_union (left right : OrderedMap Value) :
    (union left right).keys = left.keys.filter (· ∉ right.keys) ++ right.keys := by
  have kept : (left.filter fun key => !right.contains key).keys =
      left.keys.filter (· ∉ right.keys) := by
    rw [OrderedMap.keys_filter]
    refine List.filter_congr fun key _ => ?_
    simp [← OrderedMap.contains_iff]
  rw [union, OrderedMap.keys_insertAll_entries, kept]
  congr 1
  refine List.filter_eq_self.mpr fun key member => ?_
  simp [member]

/-- The sum of two objects has the keys of the first that the second lacks and then those
of the second. -/
theorem keys_of_add {left right : ObjectRef}
    (ran : binary .add (.object left) (.object right) store = .ok value after) :
    ∃ ref, value = .object ref ∧
      (after.object ref).keys =
        (store.object left).keys.filter (· ∉ (store.object right).keys) ++
          (store.object right).keys := by
  obtain ⟨_, _, read, ran⟩ := bind_eq_ok_iff.mp ran
  cases read
  obtain ⟨_, _, read, ran⟩ := bind_eq_ok_iff.mp ran
  cases read
  obtain ⟨ref, _, made, ran⟩ := bind_eq_ok_iff.mp ran
  cases ran
  refine ⟨ref, rfl, ?_⟩
  rw [(Run.object_of_newObject made).1, keys_union]

end Operator

/-! ## Native functions -/

section Natives

variable {site : CallSite}

/-- Arrays of the key and the value of each entry are made in the order of the entries. -/
theorem ObjectFunction.mapM_entryArray (entries : List (String × Value)) :
    ∃ pairs after, entries.mapM entryArray store = .ok pairs after ∧
      (∀ ref, ref.index < store.arrays.size → after.array ref = store.array ref) ∧
      store.arrays.size ≤ after.arrays.size ∧ after.objects = store.objects ∧
      List.Forall₂ (fun entry pair => ∃ ref, pair = .array ref ∧ ref.index < after.arrays.size ∧
        after.array ref = #[.string entry.1, entry.2]) entries pairs := by
  induction entries generalizing store with
  | nil => exact ⟨[], store, rfl, fun _ _ => rfl, Nat.le_refl _, rfl, .nil⟩
  | cons entry entries ih =>
    have made : entryArray entry store =
        .ok (.array (store.addArray #[.string entry.1, entry.2]).1)
          (store.addArray #[.string entry.1, entry.2]).2 := rfl
    have size : (store.addArray #[.string entry.1, entry.2]).2.arrays.size =
        store.arrays.size + 1 := Array.size_push _
    obtain ⟨pairs, after, rest, kept, grown, unchanged, listed⟩ :=
      @ih (store.addArray #[.string entry.1, entry.2]).2
    rw [size] at grown kept
    have self := kept (store.addArray #[.string entry.1, entry.2]).1 (Nat.lt_succ_self _)
    rw [Store.array_addArray, if_pos rfl] at self
    refine ⟨_ :: pairs, after, ?_, fun ref old => ?_, by omega, unchanged,
      .cons ⟨_, rfl, grown, self⟩ listed⟩
    · rw [List.mapM_cons]
      exact bind_eq_ok_iff.mpr ⟨_, _, made, bind_eq_ok_iff.mpr ⟨_, _, rest, rfl⟩⟩
    · rw [kept ref (by omega), Store.array_addArray, if_neg]
      rintro rfl
      exact Nat.lt_irrefl _ old

namespace Native

/-- The keys of an object are listed in their order. -/
theorem dispatch_keys (ref : ObjectRef) :
    ∃ result after, (objects .keys).dispatch site [.object ref] store = .ok (.array result) after ∧
      after.array result = ((store.object ref).keys.map Value.string).toArray ∧
      after.objects = store.objects := by
  obtain ⟨result, after, made, listed⟩ :=
    Run.exists_newArray store ((store.object ref).keys.map Value.string).toArray
  exact ⟨result, after, made, listed⟩

/-- The values of an object are listed in the order of its keys. -/
theorem dispatch_values (ref : ObjectRef) :
    ∃ result after,
      (objects .values).dispatch site [.object ref] store = .ok (.array result) after ∧
      after.array result = (store.object ref).values.toArray ∧
      after.objects = store.objects := by
  obtain ⟨result, after, made, listed⟩ :=
    Run.exists_newArray store (store.object ref).values.toArray
  exact ⟨result, after, made, listed⟩

/-- The entries of an object are listed in the order of its keys. -/
theorem dispatch_entries (ref : ObjectRef) :
    ∃ result after,
      (objects .entries).dispatch site [.object ref] store = .ok (.array result) after ∧
      List.Forall₂ (fun entry pair => ∃ ref, pair = .array ref ∧
          after.array ref = #[.string entry.1, entry.2])
        (store.object ref).entries (after.array result).toList ∧
      after.objects = store.objects := by
  obtain ⟨pairs, middle, paired, _, _, unchanged, listed⟩ :=
    ObjectFunction.mapM_entryArray (store.object ref).entries
  have ran : (objects .entries).dispatch site [.object ref] store =
      .ok (.array (middle.addArray pairs.toArray).1) (middle.addArray pairs.toArray).2 :=
    Run.mapError_eq_ok_iff.mpr (bind_eq_ok_iff.mpr ⟨_, _, rfl, bind_eq_ok_iff.mpr
      ⟨pairs, middle, paired, rfl⟩⟩)
  refine ⟨_, _, ran, ?_, unchanged⟩
  rw [Store.array_addArray, if_pos rfl]
  refine listed.imp fun entry pair => ?_
  rintro ⟨ref, rfl, old, found⟩
  refine ⟨ref, rfl, ?_⟩
  rw [Store.array_addArray, if_neg, found]
  rintro rfl
  exact Nat.lt_irrefl _ old

/-- A key that an object has is erased, and its value returned. -/
theorem dispatch_remove (found : (store.object ref).get? key = some value)
    (present : store.HasObject ref) :
    ∃ after, (objects .remove).dispatch site [.object ref, .string key] store = .ok value after ∧
      store.Erased after ref key := by
  have member := OrderedMap.contains_iff.mp (Option.isSome_iff_exists.mpr ⟨_, found⟩)
  refine ⟨_, Run.mapError_eq_ok_iff.mpr (bind_eq_ok_iff.mpr ⟨_, _, rfl, ?_⟩),
    Store.erased_erase present member⟩
  simp only [found]
  rfl

/-- No key is erased that is not there. -/
theorem found_of_remove
    (ran : (objects .remove).dispatch site [.object ref, .string key] store = .ok value after) :
    (store.object ref).get? key = some value := by
  obtain ⟨entries, _, read, ran⟩ := bind_eq_ok_iff.mp (body_of_dispatch ran)
  cases read
  cases found : (store.object ref).get? key with
  | none =>
    simp only [found] at ran
    cases ran
  | some removed =>
    simp only [found] at ran
    cases ran
    rfl

end Native
end Natives

/-! ## Documents -/

namespace Store

variable {json : Json}

section

variable (members : List (String × Json)) (store : Store)

/-- The members of a document are written in the order in which they stand. -/
theorem ofJsonMembers_eq_insertAll (values : OrderedMap Value) :
    ∃ added, Entries.keys added = members.map Prod.fst ∧
      (store.ofJsonMembers members values).1 = values.insertAll added := by
  induction members generalizing store values with
  | nil => exact ⟨[], rfl, rfl⟩
  | cons member members ih =>
    obtain ⟨name, json⟩ := member
    obtain ⟨added, names, built⟩ :=
      ih (store.ofJson json).2 (values.insert name (store.ofJson json).1)
    refine ⟨(name, (store.ofJson json).1) :: added, ?_, built⟩
    rw [Entries.keys, List.map_cons, List.map_cons]
    exact congrArg (name :: ·) names

theorem keys_ofJsonMembers :
    (store.ofJsonMembers members OrderedMap.empty).1.keys = (members.map Prod.fst).eraseDups := by
  obtain ⟨added, names, built⟩ := ofJsonMembers_eq_insertAll members store OrderedMap.empty
  rw [built, ← names]
  exact OrderedMap.keys_ofEntries added

/-- The object of a document has the names of its members as keys, in the order in which
they stand first. -/
theorem keys_of_ofJson :
    ∃ ref, (store.ofJson (.object members)).1 = .object ref ∧
      ((store.ofJson (.object members)).2.object ref).keys = (members.map Prod.fst).eraseDups := by
  have made := object_addObject_self (store.ofJsonMembers members OrderedMap.empty).2
    (store.ofJsonMembers members OrderedMap.empty).1
  exact ⟨_, rfl, (congrArg OrderedMap.keys made).trans (keys_ofJsonMembers members store)⟩

end

/-- A document lists a value: in every object of it the members stand in the order of keys. -/
inductive Lists (store : Store) : Value → Json → Prop where
  | null : Lists store .null .null
  | boolean (value : Bool) : Lists store (.boolean value) (.bool value)
  | number (value : Float) (written : JsonNumber) : Lists store (.number value) (.number written)
  | string (value : String) : Lists store (.string value) (.string value)
  | array {ref : ArrayRef} {items : List Json} :
      List.Forall₂ (Lists store) (store.array ref).toList items →
      Lists store (.array ref) (.array items)
  | object {ref : ObjectRef} {members : List (String × Json)} :
      members.map Prod.fst = (store.object ref).keys →
      List.Forall₂ (Lists store) (store.object ref).values (members.map Prod.snd) →
      Lists store (.object ref) (.object members)

theorem lists_of_writeWithin {levels budget rest : Nat}
    (ran : Document.writeWithin store levels value budget = .ok json rest) :
    store.Lists value json := by
  induction levels generalizing value json budget rest with
  | zero => cases ran
  | succ levels ih =>
    obtain ⟨_, _, _, ran⟩ := bind_eq_ok_iff.mp ran
    cases value with
    | null =>
      cases ran
      exact .null
    | boolean value =>
      cases ran
      exact .boolean value
    | number value =>
      cases converted : Document.number value with
      | ok written =>
        simp only [converted] at ran
        cases ran
        exact .number value written
      | error error =>
        simp only [converted] at ran
        cases ran
    | string value =>
      cases ran
      exact .string value
    | array ref =>
      obtain ⟨items, _, written, ran⟩ := bind_eq_ok_iff.mp ran
      cases ran
      refine .array (forall₂_of_mapM_eq_ok (fun item document _ _ ran => ?_) written)
      exact ih ran
    | object ref =>
      obtain ⟨members, _, written, ran⟩ := bind_eq_ok_iff.mp ran
      cases ran
      have listed : List.Forall₂
          (fun entry member => entry.1 = member.1 ∧ store.Lists entry.2 member.2)
          (store.object ref).entries members := by
        refine forall₂_of_mapM_eq_ok (fun entry member _ _ ran => ?_) written
        obtain ⟨_, _, written, ran⟩ := bind_eq_ok_iff.mp ran
        cases ran
        exact ⟨rfl, ih written⟩
      have names := listed.imp fun _ _ both => both.1
      have documents := listed.imp fun _ _ both => both.2
      rw [← List.forall₂_map_right_iff, ← List.forall₂_map_left_iff] at names documents
      rw [List.forall₂_eq_eq_eq] at names
      exact .object names.symm documents
    | function ref => cases ran

/-- A value is written as a document that lists it. -/
theorem lists_of_toJson (written : store.toJson value = .ok json) : store.Lists value json := by
  unfold toJson at written
  split at written
  · next ran =>
    cases written
    exact lists_of_writeWithin ran
  · cases written

end Store

/-- The root of an execution has the names of the members of its document as keys. -/
theorem Execution.keys_of_start (members : List (String × Json)) (store : Store) :
    ∃ context after, start members store = .ok context after ∧
      (after.object context.root).keys = (members.map Prod.fst).eraseDups := by
  have made := Store.object_addObject_self (store.ofJsonMembers members OrderedMap.empty).2
    (store.ofJsonMembers members OrderedMap.empty).1
  exact ⟨_, _, rfl, (congrArg OrderedMap.keys made).trans (Store.keys_ofJsonMembers members store)⟩

end PatchScript
