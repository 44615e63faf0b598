import PatchScript.Run

/-!
# The contents of containers

What the containers of a store hold after one is added or changed.
-/

namespace PatchScript

variable {ref : ObjectRef}

theorem ArrayRef.eq_iff {ref other : ArrayRef} : ref = other ↔ ref.index = other.index := by
  cases ref
  cases other
  exact ⟨congrArg index, congrArg mk⟩

theorem ObjectRef.eq_iff {ref other : ObjectRef} : ref = other ↔ ref.index = other.index := by
  cases ref
  cases other
  exact ⟨congrArg index, congrArg mk⟩

namespace Store

variable {store : Store} {α : Type}

/-- The object of a handle exists. -/
def HasObject (store : Store) (ref : ObjectRef) : Prop :=
  ref.index < store.objects.size

/-- The array of a handle exists. -/
def HasArray (store : Store) (ref : ArrayRef) : Prop :=
  ref.index < store.arrays.size

/-- What a table holds after something is added to it. -/
theorem getD_push (table : Array α) (added default : α) (index : Nat) :
    (table.push added).getD index default =
      if index = table.size then added else table.getD index default := by
  rw [Array.getD_eq_getD_getElem?, Array.getD_eq_getD_getElem?, Array.getElem?_push]
  split <;> rfl

/-- What a table holds after something in it is changed. -/
theorem getD_modify (table : Array α) (change : α → α) (default : α) (place index : Nat) :
    (table.modify place change).getD index default =
      if place = index ∧ index < table.size then change (table.getD index default)
      else table.getD index default := by
  rw [Array.getD_eq_getD_getElem?, Array.getD_eq_getD_getElem?, Array.getElem?_modify]
  by_cases same : place = index
  · by_cases present : index < table.size
    · simp [same, present]
    · simp [same, present]
  · simp [same]

section

variable (store : Store)

theorem array_addArray (contents : Array Value) (ref : ArrayRef) :
    (store.addArray contents).2.array ref =
      if ref = (store.addArray contents).1 then contents else store.array ref := by
  simp only [ArrayRef.eq_iff]
  exact getD_push store.arrays contents #[] ref.index

theorem object_addObject (contents : OrderedMap Value) (ref : ObjectRef) :
    (store.addObject contents).2.object ref =
      if ref = (store.addObject contents).1 then contents else store.object ref := by
  simp only [ObjectRef.eq_iff]
  exact getD_push store.objects contents OrderedMap.empty ref.index

theorem object_addObject_self (contents : OrderedMap Value) :
    (store.addObject contents).2.object (store.addObject contents).1 = contents := by
  rw [object_addObject, if_pos rfl]

/-- Nothing is at a handle before it is given away. -/
theorem array_next (contents : Array Value) : store.array (store.addArray contents).1 = #[] := by
  simp [array, addArray, Array.getD]

theorem object_next (contents : OrderedMap Value) :
    store.object (store.addObject contents).1 = OrderedMap.empty := by
  simp [object, addObject, Array.getD]

theorem array_modifyArray (ref other : ArrayRef) (change : Array Value → Array Value) :
    (store.modifyArray ref change).array other =
      if ref = other ∧ other.index < store.arrays.size then change (store.array other)
      else store.array other := by
  simp only [ArrayRef.eq_iff]
  exact getD_modify store.arrays change #[] ref.index other.index

theorem object_modifyObject (ref other : ObjectRef) (change : OrderedMap Value → OrderedMap Value) :
    (store.modifyObject ref change).object other =
      if ref = other ∧ other.index < store.objects.size then change (store.object other)
      else store.object other := by
  simp only [ObjectRef.eq_iff]
  exact getD_modify store.objects change OrderedMap.empty ref.index other.index

end

theorem object_modifyObject_self (present : store.HasObject ref)
    (change : OrderedMap Value → OrderedMap Value) :
    (store.modifyObject ref change).object ref = change (store.object ref) := by
  rw [object_modifyObject, if_pos ⟨rfl, present⟩]

theorem object_modifyObject_of_ne {other : ObjectRef} (differs : other ≠ ref)
    (change : OrderedMap Value → OrderedMap Value) :
    (store.modifyObject ref change).object other = store.object other := by
  rw [object_modifyObject, if_neg fun same => differs same.1.symm]

/-! ## Containers that are left alone -/

/-- The containers of a store stay, and only some of them may have other contents. -/
structure KeepsBut (Changed : Value → Prop) (before after : Store) : Prop where
  objects : before.objects.size ≤ after.objects.size
  arrays : before.arrays.size ≤ after.arrays.size
  object {ref : ObjectRef} : before.HasObject ref → ¬ Changed (.object ref) →
    after.object ref = before.object ref
  array {ref : ArrayRef} : before.HasArray ref → ¬ Changed (.array ref) →
    after.array ref = before.array ref

namespace KeepsBut

variable {Changed : Value → Prop}

theorem of_same {before after : Store} (objects : after.objects = before.objects)
    (arrays : after.arrays = before.arrays) : before.KeepsBut Changed after where
  objects := Nat.le_of_eq (congrArg Array.size objects.symm)
  arrays := Nat.le_of_eq (congrArg Array.size arrays.symm)
  object _ _ := by rw [Store.object, objects, Store.object]
  array _ _ := by rw [Store.array, arrays, Store.array]

theorem refl (store : Store) : store.KeepsBut Changed store := of_same rfl rfl

theorem trans {first second third : Store} (earlier : first.KeepsBut Changed second)
    (later : second.KeepsBut Changed third) : first.KeepsBut Changed third where
  objects := Nat.le_trans earlier.objects later.objects
  arrays := Nat.le_trans earlier.arrays later.arrays
  object present unchanged :=
    (later.object (Nat.lt_of_lt_of_le present earlier.objects) unchanged).trans
      (earlier.object present unchanged)
  array present unchanged :=
    (later.array (Nat.lt_of_lt_of_le present earlier.arrays) unchanged).trans
      (earlier.array present unchanged)

theorem addArray (store : Store) (contents : Array Value) :
    store.KeepsBut Changed (store.addArray contents).2 where
  objects := Nat.le_refl _
  arrays := by simp [Store.addArray]
  object _ _ := rfl
  array {ref} present _ := by
    rw [array_addArray, if_neg]
    rintro rfl
    exact Nat.lt_irrefl _ present

theorem addObject (store : Store) (contents : OrderedMap Value) :
    store.KeepsBut Changed (store.addObject contents).2 where
  objects := by simp [Store.addObject]
  arrays := Nat.le_refl _
  object {ref} present _ := by
    rw [object_addObject, if_neg]
    rintro rfl
    exact Nat.lt_irrefl _ present
  array _ _ := rfl

theorem modifyArray {ref : ArrayRef} (changed : Changed (.array ref))
    (change : Array Value → Array Value) :
    store.KeepsBut Changed (store.modifyArray ref change) where
  objects := Nat.le_refl _
  arrays := by simp [Store.modifyArray]
  object _ _ := rfl
  array _ unchanged := by
    rw [array_modifyArray, if_neg]
    rintro ⟨rfl, _⟩
    exact unchanged changed

theorem modifyObject (changed : Changed (.object ref))
    (change : OrderedMap Value → OrderedMap Value) :
    store.KeepsBut Changed (store.modifyObject ref change) where
  objects := by simp [Store.modifyObject]
  arrays := Nat.le_refl _
  object _ unchanged := by
    rw [object_modifyObject, if_neg]
    rintro ⟨rfl, _⟩
    exact unchanged changed
  array _ _ := rfl

end KeepsBut

/-- No container of a store has other contents. -/
abbrev Keeps (before after : Store) : Prop :=
  before.KeepsBut (fun _ => False) after

/-- A new array of items was added, and nothing else was changed. -/
structure Added (before : Store) (ref : ArrayRef) (items : List Value) (after : Store) : Prop where
  new : ¬ before.HasArray ref
  items : (after.array ref).toList = items
  keeps : before.Keeps after

theorem added_addArray (store : Store) (contents : Array Value) :
    store.Added (store.addArray contents).1 contents.toList (store.addArray contents).2 where
  new := Nat.lt_irrefl _
  items := by rw [array_addArray, if_pos rfl]
  keeps := .addArray store contents

end Store

namespace Run

variable {store after : Store} {contents : Array Value} {value : Value}

theorem object_of_newObject {contents : OrderedMap Value}
    (made : newObject contents store = .ok ref after) :
    after.object ref = contents ∧
      ∀ other, other ≠ ref → after.object other = store.object other := by
  have same : EStateM.Result.ok (store.addObject contents).1 (store.addObject contents).2 =
      .ok ref after := made
  injection same with handle changed
  subst handle changed
  refine ⟨Store.object_addObject_self _ _, fun other differs => ?_⟩
  rw [Store.object_addObject, if_neg differs]

theorem exists_newArray (store : Store) (contents : Array Value) :
    ∃ ref after, newArray contents store = .ok (.array ref) after ∧
      after.array ref = contents ∧ after.objects = store.objects := by
  refine ⟨(store.addArray contents).1, (store.addArray contents).2, rfl, ?_, rfl⟩
  rw [Store.array_addArray, if_pos rfl]

variable (made : newArray contents store = .ok value after)
include made

theorem array_of_newArray : ∃ ref, value = .array ref ∧ after.array ref = contents := by
  obtain ⟨ref, _, added, found, _⟩ := exists_newArray store contents
  cases added.symm.trans made
  exact ⟨ref, rfl, found⟩

theorem keeps_newArray :
    ∃ ref, value = .array ref ∧ after.HasArray ref ∧ after.array ref = contents ∧
      store.Keeps after := by
  obtain ⟨ref, rfl, found⟩ := array_of_newArray made
  have same : EStateM.Result.ok (Value.array (store.addArray contents).1)
      (store.addArray contents).2 = .ok (.array ref) after := made
  injection same with handle changed
  injection handle with handle
  subst handle changed
  exact ⟨_, rfl, by simp [Store.HasArray, Store.addArray], found, .addArray _ _⟩

end Run
end PatchScript
