import PatchScript.Proofs.InsertionOrder
import PatchScript.Proofs.Run.Conduct
import PatchScript.Proofs.Store.Contents

/-!
# Runs that spare keys

Some keys of objects are to be spared.  A computation is stopped if one of them that was
there before is gone afterwards.  As long as that does not happen, the keys that are spared
stay in their order, and those that are added come after them.
-/

namespace PatchScript

/-- Which keys of which objects are to be spared. -/
abbrev Spared := ObjectRef → String → Bool

/-! ## Keys that are retained -/

namespace Store

variable {key : String}

/-- The keys of an object that are to be spared, in their order. -/
def sparedKeys (spared : Spared) (store : Store) (ref : ObjectRef) : List String :=
  (store.object ref).keys.filter (spared ref)

/-- The objects are still there, and in each of them the keys that are to be spared stand
before others that were added. -/
structure Retains (spared : Spared) (before after : Store) : Prop where
  grown : before.objects.size ≤ after.objects.size
  keys (ref : ObjectRef) : before.HasObject ref →
    before.sparedKeys spared ref <+: after.sparedKeys spared ref

variable {spared : Spared} {before middle after : Store} {ref : ObjectRef}

theorem Retains.refl (store : Store) : store.Retains spared store :=
  ⟨Nat.le_refl _, fun _ _ => List.prefix_refl _⟩

theorem Retains.trans (first : before.Retains spared middle)
    (second : middle.Retains spared after) : before.Retains spared after := by
  refine ⟨Nat.le_trans first.grown second.grown, fun ref present => ?_⟩
  exact (first.keys ref present).trans (second.keys ref (Nat.lt_of_lt_of_le present first.grown))

theorem Retains.of_objects (same : after.objects = before.objects) :
    before.Retains spared after := by
  have unchanged (ref : ObjectRef) :
      after.sparedKeys spared ref = before.sparedKeys spared ref := by
    unfold sparedKeys object
    rw [same]
  refine ⟨Nat.le_of_eq (congrArg Array.size same.symm), fun ref _ => ?_⟩
  exact unchanged ref ▸ List.prefix_refl _

theorem Retains.of_keepsBut {Changed : Value → Prop} (kept : before.KeepsBut Changed after)
    (unchanged : ∀ ref, ¬ Changed (.object ref)) : before.Retains spared after := by
  refine ⟨kept.objects, fun ref present => ?_⟩
  have same : after.sparedKeys spared ref = before.sparedKeys spared ref := by
    rw [sparedKeys, sparedKeys, kept.object present (unchanged ref)]
  exact same ▸ List.prefix_refl _

theorem Retains.addObject (store : Store) (contents : OrderedMap Value) :
    store.Retains spared (store.addObject contents).2 :=
  have kept : store.Keeps _ := .addObject store contents
  .of_keepsBut kept fun _ => id

/-- An object is changed so that its keys that are to be spared stay in front. -/
theorem Retains.modifyObject {change : OrderedMap Value → OrderedMap Value}
    (retained : before.Retains spared middle)
    (front : before.HasObject ref →
      before.sparedKeys spared ref <+: (change (middle.object ref)).keys.filter (spared ref)) :
    before.Retains spared (middle.modifyObject ref change) := by
  constructor
  · simpa [Store.modifyObject] using retained.grown
  · intro other present
    have kept := retained.keys other present
    unfold sparedKeys at kept ⊢
    rw [object_modifyObject]
    split
    · next same =>
      obtain ⟨rfl, _⟩ := same
      exact front present
    · exact kept

/-- A key is erased that was not there at first, or is not to be spared. -/
theorem Retains.erase (retained : before.Retains spared middle)
    (absent : spared ref key = true → before.HasObject ref → key ∉ (before.object ref).keys) :
    before.Retains spared (middle.modifyObject ref fun entries => entries.erase key) := by
  refine retained.modifyObject fun present => ?_
  obtain ⟨added, same⟩ := retained.keys ref present
  have untouched : (before.sparedKeys spared ref).filter (· != key) =
      before.sparedKeys spared ref := by
    refine List.filter_eq_self.mpr fun other member => ?_
    obtain ⟨isKey, isSpared⟩ := List.mem_filter.mp member
    refine bne_iff_ne.mpr ?_
    rintro rfl
    exact absent isSpared present isKey
  rw [OrderedMap.keys_erase, List.filter_filter]
  have swapped : (middle.object ref).keys.filter (fun other => spared ref other && other != key) =
      (middle.sparedKeys spared ref).filter (· != key) := by
    rw [sparedKeys, List.filter_filter]
    refine List.filter_congr fun other _ => ?_
    rw [Bool.and_comm]
  rw [swapped, ← same, List.filter_append, untouched]
  exact List.prefix_append _ _

/-- Whether a key that is to be spared was in an object and is not any more. -/
def loses (spared : Spared) (before after : Store) : Bool :=
  (List.range before.objects.size).any fun index =>
    (before.sparedKeys spared ⟨index⟩).any fun key => !(after.object ⟨index⟩).contains key

theorem mem_keys_of_not_loses (kept : before.loses spared after = false)
    (isSpared : spared ref key = true) (present : before.HasObject ref)
    (member : key ∈ (before.object ref).keys) : key ∈ (after.object ref).keys := by
  have inObject := List.any_eq_false.mp kept ref.index (List.mem_range.mpr present)
  have still := List.any_eq_false.mp (Bool.eq_false_iff.mpr inObject) key
    (List.mem_filter.mpr ⟨member, isSpared⟩)
  simpa [← OrderedMap.contains_iff] using still

/-- A key is erased, and none is lost that is to be spared. -/
theorem Retains.of_erased (retained : before.Retains spared middle)
    (erased : after.objects = (middle.modifyObject ref fun entries => entries.erase key).objects)
    (kept : before.loses spared after = false) : before.Retains spared after := by
  refine (retained.erase fun isSpared present member => ?_).trans (.of_objects erased)
  have still := mem_keys_of_not_loses kept isSpared present member
  have present' : middle.HasObject ref := Nat.lt_of_lt_of_le present retained.grown
  have contents : after.object ref = (middle.object ref).erase key := by
    rw [← object_modifyObject_self present' fun entries => entries.erase key]
    unfold object
    rw [erased]
  rw [contents, OrderedMap.keys_erase] at still
  simp at still

end Store

/-! ## Computations that are stopped -/

namespace Run

variable {α β : Type}

/-- Stop a computation, with nothing changed, if it loses a key that is to be spared. -/
def sparing (spared : Spared) (computation : Run α) : Run α := fun store =>
  let result := computation store
  if store.loses spared (finalStore result) then .error .outOfFuel store else result

/-- A computation may be stopped.  It retains what is to be spared, and unless it is stopped
it ends as it would otherwise. -/
structure SparesFrom (spared : Spared) (store : Store)
    (guarded plain : EStateM.Result Fault Store α) : Prop where
  retains : store.Retains spared (finalStore guarded)
  agrees : (∃ after, guarded = .error .outOfFuel after) ∨ guarded = plain

/-- The same of every run of a computation. -/
def Spares (spared : Spared) (guarded plain : Run α) : Prop :=
  ∀ store, SparesFrom spared store (guarded store) (plain store)

/-- What becomes of objects when at most one key of one of them is erased. -/
def ErasesOne (before after : Store) : Prop :=
  after.objects = before.objects ∨
    ∃ ref key, after.objects = (before.modifyObject ref fun entries => entries.erase key).objects

theorem finalStore_mapError (change : EvalError → EvalError) (computation : Run α) (store : Store) :
    finalStore (mapError change computation store) = finalStore (computation store) := by
  unfold mapError
  split
  · next ran => rw [ran, finalStore, finalStore]
  · rfl

theorem finalStore_ensuring (computation : Run α) (change : Store → Store) (store : Store) :
    finalStore (ensuring computation change store) = change (finalStore (computation store)) := by
  unfold ensuring
  cases computation store <;> rfl

theorem finalStore_bind_pure (computation : Run α) (value : β) (store : Store) :
    finalStore ((computation >>= fun _ => Pure.pure value) store) =
      finalStore (computation store) := by
  simp only [Bind.bind, EStateM.bind]
  cases computation store <;> rfl

end Run
end PatchScript
