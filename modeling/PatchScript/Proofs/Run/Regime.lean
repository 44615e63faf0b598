import PatchScript.Proofs.Run.Conduct
import PatchScript.Limits
import PatchScript.Proofs.Sorting.Plan
import PatchScript.Proofs.Store.Contents

/-!
# Regimes

A regime says what computations may do to the store: how it may change, which values may be
used and kept in it, how long texts and arrays may get, and which containers may be changed.
A computation that keeps to a regime can be followed by others that do.
-/

namespace PatchScript

/-- What computations may do to the store. -/
structure Regime where
  /-- What may become of a store by a computation that returns a value. -/
  Kept : Store → Store → Prop
  /-- What may become of a store by a computation that fails. -/
  Broken : Store → Store → Prop
  /-- The values that may be used. -/
  Good : Store → Value → Prop
  /-- The lengths that texts and arrays may have. -/
  Fits : Nat → Prop
  /-- The containers that may be changed. -/
  Mutable : Value → Prop

namespace Regime

/-- The items that an array may have. -/
structure GoodItems (regime : Regime) (store : Store) (items : Array Value) : Prop where
  fits : regime.Fits items.size
  good : ∀ item ∈ items, regime.Good store item

/-- An entry that an object may have. -/
def GoodEntry (regime : Regime) (store : Store) (entry : String × Value) : Prop :=
  regime.Fits entry.1.utf8ByteSize ∧ regime.Good store entry.2

/-- The entries that an object may have. -/
def GoodEntries (regime : Regime) (store : Store) (entries : List (String × Value)) : Prop :=
  ∀ entry ∈ entries, regime.GoodEntry store entry

/-- A regime that admits what operators and native functions do within the size limit. -/
class Lawful (regime : Regime) : Prop where
  refl (store : Store) : regime.Kept store store
  trans {first second third : Store} :
    regime.Kept first second → regime.Kept second third → regime.Kept first third
  broken {before after : Store} : regime.Kept before after → regime.Broken before after
  breaks {first second third : Store} :
    regime.Kept first second → regime.Broken second third → regime.Broken first third
  stable {before after : Store} {value : Value} :
    regime.Kept before after → regime.Good before value → regime.Good after value
  smaller {length other : Nat} : length ≤ other → regime.Fits other → regime.Fits length
  checked {length : Nat} : length ≤ maxSequenceLength → regime.Fits length
  null (store : Store) : regime.Good store .null
  boolean (store : Store) (value : Bool) : regime.Good store (.boolean value)
  number (store : Store) (value : Float) : regime.Good store (.number value)
  string {store : Store} {text : String} :
    regime.Good store (.string text) ↔ regime.Fits text.utf8ByteSize
  items {store : Store} {ref : ArrayRef} :
    regime.Good store (.array ref) → regime.GoodItems store (store.array ref)
  entries {store : Store} {ref : ObjectRef} :
    regime.Good store (.object ref) → regime.GoodEntries store (store.object ref).entries
  addArray {store : Store} {contents : Array Value} :
    regime.GoodItems store contents →
    regime.Kept store (store.addArray contents).2 ∧
      regime.Good (store.addArray contents).2 (.array (store.addArray contents).1)
  addObject {store : Store} {contents : OrderedMap Value} :
    regime.GoodEntries store contents.entries →
    regime.Kept store (store.addObject contents).2 ∧
      regime.Good (store.addObject contents).2 (.object (store.addObject contents).1)
  modifyArray {store : Store} {ref : ArrayRef} {change : Array Value → Array Value} :
    regime.Mutable (.array ref) → regime.GoodItems store (change (store.array ref)) →
    regime.Kept store (store.modifyArray ref change)
  modifyObject {store : Store} {ref : ObjectRef} {change : OrderedMap Value → OrderedMap Value} :
    regime.Mutable (.object ref) → regime.GoodEntries store (change (store.object ref)).entries →
    regime.Kept store (store.modifyObject ref change)
  log (store : Store) (entry : LogEntry) :
    regime.Kept store { store with log := store.log.push entry }

/-- What holds of a value stays so, whatever becomes of the store. -/
def Stable {α : Type} (regime : Regime) (holds : Store → α → Prop) : Prop :=
  ∀ before after value, regime.Kept before after → holds before value → holds after value

/-- How a computation ends that keeps to a regime. -/
def Ends {α : Type} (regime : Regime) (post : Store → α → Prop)
    (before : Store) : EStateM.Result Fault Store α → Prop
  | .ok value after => regime.Kept before after ∧ post after value
  | .error _ after => regime.Broken before after

/-- A computation keeps to a regime from a store on, and returns what it should. -/
def Runs {α : Type} (regime : Regime) (post : Store → α → Prop) (computation : Run α)
    (store : Store) : Prop :=
  regime.Ends post store (computation store)

namespace Runs

variable {regime : Regime} [lawful : regime.Lawful] {α β : Type} {store : Store}
variable {computation : Run α} {post : Store → α → Prop}

theorem pure {value : α} (good : post store value) : regime.Runs post (Pure.pure value) store :=
  ⟨lawful.refl store, good⟩

theorem throw (fault : Fault) : regime.Runs post (MonadExcept.throw fault) store :=
  lawful.broken (lawful.refl store)

theorem bind {middle : Store → α → Prop} {post : Store → β → Prop} {next : α → Run β}
    (first : regime.Runs middle computation store)
    (second : ∀ value after, regime.Kept store after → middle after value →
      regime.Runs post (next value) after) :
    regime.Runs post (computation >>= next) store := by
  unfold Runs at first ⊢
  simp only [Bind.bind, EStateM.bind]
  cases ran : computation store with
  | error fault after =>
    rw [ran] at first
    exact first
  | ok value after =>
    rw [ran] at first
    obtain ⟨kept, good⟩ := first
    have rest : regime.Ends post after (next value after) := second value after kept good
    simp only
    generalize next value after = result at rest ⊢
    cases result with
    | ok result final => exact ⟨lawful.trans kept rest.1, rest.2⟩
    | error fault final => exact lawful.breaks kept rest

omit lawful in
theorem imp {weaker : Store → α → Prop} (runs : regime.Runs post computation store)
    (implies : ∀ after value, regime.Kept store after → post after value → weaker after value) :
    regime.Runs weaker computation store := by
  unfold Runs at runs ⊢
  generalize computation store = result at runs ⊢
  cases result with
  | ok value after => exact ⟨runs.1, implies after value runs.1 runs.2⟩
  | error fault after => exact runs

omit lawful in
theorem mapError {change : EvalError → EvalError} (runs : regime.Runs post computation store) :
    regime.Runs post (Run.mapError change computation) store := by
  unfold Runs at runs ⊢
  simp only [Run.mapError]
  generalize computation store = result at runs
  cases result with
  | ok value after => exact runs
  | error fault after => cases fault <;> exact runs

/-- A result that is computed without the store. -/
theorem lift (result : Except ErrorKind α) :
    regime.Runs (fun _ value => result = .ok value) (Run.lift result) store := by
  cases result with
  | ok value => exact pure rfl
  | error kind => exact throw _

/-- What goes on with a result that is computed without the store. -/
theorem lifting {post : Store → β → Prop} {result : Except ErrorKind α} {next : α → Run β}
    (rest : ∀ value, result = .ok value → regime.Runs post (next value) store) :
    regime.Runs post (Run.lift result >>= next) store := by
  cases result with
  | ok value => exact rest value rfl
  | error kind => exact lawful.broken (lawful.refl store)

theorem newArray {contents : Array Value} (good : regime.GoodItems store contents) :
    regime.Runs regime.Good (Run.newArray contents) store :=
  lawful.addArray good

omit lawful in
/-- Reading the store changes nothing. -/
theorem get {next : Store → Run α} (rest : regime.Runs post (next store) store) :
    regime.Runs post (MonadState.get >>= next) store :=
  rest

omit lawful in
theorem arrayOf {ref : ArrayRef} {next : Array Value → Run α}
    (rest : regime.Runs post (next (store.array ref)) store) :
    regime.Runs post (Run.arrayOf ref >>= next) store :=
  rest

omit lawful in
theorem objectOf {ref : ObjectRef} {next : OrderedMap Value → Run α}
    (rest : regime.Runs post (next (store.object ref)) store) :
    regime.Runs post (Run.objectOf ref >>= next) store :=
  rest

omit lawful in
theorem modify {change : Store → Store} (kept : regime.Kept store (change store)) :
    regime.Runs (fun after _ => after = change store) (modifyGet fun before => ((), change before))
      store :=
  ⟨kept, rfl⟩

/-! ## Lists -/

/-- Computations one after the other for the items of a list. -/
theorem mapM {computation : α → Run β} {pre : Store → α → Prop} {post : Store → β → Prop}
    (stablePre : regime.Stable pre) (stablePost : regime.Stable post)
    (each : ∀ item store, pre store item → regime.Runs post (computation item) store)
    {items : List α} (good : ∀ item ∈ items, pre store item) :
    regime.Runs
      (fun after values => values.length = items.length ∧ ∀ value ∈ values, post after value)
      (items.mapM computation) store := by
  induction items generalizing store with
  | nil =>
    rw [List.mapM_nil]
    exact pure ⟨rfl, fun _ member => absurd member List.not_mem_nil⟩
  | cons item items ih =>
    rw [List.mapM_cons]
    obtain ⟨goodItem, goodItems⟩ := List.forall_mem_cons.mp good
    refine bind (each item store goodItem) fun value after kept goodValue => ?_
    refine bind (ih fun item member => stablePre _ _ _ kept (goodItems item member))
      fun values final later ⟨sameLength, goodValues⟩ => ?_
    refine pure ⟨congrArg (· + 1) sameLength, ?_⟩
    exact List.forall_mem_cons.mpr ⟨stablePost _ _ _ later goodValue, goodValues⟩

end Runs

/-! ## Regimes for any values -/

/-- The regime that admits all values and lengths, and relates stores in one way. -/
def relating (Related : Store → Store → Prop) (Mutable : Value → Prop) : Regime where
  Kept := Related
  Broken := Related
  Good _ _ := True
  Fits _ := True
  Mutable := Mutable

section Relating

variable {Related : Store → Store → Prop} {Mutable : Value → Prop}

theorem lawful_relating (refl : ∀ store, Related store store)
    (trans : ∀ {first second third},
      Related first second → Related second third → Related first third)
    (keeps : ∀ {before after}, before.KeepsBut Mutable after → Related before after) :
    (relating Related Mutable).Lawful where
  refl := refl
  trans := trans
  broken := id
  breaks := trans
  stable _ _ := trivial
  smaller _ _ := trivial
  checked _ := trivial
  null _ := trivial
  boolean _ _ := trivial
  number _ _ := trivial
  string := Iff.rfl
  items _ := ⟨trivial, fun _ _ => trivial⟩
  entries _ _ _ := ⟨trivial, trivial⟩
  addArray _ := ⟨keeps (.addArray _ _), trivial⟩
  addObject _ := ⟨keeps (.addObject _ _), trivial⟩
  modifyArray mutable _ := keeps (.modifyArray mutable _)
  modifyObject mutable _ := keeps (.modifyObject mutable _)
  log _ _ := keeps (.of_same rfl rfl)

theorem runs_relating_iff {α : Type} {computation : Run α} {store : Store} :
    (relating Related Mutable).Runs (fun _ _ => True) computation store ↔
      Related store (Run.finalStore (computation store)) := by
  unfold Runs
  cases computation store with
  | ok value after => exact ⟨And.left, fun related => ⟨related, trivial⟩⟩
  | error fault after => exact Iff.rfl

end Relating

/-! ## Sorting -/

section Sorting

open Sorting

variable {regime : Regime} [lawful : regime.Lawful]
variable {α β : Type} {less : α → α → Run Bool} {Good : Store → α → Prop}
variable (stable : regime.Stable Good)
variable (compares : ∀ left right store, Good store left → Good store right →
  regime.Runs (fun _ _ => True) (less left right) store)
variable {store : Store} {items : List α}

include stable compares

theorem runs_plan {plan : Plan α β} {Result : β → Prop}
    (ensures : plan.Ensures (fun later earlier => later ∈ items ∧ earlier ∈ items)
      (fun _ _ _ => True) Result)
    (good : ∀ item ∈ items, Good store item) :
    regime.Runs (fun _ result => Result result) (plan.run less) store := by
  induction plan generalizing store with
  | done result => exact .pure ensures
  | ask later earlier next ih =>
    obtain ⟨⟨hasLater, hasEarlier⟩, goes⟩ := ensures
    refine .bind (compares later earlier store (good later hasLater)
      (good earlier hasEarlier)) fun answer after kept _ => ?_
    exact ih answer (goes answer trivial) fun item member => stable _ _ _ kept (good item member)

/-- A list is sorted by rearranging it. -/
theorem runs_sort (good : ∀ item ∈ items, Good store item) :
    regime.Runs (fun _ result => result.Perm items) (sort less items) store := by
  rw [sort_eq_run]
  exact runs_plan stable compares
    ((ensures_sort (pairwise_members items)).imp fun _ => Arranged.perm) good

end Sorting
end Regime
end PatchScript
