import PatchScript.Proofs.Native.Regime
import PatchScript.Proofs.Store.Contents
import Mathlib.Logic.Relation

/-!
# The size limit

A value is within the size limit if no text and no array that can be reached from it is
longer than the limit.  Operators keep values within the limit, and so do native functions
that check what they build.  Some functions do not: they leave the limit exactly when the
one text or array that they build is longer.
-/

namespace PatchScript

variable {ref : ArrayRef} {store after : Store} {value : Value}

/-! ## Values within the limit -/

namespace Store

/-- One value is part of another: an item of an array, a key or a value of an object, or
what a function can get at when it is called. -/
inductive Holds (store : Store) : Value → Value → Prop where
  | item {ref : ArrayRef} {item : Value} : item ∈ store.array ref → Holds store (.array ref) item
  | key {ref : ObjectRef} {entry : String × Value} :
      entry ∈ (store.object ref).entries → Holds store (.object ref) (.string entry.1)
  | value {ref : ObjectRef} {entry : String × Value} :
      entry ∈ (store.object ref).entries → Holds store (.object ref) entry.2
  | receiver {ref : FunctionRef} {receiver : Value} {function : Native} :
      store.function ref = some (.bound receiver function) →
      Holds store (.function ref) receiver
  | root {ref : FunctionRef} {definition : FunctionDef} {context : Context} :
      store.function ref = some (.script definition (some context)) →
      Holds store (.function ref) (.object context.root)
  | binding {ref : FunctionRef} {definition : FunctionDef} {context : Context}
      {frame : FrameRef} {binding : String × Value} :
      store.function ref = some (.script definition (some context)) →
      frame ∈ context.scope.chain →
      binding ∈ (store.frames.get frame).mutables.entries ++
        (store.frames.get frame).constants.entries →
      Holds store (.function ref) binding.2

/-- A text or an array is not longer than the limit. -/
def Fits (store : Store) : Value → Prop
  | .string text => text.utf8ByteSize ≤ maxSequenceLength
  | .array ref => (store.array ref).size ≤ maxSequenceLength
  | _ => True

/-- No text and no array that can be reached from a value is longer than the limit. -/
def Within (store : Store) (value : Value) : Prop :=
  ∀ found, Relation.ReflTransGen store.Holds value found → store.Fits found

theorem Within.fits (within : store.Within value) : store.Fits value := within value .refl

theorem Within.part {part : Value} (within : store.Within value) (holds : store.Holds value part) :
    store.Within part :=
  fun found reaches => within found (.head holds reaches)

theorem within_of_parts (fits : store.Fits value)
    (parts : ∀ part, store.Holds value part → store.Within part) : store.Within value := by
  intro found reaches
  obtain rfl | ⟨part, holds, rest⟩ := reaches.cases_head
  · exact fits
  · exact parts part holds found rest

theorem within_string_iff {text : String} :
    store.Within (.string text) ↔ text.utf8ByteSize ≤ maxSequenceLength := by
  refine ⟨fun within => within.fits, fun small => within_of_parts small fun part holds => ?_⟩
  cases holds

theorem within_array_iff :
    store.Within (.array ref) ↔
      (store.array ref).size ≤ maxSequenceLength ∧ ∀ item ∈ store.array ref, store.Within item := by
  refine ⟨fun within => ⟨within.fits, fun item member => within.part (.item member)⟩, ?_⟩
  rintro ⟨small, items⟩
  refine within_of_parts small fun part holds => ?_
  cases holds with
  | item member => exact items part member

theorem within_object_iff {ref : ObjectRef} :
    store.Within (.object ref) ↔
      ∀ entry ∈ (store.object ref).entries,
        entry.1.utf8ByteSize ≤ maxSequenceLength ∧ store.Within entry.2 := by
  constructor
  · intro within entry member
    exact ⟨within_string_iff.mp (within.part (.key member)), within.part (.value member)⟩
  · intro entries
    refine within_of_parts trivial fun part holds => ?_
    cases holds with
    | key member => exact within_string_iff.mpr (entries _ member).1
    | value member => exact (entries _ member).2

/-- Values that were within the limit still are. -/
def KeepsWithin (before after : Store) : Prop :=
  ∀ value, before.Within value → after.Within value

end Store

/-! ## The regime of the limit -/

namespace Regime

/-- The regime of the size limit. -/
def sizeLimit : Regime where
  Kept := Store.KeepsWithin
  Broken _ _ := True
  Good := Store.Within
  Fits length := length ≤ maxSequenceLength
  Mutable _ := True

/-- Values stay within the limit if the containers among them get contents that were. -/
theorem keepsWithin_of_contents {before : Store} (functions : after.functions = before.functions)
    (frames : after.frames = before.frames)
    (items : ∀ ref, before.Within (.array ref) → sizeLimit.GoodItems before (after.array ref))
    (entries : ∀ ref, before.Within (.object ref) →
      sizeLimit.GoodEntries before (after.object ref).entries) :
    before.KeepsWithin after := by
  have function (ref : FunctionRef) : after.function ref = before.function ref := by
    unfold Store.function
    rw [functions]
  -- What was within the limit reaches only such values, also by the new contents.
  have part {value part : Value} (within : before.Within value) (holds : after.Holds value part) :
      before.Within part := by
    cases holds with
    | item member => exact (items _ within).good part member
    | key member => exact Store.within_string_iff.mpr (entries _ within _ member).1
    | value member => exact (entries _ within _ member).2
    | receiver found => exact within.part (.receiver (function _ ▸ found))
    | root found => exact within.part (.root (function _ ▸ found))
    | binding found frame member =>
      rw [frames] at member
      exact within.part (.binding (function _ ▸ found) frame member)
  intro value within found reaches
  have foundWithin : before.Within found := by
    induction reaches with
    | refl => exact within
    | tail _ holds ih => exact part ih holds
  cases found with
  | string text => exact foundWithin.fits
  | array ref => exact (items ref foundWithin).fits
  | null | boolean _ | number _ | object _ | function _ => exact trivial

theorem goodItems_of_within (within : store.Within (.array ref)) :
    sizeLimit.GoodItems store (store.array ref) :=
  ⟨(Store.within_array_iff.mp within).1, (Store.within_array_iff.mp within).2⟩

theorem keepsWithin_addArray {contents : Array Value} (good : sizeLimit.GoodItems store contents) :
    store.KeepsWithin (store.addArray contents).2 := by
  refine keepsWithin_of_contents rfl rfl (fun ref within => ?_) fun ref =>
    Store.within_object_iff.mp
  rw [Store.array_addArray]
  split
  · exact good
  · exact goodItems_of_within within

theorem keepsWithin_addObject {contents : OrderedMap Value}
    (good : sizeLimit.GoodEntries store contents.entries) :
    store.KeepsWithin (store.addObject contents).2 := by
  refine keepsWithin_of_contents rfl rfl (fun ref => goodItems_of_within) fun ref within => ?_
  rw [Store.object_addObject]
  split
  · exact good
  · exact Store.within_object_iff.mp within

theorem keepsWithin_modifyArray {change : Array Value → Array Value}
    (good : sizeLimit.GoodItems store (change (store.array ref))) :
    store.KeepsWithin (store.modifyArray ref change) := by
  refine keepsWithin_of_contents rfl rfl (fun other within => ?_) fun other =>
    Store.within_object_iff.mp
  rw [Store.array_modifyArray]
  split
  · next same => exact same.1 ▸ good
  · exact goodItems_of_within within

theorem keepsWithin_modifyObject {ref : ObjectRef} {change : OrderedMap Value → OrderedMap Value}
    (good : sizeLimit.GoodEntries store (change (store.object ref)).entries) :
    store.KeepsWithin (store.modifyObject ref change) := by
  refine keepsWithin_of_contents rfl rfl (fun other => goodItems_of_within) fun other within => ?_
  rw [Store.object_modifyObject]
  split
  · next same => exact same.1 ▸ good
  · exact Store.within_object_iff.mp within

/-- The value of a new handle was within the limit before, when nothing was there. -/
theorem within_next (contents : Array Value) :
    store.Within (.array (store.addArray contents).1) := by
  rw [Store.within_array_iff, Store.array_next]
  exact ⟨Nat.zero_le _, fun item member => absurd member (Array.not_mem_empty item)⟩

theorem within_nextObject (contents : OrderedMap Value) :
    store.Within (.object (store.addObject contents).1) := by
  rw [Store.within_object_iff, Store.object_next]
  exact fun entry member => absurd member List.not_mem_nil

instance lawful_sizeLimit : sizeLimit.Lawful where
  refl _ _ := id
  trans first second value within := second value (first value within)
  broken _ := trivial
  breaks _ _ := trivial
  stable kept within := kept _ within
  smaller := Nat.le_trans
  checked := id
  null _ := Store.within_of_parts trivial fun _ holds => by cases holds
  boolean _ _ := Store.within_of_parts trivial fun _ holds => by cases holds
  number _ _ := Store.within_of_parts trivial fun _ holds => by cases holds
  string := Store.within_string_iff
  items := goodItems_of_within
  entries := Store.within_object_iff.mp
  addArray good := ⟨keepsWithin_addArray good, keepsWithin_addArray good _ (within_next _)⟩
  addObject good := ⟨keepsWithin_addObject good, keepsWithin_addObject good _ (within_nextObject _)⟩
  modifyArray _ := keepsWithin_modifyArray
  modifyObject _ := keepsWithin_modifyObject
  log _ _ := keepsWithin_of_contents rfl rfl (fun _ => goodItems_of_within)
    fun _ => Store.within_object_iff.mp

end Regime

/-! ## What is built unchecked -/

/-- The length of something that a call built: of a text or an array that it returned, or of
an array that it was given.  An array that does not exist does not get longer. -/
inductive Built (arguments : List Value) (value : Value) (after : Store) : Nat → Prop where
  | text {text : String} : value = .string text → Built arguments value after text.utf8ByteSize
  | items {ref : ArrayRef} : value = .array ref → Built arguments value after (after.array ref).size
  | changed {ref : ArrayRef} {length : Nat} :
      .array ref ∈ arguments → length = 1 ∨ length = (after.array ref).size →
      Built arguments value after length

theorem Built.le_maxSequenceLength {arguments : List Value} {length : Nat}
    (built : Built arguments value after length) (within : after.Within value)
    (arguments : ∀ argument ∈ arguments, after.Within argument) : length ≤ maxSequenceLength := by
  have one : 1 ≤ maxSequenceLength := by decide
  cases built with
  | text same =>
    subst same
    exact within.fits
  | items same =>
    subst same
    exact within.fits
  | changed isArgument measured =>
    obtain rfl | rfl := measured
    · exact one
    · exact (arguments _ isArgument).fits

section Unchecked

variable {arguments : List Value} {length : Nat}

theorem Built.newArray {contents : Array Value}
    (computed : Run.newArray contents store = .ok value after) :
    Built arguments value after contents.size := by
  obtain ⟨ref, same, rfl⟩ := Run.array_of_newArray computed
  exact .items same

theorem Built.modifyArray {change : Array Value → Array Value} (isArgument : .array ref ∈ arguments)
    (longer : (change (store.array ref)).size = (store.array ref).size + 1) :
    Built arguments value (store.modifyArray ref change) ((store.array ref).size + 1) := by
  refine .changed isArgument ?_
  rw [Store.array_modifyArray]
  by_cases present : ref.index < store.arrays.size
  · rw [if_pos ⟨rfl, present⟩]
    exact .inr longer.symm
  · have empty : store.array ref = #[] := by simp [Store.array, Array.getD, present]
    exact .inl (by rw [empty, Array.size_empty])

theorem StringFunction.built_of_body {function : StringFunction}
    (unchecked : function.unchecked? arguments = some length)
    (computed : function.body arguments store = .ok value after) :
    Built arguments value after length := by
  unfold unchecked? at unchecked
  split at unchecked
  case h_1 text | h_2 text =>
    cases unchecked
    cases computed
    exact .text rfl
  case h_3 text separator =>
    cases unchecked
    have built : Built [.string text, .string separator] value after _ := .newArray computed
    rwa [List.size_toArray, List.length_map] at built
  case h_4 text pattern replacement =>
    split at unchecked
    · next found reads =>
      cases unchecked
      simp only [body, reads] at computed
      cases computed
      exact .text rfl
    · cases unchecked
  case h_5 => cases unchecked

theorem le_of_resolveIndex {index : Int} {size position : Nat}
    (resolved : resolveIndex index size true = .ok position) : position ≤ size := by
  simp only [resolveIndex, if_true] at resolved
  generalize (if index < 0 then index + size else index) = adjusted at resolved
  split at resolved
  · next bounds =>
    cases resolved
    omega
  · cases resolved

theorem ArrayFunction.built_of_body {site : CallSite} {function : ArrayFunction}
    (unchecked : function.unchecked? store arguments = some length)
    (computed : function.body site arguments store = .ok value after) :
    Built arguments value after length := by
  unfold unchecked? at unchecked
  split at unchecked
  · next ref added =>
    cases unchecked
    cases computed
    exact .modifyArray List.mem_cons_self (Array.size_push _)
  · next ref index added =>
    cases unchecked
    cases index with
    | number x =>
      obtain ⟨items, _, read, computed⟩ := bind_eq_ok_iff.mp computed
      cases read
      obtain ⟨place, _, read, computed⟩ := bind_eq_ok_iff.mp computed
      obtain ⟨_, rfl⟩ := Run.lift_eq_ok_iff.mp read
      obtain ⟨position, _, read, computed⟩ := bind_eq_ok_iff.mp computed
      obtain ⟨resolved, rfl⟩ := Run.lift_eq_ok_iff.mp read
      cases computed
      refine .modifyArray List.mem_cons_self ?_
      rw [Array.insertIdxIfInBounds, dif_pos (le_of_resolveIndex resolved), Array.size_insertIdx]
    | null | boolean _ | string _ | array _ | object _ | function _ => cases computed
  · cases unchecked

theorem ObjectFunction.built_of_body {function : ObjectFunction}
    (unchecked : function.unchecked? store arguments = some length)
    (computed : function.body arguments store = .ok value after) :
    Built arguments value after length := by
  unfold unchecked? at unchecked
  split at unchecked
  · next ref =>
    cases unchecked
    have built : Built [.object ref] value after _ := .newArray computed
    rwa [List.size_toArray, List.length_map, OrderedMap.keys, Entries.keys, List.length_map]
      at built
  · next ref =>
    cases unchecked
    have built : Built [.object ref] value after _ := .newArray computed
    rwa [List.size_toArray, OrderedMap.values, List.length_map] at built
  · next ref =>
    cases unchecked
    obtain ⟨entries, _, read, computed⟩ := bind_eq_ok_iff.mp computed
    cases read
    obtain ⟨pairs, _, ran, computed⟩ := bind_eq_ok_iff.mp computed
    have built : Built [.object ref] value after _ := .newArray computed
    rw [List.size_toArray] at built
    have sameLength : (store.object ref).entries.length = pairs.length :=
      (forall₂_of_mapM_eq_ok (fun _ _ _ _ _ => trivial) ran).length_eq
    rwa [← sameLength] at built
  · cases unchecked

theorem JsonFunction.built_of_body {function : JsonFunction}
    (unchecked : function.unchecked? store arguments = some length)
    (computed : function.body arguments store = .ok value after) :
    Built arguments value after length := by
  have written {written : Value} {text : Json → String}
      (unchecked : (store.toJson written).toOption.map (fun json => (text json).utf8ByteSize) =
        some length)
      (computed : (document written >>= fun json => pure (.string (text json))) store =
        .ok value after) : Built arguments value after length := by
    cases read : store.toJson written with
    | error error =>
      rw [read] at unchecked
      cases unchecked
    | ok json =>
      rw [read] at unchecked
      cases unchecked
      obtain ⟨found, _, ran, computed⟩ := bind_eq_ok_iff.mp computed
      simp only [document, Run.bind_get, read] at ran
      cases ran
      cases computed
      exact .text rfl
  unfold unchecked? at unchecked
  split at unchecked
  · exact written unchecked computed
  · exact written unchecked computed
  · cases unchecked

namespace Native

variable {site : CallSite} {function : Native}

theorem built_of_dispatch (called : function.dispatch site arguments store = .ok value after)
    (unchecked : function.unchecked? store arguments = some length) :
    Built arguments value after length := by
  have computed := body_of_dispatch called
  cases function with
  | strings function => exact StringFunction.built_of_body unchecked computed
  | arrays function => exact ArrayFunction.built_of_body unchecked computed
  | objects function => exact ObjectFunction.built_of_body unchecked computed
  | json function => exact JsonFunction.built_of_body unchecked computed
  | math _ | debug _ => cases unchecked

end Native
end Unchecked

/-! ## Operators and native functions -/

/-- Calls of functions and with arguments within the limit return a value within it, and
keep others within it. -/
def CallSite.KeepsLimit (site : CallSite) : Prop :=
  ∀ function arguments store value after, store.Within function →
    (∀ argument ∈ arguments, store.Within argument) →
    site.call function arguments store = .ok value after →
    after.Within value ∧ store.KeepsWithin after

/-- A computation that keeps to the regime of the limit and returns. -/
theorem Regime.within_of_runs {computation : Run Value}
    (runs : sizeLimit.Runs sizeLimit.Good computation store)
    (returned : computation store = .ok value after) :
    after.Within value ∧ store.KeepsWithin after := by
  unfold Runs at runs
  rw [returned] at runs
  exact ⟨runs.2, runs.1⟩

theorem CallSite.KeepsLimit.runs {site : CallSite} (keeps : site.KeepsLimit) {function : Value}
    {arguments : List Value} (within : store.Within function)
    (withinArguments : ∀ argument ∈ arguments, store.Within argument) :
    Regime.sizeLimit.Runs Regime.sizeLimit.Good (site.call function arguments) store := by
  unfold Regime.Runs
  cases returned : site.call function arguments store with
  | ok value after =>
    have kept := keeps function arguments store value after within withinArguments returned
    exact ⟨kept.2, kept.1⟩
  | error fault after => exact trivial

/-- Given values within the limit, every operator returns one and keeps all others within
the limit.  A native function does so exactly if what it builds without a check, if there
is such a thing, is within the limit. -/
theorem size_limit_kept_iff {site : CallSite} (callbacks : site.KeepsLimit) {store after : Store}
    {value : Value} :
    (∀ op left right, store.Within left → store.Within right →
      Operator.binary op left right store = .ok value after →
      after.Within value ∧ store.KeepsWithin after) ∧
    ∀ (function : Native) arguments, (∀ argument ∈ arguments, store.Within argument) →
      function.dispatch site arguments store = .ok value after →
      (after.Within value ∧ store.KeepsWithin after ↔
        ∀ length, function.unchecked? store arguments = some length →
          length ≤ maxSequenceLength) := by
  constructor
  · intro op left right withinLeft withinRight returned
    exact Regime.within_of_runs (Regime.runs_binary withinLeft withinRight) returned
  · intro function arguments within returned
    constructor
    · rintro ⟨withinValue, kept⟩ length unchecked
      have built := Native.built_of_dispatch returned unchecked
      exact built.le_maxSequenceLength withinValue fun argument member =>
        kept argument (within argument member)
    · intro fits
      refine Regime.within_of_runs ?_ returned
      exact function.runs_dispatch (fun _ _ _ _ => callbacks.runs) within fits fun _ _ => trivial

namespace SizeLimit

/-- A place where every function returns null. -/
def place : CallSite where
  call _ _ := pure .null
  span := default

theorem keepsLimit_place : place.KeepsLimit := by
  rintro _ _ store _ _ _ _ ⟨⟩
  exact ⟨Regime.lawful_sizeLimit.null store, fun _ => id⟩

/-- A store with one array. -/
def holding (items : Array Value) : Store :=
  { Store.empty with arrays := #[items] }

/-- The handle of its array. -/
def only : ArrayRef where
  index := 0

theorem within_only {items : Array Value} (small : items.size ≤ maxSequenceLength)
    (scalars : ∀ item ∈ items, item = .null) : (holding items).Within (.array only) := by
  refine Store.within_array_iff.mpr ⟨small, fun item member => ?_⟩
  rw [scalars item member]
  exact Regime.lawful_sizeLimit.null _

theorem dispatch_push (items : Array Value) :
    (Native.arrays .push).dispatch place [.array only, .null] (holding items) =
      .ok (.number (Float.ofNat (items.size + 1))) (holding (items.push .null)) :=
  rfl

end SizeLimit

open SizeLimit

/-- An item is added to an array of one. -/
theorem size_limit_kept_iff_push :
    (holding #[.null, .null]).Within (.number (Float.ofNat 2)) ∧
      (holding #[.null]).KeepsWithin (holding #[.null, .null]) := by
  have small : 2 ≤ maxSequenceLength := by decide
  have within : ∀ argument ∈ [.array only, .null], (holding #[.null]).Within argument := by
    intro argument member
    obtain rfl | rfl : argument = .array only ∨ argument = .null := by simpa using member
    · exact within_only (Nat.le_of_succ_le small) (by simp)
    · exact Regime.lawful_sizeLimit.null _
  refine ((size_limit_kept_iff keepsLimit_place).2 (.arrays .push) _ within
    (dispatch_push #[.null])).mpr ?_
  rintro _ ⟨⟩
  exact small

/-- Not every native function keeps the limit: a full array still gets another item. -/
theorem not_size_limit_kept :
    ¬ ∀ (site : CallSite) (function : Native) arguments store value after, site.KeepsLimit →
      (∀ argument ∈ arguments, store.Within argument) →
      function.dispatch site arguments store = .ok value after →
      after.Within value ∧ store.KeepsWithin after := by
  intro keeps
  have within : (holding (Array.replicate maxSequenceLength .null)).Within (.array only) := by
    refine within_only Array.size_replicate.le fun item member => ?_
    exact (Array.mem_replicate.mp member).2
  have kept := (keeps place (.arrays .push) [.array only, .null] _ _ _ keepsLimit_place
    (fun argument member => by
      obtain rfl | rfl : argument = .array only ∨ argument = .null := by simpa using member
      · exact within
      · exact Regime.lawful_sizeLimit.null _) (dispatch_push _)).2
  have small : (((Array.replicate maxSequenceLength Value.null).push .null).size : Nat) ≤
      maxSequenceLength := (kept _ within).fits
  rw [Array.size_push, Array.size_replicate] at small
  omega

end PatchScript
