import PatchScript.Proofs.Frames
import PatchScript.Proofs.Run.Reading
import PatchScript.Proofs.Run.Sparing

/-!
# A run beside itself

A correspondence in which everything stands for itself, and corresponding stores differ at
most in their logs.  What is left to say about it is what else holds of the stores, and
which function definitions there are.
-/

namespace PatchScript

/-- What holds of the definition of a function. -/
def Callable.Defined (Made : FunctionDef → Prop) : Callable → Prop
  | .script definition _ => Made definition
  | _ => True

/-- What holds of the definitions of all functions. -/
def Store.Defined (Made : FunctionDef → Prop) (store : Store) : Prop :=
  ∀ ref callable, store.function ref = some callable → callable.Defined Made

theorem Store.Defined.addFunction {Made : FunctionDef → Prop} {store : Store}
    (defined : store.Defined Made) {callable : Callable} (added : callable.Defined Made) :
    (store.addFunction callable).2.Defined Made := by
  intro ref found present
  simp only [Store.addFunction, Store.function, Array.getElem?_push] at present
  split at present
  · cases present
    exact added
  · exact defined ref found present

namespace Correspondence

variable {Phase : Type} {Stores : Phase → Store → Store → Prop}
variable {Definitions : FunctionDef → FunctionDef → Prop} {Spans : Span → Span → Prop}
variable {Made : FunctionDef → Prop} {checked exhausts : Prop} {Guarded : Phase → Prop}

/-- Every handle stands for itself. -/
def identity {Phase : Type} (Stores : Phase → Store → Store → Prop)
    (Definitions : FunctionDef → FunctionDef → Prop) (Spans : Span → Span → Prop)
    (checked exhausts : Prop) (Guarded : Phase → Prop := fun _ => False) : Correspondence where
  Phase := Phase
  Stores := Stores
  Objects := Eq
  Arrays := Eq
  Functions := Eq
  Frames := Eq
  Local := Eq
  Definitions := Definitions
  Spans := Spans
  checked := checked
  exhausts := exhausts
  Guarded := Guarded

/-- Everything stands for itself. -/
abbrev reflexive {Phase : Type} (Stores : Phase → Store → Store → Prop) (Made : FunctionDef → Prop)
    (checked exhausts : Prop) (Guarded : Phase → Prop := fun _ => False) : Correspondence :=
  identity Stores (fun definition definition' => Made definition ∧ definition = definition') Eq
    checked exhausts Guarded

/-- Stores that differ at most in their logs, and that stay so whatever a run does to them. -/
structure Loose (Stores : Phase → Store → Store → Prop) (Made : FunctionDef → Prop)
    (Guarded : Phase → Prop) : Prop where
  same {phase : Phase} {store store' : Store} :
    Stores phase store store' → store' = { store with log := store'.log }
  function {phase : Phase} {store store' : Store} {ref : FunctionRef} {callable : Callable} :
    Stores phase store store' → store.function ref = some callable → callable.Defined Made
  heap {phase : Phase} {store store' : Store}
    (objects : Array (OrderedMap Value)) (arrays : Array (Array Value)) :
    Stores phase store store' →
    (Guarded phase → ∀ spared,
      store.Retains spared { store with objects := objects, arrays := arrays }) →
    Stores phase { store with objects := objects, arrays := arrays }
      { store' with objects := objects, arrays := arrays }
  frames {phase : Phase} {store store' : Store} {after : PatchScript.Frames} :
    Stores phase store store' → store.frames.Step after →
    Stores phase { store with frames := after } { store' with frames := after }
  addFunction {phase : Phase} {store store' : Store} {callable : Callable} :
    Stores phase store store' → callable.Defined Made → callable.Attached →
    Stores phase (store.addFunction callable).2 (store'.addFunction callable).2
  log {phase : Phase} {store store' : Store} (entry : LogEntry) :
    Stores phase store store' →
    Stores phase { store with log := store.log.push entry }
      { store' with log := store'.log.push entry }

/-! ## Handles that stand for themselves -/

theorem identity_values_iff {value value' : Value} :
    (identity Stores Definitions Spans checked exhausts Guarded).Values value value' ↔ value = value' := by
  constructor
  · rintro (_ | _ | _ | _ | ⟨⟨⟩⟩ | ⟨⟨⟩⟩ | ⟨⟨⟩⟩) <;> rfl
  · rintro rfl
    cases value with
    | null => exact .null
    | boolean value => exact .boolean value
    | number value => exact .number value
    | string value => exact .string value
    | array ref => exact .array rfl
    | object ref => exact .object rfl
    | function ref => exact .function rfl

theorem identity_values_eq : (identity Stores Definitions Spans checked exhausts Guarded).Values = Eq :=
  funext₂ fun _ _ => propext identity_values_iff

theorem identity_items_iff {items items' : Array Value} :
    (identity Stores Definitions Spans checked exhausts Guarded).Items items items' ↔ items = items' := by
  rw [Items, identity_values_eq, List.forall₂_eq_eq_eq, Array.toList_inj]

theorem identity_members_iff {members members' : OrderedMap Value} :
    (identity Stores Definitions Spans checked exhausts Guarded).Members members members' ↔
      members = members' := by
  rw [Members, identity_values_eq, OrderedMap.matches_eq_iff]

theorem identity_contexts_iff {context context' : Context} :
    (identity Stores Definitions Spans checked exhausts Guarded).Contexts context context' ↔
      context = context' := by
  constructor
  · rintro ⟨root, chain⟩
    have chains : context.scope.chain = context'.scope.chain := List.forall₂_eq_eq_eq ▸ chain
    obtain ⟨_, _, _⟩ := context
    obtain ⟨_, _, _⟩ := context'
    cases root
    cases chains
    rfl
  · rintro rfl
    exact ⟨rfl, List.forall₂_same.mpr fun _ _ => rfl⟩

theorem identity_blocks (context : Context) :
    (identity Stores Definitions Spans checked exhausts Guarded).Blocks context context :=
  ⟨identity_contexts_iff.mpr rfl, rfl⟩

theorem reflexive_callables_iff {callable callable' : Callable} :
    (reflexive Stores Made checked exhausts Guarded).Callables callable callable' ↔
      callable.Defined Made ∧ callable = callable' := by
  constructor
  · rintro (⟨⟨made, rfl⟩, contexts⟩ | _ | ⟨_, receivers⟩)
    · refine ⟨made, ?_⟩
      cases contexts with
      | none => rfl
      | some contexts => rw [identity_contexts_iff.mp contexts]
    · exact ⟨trivial, rfl⟩
    · exact ⟨trivial, by rw [identity_values_iff.mp receivers]⟩
  · rintro ⟨defined, rfl⟩
    cases callable with
    | script definition captured =>
      refine .script ⟨defined, rfl⟩ ?_
      cases captured with
      | none => exact .none
      | some context => exact .some (identity_contexts_iff.mpr rfl)
    | native function => exact .native function
    | bound receiver function => exact .bound function (identity_values_iff.mpr rfl)

theorem identity_bindings (frame : Frame) :
    (identity Stores Definitions Spans checked exhausts Guarded).Bindings frame frame :=
  ⟨identity_members_iff.mpr rfl, identity_members_iff.mpr rfl⟩

/-- Where handles stand for themselves, a change stands for itself. -/
theorem FrameChanges.eq {store : Store} {change change' : FrameChange}
    (changes :
      (identity Stores Definitions Spans checked exhausts Guarded).FrameChanges store change change') :
    change = change' := by
  cases changes with
  | declare name isMutable frames _ _ values | assign name frames _ values
  | parameter name frames _ _ values => rw [frames, identity_values_iff.mp values]
  | remove name frames => rw [frames]

/-- The changes that programs make are steps of the frames. -/
theorem FrameChanges.step {rel : Correspondence} {store : Store} {change change' : FrameChange}
    (changes : rel.FrameChanges store change change') :
    store.frames.Step (store.frames.commit change) := by
  cases changes with
  | declare name isMutable _ _ unbound =>
    exact store.frames.step_modify _ (.declare _ isMutable unbound)
  | parameter name _ _ noConstants => exact store.frames.step_modify _ (.parameter name _ noConstants)
  | assign name _ isVariable => exact store.frames.step_modify _ (.assign _ isVariable)
  | remove name _ isVariable => exact store.frames.step_modify _ (.remove isVariable)

theorem oneToOne_identity : (identity Stores Definitions Spans checked exhausts Guarded).OneToOne where
  objects := by
    rintro _ _ _ _ ⟨⟩ ⟨⟩
    rfl
  arrays := by
    rintro _ _ _ _ ⟨⟩ ⟨⟩
    rfl
  functions := by
    rintro _ _ _ _ ⟨⟩ ⟨⟩
    rfl
  frames := by
    rintro _ _ _ _ ⟨⟩ ⟨⟩
    rfl

/-- Stores that differ at most in their logs have the same contents. -/
theorem Loose.contents (loose : Loose Stores Made Guarded) {phase : Phase} {store store' : Store}
    (stores : Stores phase store store') :
    (reflexive Stores Made checked exhausts Guarded).Contents store store' where
  object objects := by
    rw [objects, loose.same stores]
    exact identity_members_iff.mpr rfl
  array arrays := by
    rw [arrays, loose.same stores]
    exact identity_items_iff.mpr rfl
  function {ref _} functions := by
    rw [← functions, loose.same stores]
    change Option.Rel _ (store.function ref) (store.function ref)
    cases found : store.function ref with
    | none => exact .none
    | some callable => exact .some (reflexive_callables_iff.mpr ⟨loose.function stores found, rfl⟩)
  frame frames := by
    rw [frames, loose.same stores]
    exact identity_bindings _

/-- Stores that differ at most in their logs show programs the same. -/
theorem Loose.lawful (loose : Loose Stores Made Guarded) :
    (reflexive Stores Made checked exhausts Guarded).Lawful where
  object stores := (loose.contents stores).object
  array stores := (loose.contents stores).array
  function stores := (loose.contents stores).function
  frame stores := (loose.contents stores).frame
  equal stores := (loose.contents stores).equal_eq oneToOne_identity
  displayText stores := (loose.contents stores).displayText_eq fun _ _ same => congrArg _ same.2
  toJson stores := (loose.contents stores).toJson_eq fun _ _ same => congrArg _ same.2
  addObject {_ store _ _ members'} stores members := by
    rw [identity_members_iff.mp members]
    have after := loose.heap (store.objects.push members') store.arrays stores
      fun _ _ => .addObject store members'
    rw [loose.same stores] at after ⊢
    exact ⟨rfl, after⟩
  addArray {_ store _ _ items'} stores items := by
    rw [identity_items_iff.mp items]
    have after := loose.heap store.objects (store.arrays.push items') stores
      fun _ _ => .of_objects rfl
    rw [loose.same stores] at after ⊢
    exact ⟨rfl, after⟩
  addFunction {_ store _ callable _} stores callables attached := by
    obtain ⟨defined, rfl⟩ := reflexive_callables_iff.mp callables
    have after := loose.addFunction stores defined attached
    refine ⟨?_, after⟩
    rw [loose.same stores]
    rfl
  addFrame {_ store _} stores := by
    have after := loose.frames stores store.frames.step_push
    rw [loose.same stores] at after ⊢
    exact ⟨rfl, rfl, after⟩
  modifyObject {_ store _ _ ref' change change'} stores objects changes keeps := by
    have same : change = change' :=
      funext fun members => identity_members_iff.mp (changes _ _ (identity_members_iff.mpr rfl))
    rw [objects, same] at keeps ⊢
    have after := loose.heap (store.objects.modify ref'.index change') store.arrays stores
      fun guarded _ => (Store.Retains.refl store).modifyObject fun _ => (keeps guarded).filter _
    rw [loose.same stores] at after ⊢
    exact after
  modifyArray {_ store _ _ ref' change change'} stores arrays changes := by
    have same : change = change' :=
      funext fun items => identity_items_iff.mp (changes _ _ (identity_items_iff.mpr rfl))
    rw [arrays, same]
    have after := loose.heap store.objects (store.arrays.modify ref'.index change') stores
      fun _ _ => .of_objects rfl
    rw [loose.same stores] at after ⊢
    exact after
  changeFrames {_ store _ _ _} stores changes := by
    rw [← changes.eq]
    have after := loose.frames stores changes.step
    rw [loose.same stores] at after ⊢
    exact after
  log text stores spans := by
    rw [spans]
    exact loose.log _ stores

/-! ## The same stores -/

/-- Stores that are the same, of whose functions and place in a run something holds. -/
structure Identical (At : Phase → Store → Prop) (Made : FunctionDef → Prop) (phase : Phase)
    (store store' : Store) : Prop where
  same : store = store'
  defined : store.Defined Made
  place : At phase store

/-- The place in a run is not one in the heap, nor among functions, variables or the log. -/
theorem loose_identical {At : Phase → Store → Prop}
    (apart : ∀ phase (store : Store) objects arrays functions frames log, At phase store →
      At phase { store with
        objects := objects, arrays := arrays, functions := functions, frames := frames, log := log }) :
    Loose (Identical At Made) Made Guarded where
  same := by
    rintro _ store _ ⟨rfl, _, _⟩
    rfl
  function stores := stores.defined _ _
  heap := by
    rintro phase store _ objects arrays ⟨rfl, defined, place⟩ _
    refine ⟨rfl, defined, ?_⟩
    exact apart phase store objects arrays store.functions store.frames store.log place
  frames := by
    rintro phase store _ frames ⟨rfl, defined, place⟩ _
    refine ⟨rfl, defined, ?_⟩
    exact apart phase store store.objects store.arrays store.functions frames store.log place
  addFunction := by
    rintro phase store _ callable ⟨rfl, defined, place⟩ added -
    refine ⟨rfl, defined.addFunction added, ?_⟩
    exact apart phase store store.objects store.arrays _ store.frames store.log place
  log := by
    rintro phase store _ entry ⟨rfl, defined, place⟩
    refine ⟨rfl, defined, ?_⟩
    exact apart phase store store.objects store.arrays store.functions store.frames _ place

end Correspondence
end PatchScript
