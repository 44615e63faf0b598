import PatchScript.Proofs.Evaluate.Uniform
import PatchScript.Proofs.Run.Confined
import PatchScript.Proofs.Run.Reflexive

/-!
# Where names are declared

A name is declared in the frame of the block that declares it.  Frames are shared by closures,
so any frame may be seen while an expression is evaluated; yet of the frames that were there
before, an expression adds names to none, nor does a statement with scopes of its own, and any
other statement adds names to the frame it is executed in at most.
-/

namespace PatchScript

open Correspondence

/-! ## Names of frames -/

/-- A frame binds no name that it did not bind, neither as a variable nor as a constant. -/
structure Frame.NoNewNames (before after : Frame) : Prop where
  mutables {name : String} :
    after.mutables.contains name = true → before.mutables.contains name = true
  constants {name : String} :
    after.constants.contains name = true → before.constants.contains name = true

namespace Frame.NoNewNames

variable {frame : Frame} {name : String}

theorem refl (frame : Frame) : frame.NoNewNames frame := ⟨id, id⟩

theorem trans {first second third : Frame} (earlier : first.NoNewNames second)
    (later : second.NoNewNames third) : first.NoNewNames third :=
  ⟨fun bound => earlier.mutables (later.mutables bound),
    fun bound => earlier.constants (later.constants bound)⟩

/-- To give a variable another value adds no name. -/
theorem assign (isVariable : frame.mutables.contains name = true) (value : Value) :
    frame.NoNewNames (frame.bind name value true) where
  mutables {other} bound := by
    change (frame.mutables.insert name value).contains other = true at bound
    rw [OrderedMap.contains, OrderedMap.get?_insert] at bound
    split at bound
    · next same => exact same ▸ isVariable
    · exact bound
  constants := id

theorem dropVariable (frame : Frame) (name : String) :
    frame.NoNewNames (frame.dropVariable name) where
  mutables {other} bound := by
    change (frame.mutables.erase name).contains other = true at bound
    rw [OrderedMap.contains, OrderedMap.get?_erase] at bound
    split at bound
    · cases bound
    · exact bound
  constants := id

end Frame.NoNewNames

namespace Frames

/-- All frames that were there are still there, and none of them binds a name that it did not
bind, but for those that are open to names. -/
structure NamesClosed (before : Frames) (isOpen : FrameRef → Prop) (after : Frames) : Prop where
  size : before.table.size ≤ after.table.size
  names {ref : FrameRef} :
    ref.index < before.table.size → ¬ isOpen ref → (before.get ref).NoNewNames (after.get ref)

/-- Where names can be declared: in new frames, and in those that are open. -/
def Declarable (before : Frames) (isOpen : FrameRef → Prop) (ref : FrameRef) : Prop :=
  before.table.size ≤ ref.index ∨ isOpen ref

namespace NamesClosed

variable {before frames : Frames} {isOpen : FrameRef → Prop}

theorem refl (frames : Frames) (isOpen : FrameRef → Prop) : frames.NamesClosed isOpen frames :=
  ⟨Nat.le_refl _, fun _ _ => .refl _⟩

theorem push (closed : before.NamesClosed isOpen frames) : before.NamesClosed isOpen frames.push where
  size := by
    rw [Frames.push, Array.size_push]
    exact Nat.le_succ_of_le closed.size
  names present kept := by
    rw [get_push]
    exact closed.names present kept

theorem commit (closed : before.NamesClosed isOpen frames) {change : FrameChange}
    (allowed : before.Declarable isOpen change.ref ∨
      (frames.get change.ref).NoNewNames (change.apply (frames.get change.ref))) :
    before.NamesClosed isOpen (frames.commit change) where
  size := by
    rw [size_commit]
    exact closed.size
  names {ref} present kept := by
    by_cases changed : ref = change.ref
    · subst changed
      rw [get_commit_self frames change (Nat.lt_of_lt_of_le present closed.size)]
      obtain (isNew | isOpenHere) | noNewNames := allowed
      · exact absurd present (Nat.not_lt.mpr isNew)
      · exact absurd isOpenHere kept
      · exact (closed.names present kept).trans noNewNames
    · rw [get_commit_of_ne frames changed]
      exact closed.names present kept

end NamesClosed
end Frames

/-! ## Runs that declare names in certain frames -/

namespace Correspondence

/-- The correspondence of any run with itself. -/
def itself : Correspondence :=
  reflexive (Identical (fun (_ : Unit) _ => True) fun _ => True) (fun _ => True) False True

theorem itself_stores (store : Store) : itself.Stores () store store :=
  ⟨rfl, fun _ callable _ => by cases callable <;> trivial, trivial⟩

instance : itself.Lawful :=
  (loose_identical fun _ _ _ _ _ _ _ => id).lawful

/-- The correspondence with itself of a run that declares names in new frames, and in those
that are open. -/
def declaring (before : PatchScript.Frames) (isOpen : FrameRef → Prop) : Correspondence :=
  itself.confined (fun ref ref' => ref = ref' ∧ before.Declarable isOpen ref)
    (before.NamesClosed isOpen)

section Declaring

variable {before : PatchScript.Frames} {isOpen : FrameRef → Prop}

theorem confines_itself :
    itself.Confines (fun ref ref' => ref = ref' ∧ before.Declarable isOpen ref)
      (before.NamesClosed isOpen) where
  within isLocal := isLocal.1
  addFrame stores closed := by
    cases stores.same
    exact ⟨⟨rfl, .inl closed.size⟩, closed.push⟩
  commit closed changes := by
    apply closed.commit
    cases changes with
    | declare _ _ _ isLocal | parameter _ _ isLocal => exact .inl isLocal.2
    | assign _ _ isVariable => exact .inr (.assign isVariable _)
    | remove => exact .inr (.dropVariable _ _)

instance : (declaring before isOpen).Lawful :=
  .confined confines_itself

theorem uniform_declaring : (declaring before isOpen).Uniform () where
  depth stores := congrArg Store.callDepth stores.1.same
  loading stores := congrArg Store.loading stores.1.same
  imports stores := by
    rw [stores.1.same]
    exact OrderedMap.matches_eq_iff.mpr rfl
  resume stores imports loading depth := by
    cases OrderedMap.matches_eq_iff.mp imports
    cases stores.1.same
    subst loading depth
    exact ⟨itself_stores _, stores.2⟩

theorem throughout_declaring : (declaring before isOpen).Throughout .same :=
  throughout_same (fun _ => rfl) (fun _ _ => ⟨And.right, And.intro trivial⟩) id trivial

theorem alike_declaring (host : Host) (budget : Nat) :
    (declaring before isOpen).Alike () .same (interpreter host budget) (interpreter host budget) :=
  alike_interpreter uniform_declaring throughout_declaring trivial id host budget

theorem declaring_values (value : Value) : (declaring before isOpen).Values value value :=
  sameHandles_confined.symm.values (identity_values_iff.mpr rfl)

theorem declaring_contexts (context : Context) :
    (declaring before isOpen).Contexts context context :=
  sameHandles_confined.symm.contexts (identity_contexts_iff.mpr rfl)

/-- A run that declares names in certain frames adds names to no others. -/
theorem namesClosed_of_corresponds {α : Type} {store : Store}
    {errors : EvalError → EvalError → Prop} {values : α → α → Prop} {computation : Run α}
    (corresponds : Run.Corresponds (declaring store.frames isOpen) () errors values computation
      computation) :
    store.frames.NamesClosed isOpen (Run.finalStore (computation store)).frames :=
  ((corresponds store store ⟨itself_stores store, .refl _ _⟩).finalStores fun _ => id).2

/-- A statement with scopes of its own adds names to no frame that was there before. -/
theorem namesClosed_execute_scoped (host : Host) (budget : Nat) (store : Store) (context : Context)
    {statement : Statement} (ownScopes : statement.form.isScoped = true) :
    store.frames.NamesClosed isOpen
      (Run.finalStore ((interpreter host budget).execute context statement store)).frames := by
  cases budget with
  | zero => exact .refl _ _
  | succ budget =>
    have below : (declaring store.frames isOpen).Alike () .same _ _ := alike_declaring host budget
    have throughout : (declaring store.frames isOpen).Throughout .same := throughout_declaring
    have forms := (throughout.statements false statement statement rfl).2
    exact namesClosed_of_corresponds (Evaluate.corresponds_scopedStatement
      below.parts (declaring_contexts context) ownScopes forms)

end Declaring
end Correspondence

/-- To evaluate an expression, to call a function and to import a library adds no name to any
frame that was there before, whether it succeeds or fails.  Nor does a statement with scopes of
its own.  Any statement adds names at most to the frame it is executed in, of those that were
there before. -/
theorem declarations_stay_local (host : Host) (budget : Nat) (store : Store) (context : Context) :
    let run := interpreter host budget
    let none : FrameRef → Prop := fun _ => False
    (∀ expr, store.frames.NamesClosed none
        (Run.finalStore (run.evaluate context expr store)).frames) ∧
      (∀ function arguments span, store.frames.NamesClosed none
        (Run.finalStore (run.call function arguments span store)).frames) ∧
      (∀ name span, store.frames.NamesClosed none
        (Run.finalStore (run.importLibrary name span store)).frames) ∧
      (∀ statement, statement.form.isScoped = true → store.frames.NamesClosed none
        (Run.finalStore (run.execute context statement store)).frames) ∧
      ∀ statement, store.frames.NamesClosed (fun ref => ref = context.scope.inner)
        (Run.finalStore (run.execute context statement store)).frames := by
  intro run none
  have alike : (declaring store.frames none).Alike () .same run run := alike_declaring host budget
  refine ⟨fun expr => ?_, fun function arguments span => ?_, fun name span => ?_,
    fun statement ownScopes => ?_, fun statement => ?_⟩
  · exact namesClosed_of_corresponds (alike.parts.evaluate (declaring_contexts context) rfl)
  · exact namesClosed_of_corresponds (alike.parts.call (declaring_values function)
      (List.forall₂_same.mpr fun value _ => declaring_values value) rfl)
  · exact namesClosed_of_corresponds (alike.parts.importLibrary trivial rfl)
  · exact namesClosed_execute_scoped host budget store context ownScopes
  · let isInner : FrameRef → Prop := fun ref => ref = context.scope.inner
    have alikeInside : (declaring store.frames isInner).Alike () .same run run :=
      alike_declaring host budget
    have blocks : (declaring store.frames isInner).Blocks context context :=
      ⟨declaring_contexts context, rfl, .inr rfl⟩
    have related : Parts.same.Statements false statement statement := rfl
    exact namesClosed_of_corresponds (alikeInside.parts.execute blocks related)

/-- `{ var y = null; }` and `var y = null;` where there is one frame. -/
theorem declarations_stay_local_block :
    let place : Span := { file := "", start := Position.start, stop := Position.start }
    let declaration := Statement.node place (.declare "y" true (.node place (.literal .null)))
    let block := Statement.node place (.block [declaration])
    let frame : FrameRef := { index := 0 }
    let context : Context := { root := { index := 0 }, scope := { inner := frame, outer := [] } }
    let store : Store := { Store.empty with frames := { table := #[Frame.empty] } }
    let inside := (Run.finalStore ((interpreter {} 5).execute context block store)).frames
    let beside := (Run.finalStore ((interpreter {} 5).execute context declaration store)).frames
    (inside.get { index := 1 }).get? "y" = some .null ∧
      (store.frames.get frame).NoNewNames (inside.get frame) ∧
      (beside.get frame).get? "y" = some .null ∧
      store.frames.NamesClosed (fun ref => ref = frame) beside := by
  intro place declaration block frame context store inside beside
  obtain ⟨_, _, _, closed, closedButInner⟩ := declarations_stay_local {} 5 store context
  exact ⟨rfl, (closed block rfl).names Nat.zero_lt_one not_false, rfl, closedButInner declaration⟩

end PatchScript
