import PatchScript.Store

/-!
# Computations on the store

A computation reads and changes the store and ends in a value or a fault.  The
changes made before a fault stay.
-/

namespace PatchScript

/-- Why a computation has no value. -/
inductive Fault where
  | error (error : EvalError)
  /-- The budget of steps is used up. -/
  | outOfFuel
  /-- A native function was given arguments that no overload of it accepts. -/
  | malformedCall

/-- A computation on the store. -/
abbrev Run := EStateM Fault Store

namespace Run

def fail {α : Type} (kind : ErrorKind) : Run α :=
  throw (.error (EvalError.ofKind kind))

def failAt {α : Type} (kind : ErrorKind) (span : Span) : Run α :=
  throw (.error (EvalError.ofKindAt kind span))

/-- Fail with a message of its own. -/
def failWith {α : Type} (message : String) : Run α :=
  fail (.runtime message)

/-- A result that was computed without the store. -/
def lift {α : Type} : Except ErrorKind α → Run α
  | .ok value => pure value
  | .error kind => fail kind

/-- Change the error a computation ends in. -/
def mapError {α : Type} (change : EvalError → EvalError)
    (computation : Run α) : Run α := fun store =>
  match computation store with
  | .error (.error error) store => .error (.error (change error)) store
  | other => other

/-- Give an error a place unless it has one. -/
def orAt {α : Type} (span : Span) (computation : Run α) : Run α :=
  mapError (EvalError.orAt span) computation

def wrapping {α : Type} (kind : ErrorKind) (span : Span) (computation : Run α) : Run α :=
  mapError (EvalError.wrap kind span) computation

/-- Run a computation and then change the store, whatever came of it. -/
def ensuring {α : Type} (computation : Run α) (change : Store → Store) : Run α := fun store =>
  match computation store with
  | .ok value store => .ok value (change store)
  | .error fault store => .error fault (change store)

def newObject (contents : OrderedMap Value) : Run ObjectRef :=
  modifyGet fun store => store.addObject contents

def newArray (contents : Array Value) : Run Value :=
  modifyGet fun store =>
    let (ref, store) := store.addArray contents
    (.array ref, store)

def newFunction (callable : Callable) : Run Value :=
  modifyGet fun store =>
    let (ref, store) := store.addFunction callable
    (.function ref, store)

/-- A context with a frame of its own. -/
def newScope (context : Context) : Run Context :=
  modifyGet fun store =>
    let (ref, store) := store.addFrame
    ({ context with scope := { inner := ref, outer := context.scope.chain } }, store)

/-- A context with another root and no variables. -/
def isolated (root : ObjectRef) : Run Context :=
  modifyGet fun store =>
    let (ref, store) := store.addFrame
    ({ root := root, scope := { inner := ref, outer := [] } }, store)

def objectOf (ref : ObjectRef) : Run (OrderedMap Value) :=
  return (← get).object ref

def arrayOf (ref : ArrayRef) : Run (Array Value) :=
  return (← get).array ref

def isTruthy (value : Value) : Run Bool :=
  return (← get).isTruthy value

/-- Make a planned change of the frames. -/
def changeFrames (plan : Frames → Except ErrorKind FrameChange) : Run Unit := do
  match plan (← get).frames with
  | .ok change => modify fun store => store.changeFrames change
  | .error kind => fail kind

theorem bind_get {α : Type} (next : Store → Run α) (store : Store) :
    (get >>= next) store = next store store :=
  rfl

theorem get_apply (store : Store) : (get : Run Store) store = .ok store store :=
  rfl

theorem modifyGet_apply {α : Type} (change : Store → α × Store) (store : Store) :
    (modifyGet change : Run α) store = .ok (change store).1 (change store).2 :=
  rfl

theorem changeFrames_apply (plan : Frames → Except ErrorKind FrameChange) (store : Store) :
    changeFrames plan store =
      match plan store.frames with
      | .ok change => .ok () (store.changeFrames change)
      | .error kind => .error (.error (EvalError.ofKind kind)) store := by
  rw [changeFrames, bind_get]
  cases plan store.frames <;> rfl

theorem lift_eq_ok_iff {α : Type} {result : Except ErrorKind α} {store after : Store} {value : α} :
    lift result store = .ok value after ↔ result = .ok value ∧ store = after := by
  cases result with
  | ok found =>
    constructor
    · intro same
      cases same
      exact ⟨rfl, rfl⟩
    · rintro ⟨⟨⟩, rfl⟩
      rfl
  | error kind =>
    constructor
    · intro same
      cases same
    · rintro ⟨⟨⟩, _⟩

theorem mapError_eq_ok_iff {α : Type} {change : EvalError → EvalError} {computation : Run α}
    {store after : Store} {value : α} :
    mapError change computation store = .ok value after ↔
      computation store = .ok value after := by
  unfold mapError
  split
  · next ran =>
    constructor
    · intro same
      cases same
    · intro same
      cases ran.symm.trans same
  · rfl

end Run
end PatchScript
