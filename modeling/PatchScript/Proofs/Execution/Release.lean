import PatchScript.Proofs.Evaluate.Sparing
import PatchScript.Proofs.Execution.Watching

/-!
# Released functions

A release cuts every script function off from where it was made.  It stays so: functions are
only ever added to a store, and what is in the table of functions is not changed by any run.
So a function that was made before a release fails however it is come by and whenever it is
called afterwards.  That it fails without any effect is said by an interpreter that refuses
such calls before it looks at the store: no later run can tell it from the interpreter.
-/

namespace PatchScript

open Correspondence

/-! ## Histories -/

/-- What can be done with an execution from outside. -/
inductive Execution.Step where
  | answer (budget : Nat) (request : Request)
  | release

def Execution.Step.take (interpreters : Nat → Interpreter) : Execution.Step → Store → Store
  | .answer budget request, store => Run.finalStore (request.perform (interpreters budget) store)
  | .release, store => store.release

/-- The store after some steps. -/
def Execution.history (interpreters : Nat → Interpreter) (steps : List Step) (store : Store) :
    Store :=
  steps.foldl (fun store step => step.take interpreters store) store

/-! ## Interpreters that refuse calls -/

/-- How a call of a released function fails. -/
def releasedError (definition : FunctionDef) (span : Span) : EvalError :=
  .wrap (.inCall (Callable.script definition none).describe) span
    (.ofKindAt (.runtime "Function belongs to an execution that was released") span)

/-- The definition of the script function that a value is in a table of functions. -/
def scriptIn (functions : Array Callable) : Value → Option FunctionDef
  | .function ref =>
    match functions[ref.index]? with
    | some (.script definition _) => some definition
    | _ => none
  | _ => none

/-- Refuse calls of the script functions in a table, if they have the right number of arguments
and are not nested too deep. -/
def Interpreter.refusing (functions : Array Callable) (limit : Nat) (inner : Interpreter) :
    Interpreter :=
  { inner with
    call := fun function arguments span store =>
      match scriptIn functions function with
      | some definition =>
        if arguments.length = definition.parameters.length ∧ store.callDepth < limit then
          .error (.error (releasedError definition span)) store
        else inner.call function arguments span store
      | none => inner.call function arguments span store }

/-- The interpreter with a budget that refuses calls at every level. -/
def refusingInterpreter (functions : Array Callable) (host : Host) : Nat → Interpreter
  | 0 => .exhausted
  | budget + 1 =>
    (Interpreter.above host (refusingInterpreter functions host budget) budget).refusing functions
      host.maxCallDepth

/-! ## Tables that grow -/

/-- The functions of a store are those of a table and others, which know where they were made
if nothing was released since. -/
def Store.Contains (functions : Array Callable) (unreleased : Prop) (store : Store) : Prop :=
  ∃ added : Array Callable,
    store.functions = functions ++ added ∧ (unreleased → ∀ callable ∈ added, callable.Attached)

/-- A run beside itself in a store that contains a table. -/
def Correspondence.containing (functions : Array Callable) (unreleased : Prop) : Correspondence :=
  reflexive
    (fun (_ : Unit) store store' => store = store' ∧ store.Contains functions unreleased)
    (fun _ => True) False True

section Containing

variable {functions : Array Callable} {unreleased : Prop} {store : Store} {ref : FunctionRef}
variable {callable : Callable} {definition : FunctionDef} {arguments : List Value} {limit : Nat}

section

variable (contained : store.Contains functions unreleased)
include contained

theorem Store.Contains.addFunction (attached : callable.Attached) :
    (store.addFunction callable).2.Contains functions unreleased := by
  obtain ⟨added, same, made⟩ := contained
  refine ⟨added.push callable, ?_, fun since => ?_⟩
  · simp only [Store.addFunction, same, Array.append_push]
  · simpa [or_imp, forall_and] using ⟨made since, attached⟩

theorem Store.Contains.function_eq (present : functions[ref.index]? = some callable) :
    store.function ref = some callable := by
  obtain ⟨added, same, _⟩ := contained
  obtain ⟨within, _⟩ := Array.getElem?_eq_some_iff.mp present
  rw [Store.function, same, Array.getElem?_append_left within, present]

theorem Store.Contains.attached (since : unreleased) (added : functions.size ≤ ref.index)
    (present : store.function ref = some callable) : callable.Attached := by
  obtain ⟨_, same, made⟩ := contained
  rw [Store.function, same, Array.getElem?_append_right added] at present
  exact made since callable (Array.mem_of_getElem? present)

end

/-- No run changes a function that is there, and those that it adds know where they were made. -/
instance lawful_containing : (containing functions unreleased).Lawful := by
  apply Loose.lawful
  constructor
  case same => rintro _ store _ ⟨rfl, _⟩; rfl
  case function => rintro _ _ _ _ callable _ _; cases callable <;> trivial
  case heap => exact fun _ _ stores _ => ⟨by rw [stores.1], stores.2⟩
  case frames => exact fun stores _ => ⟨by rw [stores.1], stores.2⟩
  case addFunction =>
    exact fun stores _ attached => ⟨by rw [stores.1], stores.2.addFunction attached⟩
  case log => exact fun _ stores => ⟨by rw [stores.1], stores.2⟩

theorem uniform_containing : (containing functions unreleased).Uniform () where
  depth stores := congrArg Store.callDepth stores.1
  loading stores := congrArg Store.loading stores.1
  imports stores := by
    rw [stores.1]
    exact OrderedMap.matches_eq_iff.mpr rfl
  resume stores imports loading depth := by
    refine ⟨?_, stores.2⟩
    rw [stores.1, OrderedMap.matches_eq_iff.mp imports, loading, depth]

theorem throughout_containing : (containing functions unreleased).Throughout .same :=
  throughout_same (fun _ => rfl) (fun _ _ => ⟨And.right, And.intro trivial⟩) id trivial

/-! ## Calls of released functions -/

/-- A released function fails when it is called, and nothing else happens. -/
theorem Evaluate.call_released (below : Interpreter) (span : Span)
    (released : store.function ref = some (.script definition none))
    (fits : arguments.length = definition.parameters.length) (room : store.callDepth < limit) :
    Evaluate.call limit below (.function ref) arguments span store =
      .error (.error (releasedError definition span)) store := by
  rw [call_function_of_lt room, released]
  simp only [callFound, callFunction, if_pos fits]
  rfl

section

variable (released : ∀ callable ∈ functions, callable.release = callable) (host : Host)
include released

theorem refusing_call (below : Interpreter) (patience : Nat) (function : Value) (span : Span)
    (contained : store.Contains functions unreleased) :
    ((Interpreter.above host below patience).refusing functions host.maxCallDepth).call function
        arguments span store =
      (Interpreter.above host below patience).call function arguments span store := by
  unfold Interpreter.refusing
  simp only
  split
  · rename_i definition found
    split
    · rename_i refused
      unfold scriptIn at found
      split at found
      · split at found
        · rename_i ref _ _ captured present
          cases found
          have cut := released _ (Array.mem_of_getElem? present)
          cases cut
          exact (Evaluate.call_released below span (contained.function_eq present) refused.1
            refused.2).symm
        · cases found
      · cases found
    · rfl
  · rfl

/-- No run can tell whether calls of released functions are refused. -/
theorem alike_refusingInterpreter (budget : Nat) :
    (containing functions unreleased).Alike () .same (interpreter host budget)
      (refusingInterpreter functions host budget) := by
  induction budget with
  | zero =>
    exact ⟨interpreters_exhausted trivial, fun _ _ _ _ _ _ _ stores => .exhausted stores trivial⟩
  | succ budget ih =>
    rw [interpreter_succ]
    have above := ih.above uniform_containing throughout_containing id host
      (.inl (rfl : budget = budget))
    refine ⟨{ above.parts with call := ?_ }, above.libraries⟩
    intro function function' values values' span span' functions' arguments spans store store' stores
    have called := above.parts.call functions' arguments spans store store' stores
    rw [← refusing_call released host _ budget function' span' (stores.1 ▸ stores.2)] at called
    exact called

/-- A step keeps the table, and takes the execution where it does if calls are refused. -/
theorem Execution.Step.contains_take {step : Execution.Step}
    (since : unreleased → step ≠ .release) (contained : store.Contains functions unreleased) :
    step.take (refusingInterpreter functions host) store = step.take (interpreter host) store ∧
      (step.take (interpreter host) store).Contains functions unreleased := by
  cases step with
  | answer budget request =>
    have alike := @alike_refusingInterpreter _ unreleased released host budget
    have performs := request.corresponds_perform lawful_containing alike.parts
    obtain ⟨same, kept⟩ := (performs store store ⟨rfl, contained⟩).finalStores fun _ => id
    exact ⟨same.symm, kept⟩
  | release =>
    obtain ⟨added, same, _⟩ := contained
    refine ⟨rfl, added.map Callable.release, ?_, fun unreleased => absurd rfl (since unreleased)⟩
    simp only [take, Store.release, same, Array.map_append, Array.map_congr_left released,
      Array.map_id']

theorem Execution.contains_history {steps : List Execution.Step}
    (since : unreleased → .release ∉ steps) (contained : store.Contains functions unreleased) :
    history (refusingInterpreter functions host) steps store =
        history (interpreter host) steps store ∧
      (history (interpreter host) steps store).Contains functions unreleased := by
  induction steps generalizing store with
  | nil => exact ⟨rfl, contained⟩
  | cons step steps ih =>
    have sinceStep (still : unreleased) : step ≠ .release ∧ .release ∉ steps := by
      simpa [eq_comm] using since still
    obtain ⟨same, kept⟩ := Step.contains_take released host (fun still => (sinceStep still).1) contained
    simp only [history, List.foldl_cons, same]
    exact ih (fun still => (sinceStep still).2) kept

end

/-! ## Functions that work -/

/-- A function does what it was made for when it is called in a store. -/
def Callable.Works (host : Host) (store : Store) (ref : FunctionRef) (callable : Callable) : Prop :=
  ∀ budget arguments span, store.callDepth < host.maxCallDepth →
    let below := interpreter host budget
    let site : CallSite :=
      { call := fun function values => below.call function values span, span := span }
    let counted (work : Run Value) : EStateM.Result Fault Store Value :=
      Run.ensuring work Evaluate.leaveCall { store with callDepth := store.callDepth + 1 }
    let result := (interpreter host (budget + 1)).call (.function ref) arguments span store
    match callable with
    | .native function => result = counted (function.dispatch site arguments)
    | .bound receiver function => result = counted (function.dispatch site (receiver :: arguments))
    | .script definition captured =>
      ∃ context, captured = some context ∧
        (arguments.length = definition.parameters.length →
          result = counted (Run.wrapping (.inCall callable.describe) span do
            let scope ← Run.newScope context
            let inner ← Evaluate.bindParameters span definition.parameters arguments scope
            Evaluate.functionBody below inner definition.body))

theorem Callable.Attached.works (attached : callable.Attached) (host : Host)
    (present : store.function ref = some callable) : callable.Works host store ref := by
  intro budget arguments span room
  have called := Evaluate.call_function_of_lt room (interpreter host budget) ref arguments span
  rw [present] at called
  cases callable with
  | native function => exact called
  | bound receiver function => exact called
  | script definition captured =>
    obtain ⟨context, rfl⟩ := Option.isSome_iff_exists.mp attached
    refine ⟨context, rfl, fun fits => ?_⟩
    simp only [Evaluate.callFound, Evaluate.callFunction, if_pos fits] at called
    exact called

end Containing

namespace Releasing

/-- A place in no file. -/
def place : Span :=
  { file := "", start := Position.start, stop := Position.start }

/-- `function name(x) { }` -/
def definition (name : String) : FunctionDef :=
  .node (some name) [.named "x"] (.block []) place

/-- The first object and the first frame. -/
def context : Context :=
  { root := { index := 0 }, scope := { inner := { index := 0 }, outer := [] } }

/-- Declare a function. -/
def declaring (name : String) : Execution.Step :=
  .answer 9 (.execute context
    { metadata := OrderedMap.empty
      statements := [.node place (.declareFunction (definition name))] })

end Releasing

end PatchScript
