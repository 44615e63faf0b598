import PatchScript.Proofs.Evaluate.Sparing
import PatchScript.Proofs.Native.SizeLimit

/-!
# The footprint of native calls

A native function changes at most the one container that it is meant to change, and nothing
if it fails.  What it calls may change more, but the function itself adds nothing to that.
Operators change no container.
-/

namespace PatchScript

open Relation (ReflTransGen)
open Run (finalStore)

variable {site : CallSite} {arguments : List Value} {function : Native} {computation : Run Value}

/-! ## Functions that call nothing -/

/-- Whatever functions would do when called, a call of a native function is the same. -/
def Native.CallsNothing (function : Native) (site : CallSite) (arguments : List Value)
    (store : Store) : Prop :=
  ∀ call, function.dispatch { site with call := call } arguments store =
    function.dispatch site arguments store

theorem ArrayFunction.body_eq {function : ArrayFunction} (site site' : CallSite)
    (none : ∀ kinds, (Native.arrays function).overload? arguments.length = some kinds →
      .function ∉ kinds) :
    function.body site arguments = function.body site' arguments := by
  unfold body
  split
  case h_12 | h_13 | h_14 | h_15 | h_16 | h_17 =>
    exact absurd (by simp) (none [.array, .function] rfl)
  all_goals rfl

theorem DebugFunction.body_eq {site site' : CallSite} (spans : site.span = site'.span)
    (function : DebugFunction) (arguments : List Value) :
    function.body site arguments = function.body site' arguments := by
  unfold body check
  rw [spans]

/-- A function without a parameter for a function calls nothing. -/
theorem Native.callsNothing
    (none : ∀ kinds, function.overload? arguments.length = some kinds → .function ∉ kinds)
    (site : CallSite) (store : Store) : function.CallsNothing site arguments store := by
  intro call
  have same : function.body { site with call := call } arguments =
      function.body site arguments := by
    cases function with
    | arrays function => exact function.body_eq _ site none
    | debug function => exact function.body_eq rfl arguments
    | math _ | strings _ | objects _ | json _ => rfl
  simp only [dispatch, same]

/-- A function that calls nothing changes at most what it is meant to change. -/
theorem Native.keepsBut_of_callsNothing {store : Store}
    (alone : function.CallsNothing site arguments store) :
    store.KeepsBut (fun container => function.mutated? arguments = some container)
      (finalStore (function.dispatch site arguments store)) := by
  rw [← alone fun _ _ => throw .outOfFuel]
  exact related_dispatch (Regime.lawful_relating .refl .trans id) (fun _ _ _ later => .refl later)
    (fun _ => id) store

/-! ## Failures -/

/-- A computation that fails leaves the store as it was. -/
def Run.FailsClean (computation : Run Value) (store : Store) : Prop :=
  ∀ fault after, computation store = .error fault after → after = store

namespace Run.FailsClean

variable {store : Store}

theorem of_ok {value : Value} {after : Store} (returned : computation store = .ok value after) :
    FailsClean computation store :=
  fun _ _ failed => by cases returned.symm.trans failed

theorem throw (fault : Fault) : FailsClean (MonadExcept.throw fault) store := by
  rintro _ _ ⟨⟩
  rfl

theorem lifting {α : Type} {result : Except ErrorKind α} {next : α → Run Value}
    (rest : ∀ value, FailsClean (next value) store) :
    FailsClean (Run.lift result >>= next) store := by
  cases result with
  | ok value => exact rest value
  | error kind => exact throw _

theorem arrayOf {ref : ArrayRef} {next : Array Value → Run Value}
    (rest : FailsClean (next (store.array ref)) store) :
    FailsClean (Run.arrayOf ref >>= next) store :=
  rest

theorem objectOf {ref : ObjectRef} {next : OrderedMap Value → Run Value}
    (rest : FailsClean (next (store.object ref)) store) :
    FailsClean (Run.objectOf ref >>= next) store :=
  rest

theorem mapError {change : EvalError → EvalError} (clean : FailsClean computation store) :
    FailsClean (Run.mapError change computation) store := by
  intro fault after failed
  unfold Run.mapError at failed
  split at failed
  · next error store' ran =>
    cases failed
    exact clean _ _ ran
  · exact clean fault after failed

end Run.FailsClean

theorem ArrayFunction.failsClean_body {function : ArrayFunction}
    (mutates : (Native.arrays function).mutated? arguments ≠ none) (site : CallSite)
    (store : Store) : (function.body site arguments).FailsClean store := by
  unfold body
  split
  case h_2 ref value => exact .of_ok rfl
  case h_3 ref =>
    refine .arrayOf ?_
    split
    · exact .of_ok rfl
    · exact .throw _
  case h_4 ref index value => exact .lifting fun _ => .lifting fun _ => .of_ok rfl
  case h_5 ref index => exact .lifting fun _ => .lifting fun _ => .of_ok rfl
  case h_19 ref value => exact .of_ok rfl
  case h_20 => exact .throw _
  all_goals exact absurd rfl mutates

theorem ObjectFunction.failsClean_body {function : ObjectFunction}
    (mutates : (Native.objects function).mutated? arguments ≠ none) (store : Store) :
    (function.body arguments).FailsClean store := by
  unfold body
  split
  case h_4 ref key =>
    refine .objectOf ?_
    split
    · exact .of_ok rfl
    · exact .throw _
  case h_7 target source => exact .of_ok rfl
  case h_8 => exact .throw _
  all_goals exact absurd rfl mutates

/-- A function that is meant to change a container changes nothing if it fails. -/
theorem Native.failsClean_dispatch (mutates : function.mutated? arguments ≠ none) (site : CallSite)
    (store : Store) : (function.dispatch site arguments).FailsClean store := by
  unfold dispatch
  split
  · exact .throw _
  · split
    · exact .throw _
    · refine .mapError ?_
      cases function with
      | arrays function => exact function.failsClean_body mutates site store
      | objects function => exact function.failsClean_body mutates store
      | math _ | strings _ | json _ | debug _ => exact absurd rfl mutates

/-! ## Functions that call back -/

/-- What a native function does step by step: it leaves all containers alone, or it calls a
function that it is given. -/
inductive Native.Step (site : CallSite) (arguments : List Value) : Store → Store → Prop
  | keeps {before after : Store} : before.Keeps after → Step site arguments before after
  | calls {callback : Value} {values : List Value} {before : Store} : callback ∈ arguments →
    Step site arguments before (finalStore (site.call callback values before))

theorem Regime.lawful_steps {Step : Store → Store → Prop}
    (keeps : ∀ {before after : Store}, before.Keeps after → Step before after) :
    (relating (ReflTransGen Step) fun _ => False).Lawful :=
  lawful_relating (fun _ => .refl) .trans fun kept => .single (keeps kept)

/-- A function that is not meant to change a container changes something only by calling. -/
theorem Native.steps_dispatch (quiet : function.mutated? arguments = none) (site : CallSite)
    (store : Store) :
    ReflTransGen (Step site arguments) store
      (finalStore (function.dispatch site arguments store)) := by
  refine related_dispatch (Regime.lawful_steps .keeps)
    (fun callback member values later => .single (.calls member)) (fun container mutates => ?_)
    store
  cases quiet.symm.trans mutates

/-- What changes containers in a call: a native function that is meant to change one, and a
function of a script. -/
inductive Change (host : Host) : Store → Store → Prop
  | keeps {before after : Store} : before.Keeps after → Change host before after
  | native {function : Native} {site : CallSite} {arguments : List Value} {container : Value}
      {before : Store} : function.mutated? arguments = some container →
    Change host before (finalStore (function.dispatch site arguments before))
  | script {ref : FunctionRef} {definition : FunctionDef} {captured : Option Context}
      {budget : Nat} {arguments : List Value} {span : Span} {before : Store} :
    before.function ref = some (.script definition captured) →
    Change host before
      (finalStore ((interpreter host budget).call (.function ref) arguments span before))

/-- A native function changes containers through native functions and functions of scripts,
if what it is given to call does. -/
theorem Native.changes_dispatch {host : Host}
    (calls : ∀ callback values store,
      ReflTransGen (Change host) store (finalStore (site.call callback values store)))
    (function : Native)
    (arguments : List Value)
    (store : Store) :
    ReflTransGen (Change host) store (finalStore (function.dispatch site arguments store)) := by
  cases mutates : function.mutated? arguments with
  | some container => exact .single (.native mutates)
  | none =>
    refine related_dispatch (Regime.lawful_steps .keeps) (fun callback _ => calls callback)
      (fun container mutates' => ?_) store
    cases mutates.symm.trans mutates'

/-- So does what a call runs, if it is no function of a script itself. -/
theorem Evaluate.changes_callFound {host : Host} {below : Interpreter}
    (calls : ∀ callback values span store, ReflTransGen (Change host) store
      (finalStore (below.call callback values span store)))
    {found : Option Callable}
    (notScript : ∀ definition captured, found ≠ some (.script definition captured))
    (arguments : List Value)
    (span : Span)
    (store : Store) :
    ReflTransGen (Change host) store (finalStore (callFound below found arguments span store)) := by
  cases found with
  | none => exact .refl
  | some callable =>
    cases callable with
    | native function =>
      refine Native.changes_dispatch ?_ function arguments store
      exact fun callback values later => calls callback values span later
    | bound receiver function =>
      refine Native.changes_dispatch ?_ function (receiver :: arguments) store
      exact fun callback values later => calls callback values span later
    | script definition captured => exact absurd rfl (notScript definition captured)

/-- Every call changes containers through native functions and functions of scripts. -/
theorem changes_call (host : Host) (budget : Nat) (function : Value) (arguments : List Value)
    (span : Span) (store : Store) :
    ReflTransGen (Change host) store
      (finalStore ((interpreter host budget).call function arguments span store)) := by
  -- By induction on the budget: a native function calls with less of it.
  induction budget generalizing function arguments span store with
  | zero => exact .refl
  | succ budget ih =>
    cases function with
    | null | boolean _ | number _ | string _ | array _ | object _ => exact .refl
    | function ref =>
      by_cases isScript : ∃ definition captured,
          store.function ref = some (.script definition captured)
      · obtain ⟨_, _, found⟩ := isScript
        exact .single (.script found)
      change ReflTransGen _ _ (finalStore (Evaluate.call host.maxCallDepth
        (interpreter host budget) (.function ref) arguments span store))
      by_cases room : store.callDepth < host.maxCallDepth
      · rw [Evaluate.call_function_of_lt room, Run.finalStore_ensuring]
        have entering : Change host store { store with callDepth := store.callDepth + 1 } :=
          .keeps (.of_same rfl rfl)
        have running := Evaluate.changes_callFound ih
          (fun definition captured found => isScript ⟨definition, captured, found⟩)
          arguments span { store with callDepth := store.callDepth + 1 }
        exact .head entering (running.tail (.keeps (.of_same rfl rfl)))
      · rw [Evaluate.call_function_of_not_lt room]
        exact .refl

/-! ## Operators -/

theorem Operator.keeps_binary (op : BinaryOp) (left right : Value) (store : Store) :
    store.Keeps (finalStore (Operator.binary op left right store)) :=
  related_binary (Regime.lawful_relating .refl .trans id) op left right store

theorem Operator.keeps_unary (op : UnaryOp) (operand : Value) (store : Store) :
    store.Keeps
      (finalStore ((do Run.lift (Operator.unary (← get) op operand) : Run Value) store)) := by
  rw [Run.bind_get]
  cases Operator.unary store op operand <;> exact .refl store

/-! ## Native calls and operators -/

/-- A native call that calls nothing, as every one does whose parameters do not include a
function, changes at most the container that it is meant to change, and none at all if it
fails.  A native function without such a container changes nothing but through the functions
that it calls, and calls of any depth change containers only through native functions that are
meant to and through scripts.  Operators change no container. -/
theorem native_calls_have_footprint (host : Host) (store : Store) :
    (∀ (function : Native) (site : CallSite) (arguments : List Value),
      (function.CallsNothing site arguments store →
        store.KeepsBut (fun container => function.mutated? arguments = some container)
          (finalStore (function.dispatch site arguments store)) ∧
        ∀ fault after, function.dispatch site arguments store = .error fault after →
          store.Keeps after) ∧
      ((∀ kinds, function.overload? arguments.length = some kinds → .function ∉ kinds) →
        function.CallsNothing site arguments store) ∧
      (function.mutated? arguments = none →
        ReflTransGen (Native.Step site arguments) store
          (finalStore (function.dispatch site arguments store)))) ∧
    (∀ budget function arguments span, ReflTransGen (Change host) store
      (finalStore ((interpreter host budget).call function arguments span store))) ∧
    (∀ op left right, store.Keeps (finalStore (Operator.binary op left right store))) ∧
    ∀ op operand, store.Keeps
      (finalStore ((do Run.lift (Operator.unary (← get) op operand) : Run Value) store)) := by
  refine ⟨fun function site arguments => ⟨fun alone => ?_, fun none => ?_, fun quiet => ?_⟩,
    fun budget function arguments span => changes_call host budget function arguments span store,
    fun op left right => Operator.keeps_binary op left right store,
    fun op operand => Operator.keeps_unary op operand store⟩
  · have kept := Native.keepsBut_of_callsNothing alone
    refine ⟨kept, fun fault after failed => ?_⟩
    cases mutates : function.mutated? arguments with
    | some container =>
      have clean := Native.failsClean_dispatch (by simp [mutates]) site store fault after failed
      subst clean
      exact .refl after
    | none =>
      simp only [mutates, reduceCtorEq, failed] at kept
      exact kept
  · exact Native.callsNothing none site store
  · exact Native.steps_dispatch quiet site store

open SizeLimit (place)

/-- A store with two arrays, one of them empty. -/
def twoArrays : Store :=
  { Store.empty with arrays := #[#[.null], #[]] }

/-- The first array is pushed into itself, and the second stays as it is; nothing can be taken
from the second, and nothing is. -/
theorem native_calls_have_footprint_aliased :
    (finalStore ((Native.arrays .push).dispatch place [.array ⟨0⟩, .array ⟨0⟩]
        twoArrays)).array ⟨1⟩ = #[] ∧
      twoArrays.Keeps (finalStore ((Native.arrays .pop).dispatch place [.array ⟨1⟩]
        twoArrays)) := by
  have natives := (native_calls_have_footprint ⟨1, none⟩ twoArrays).1
  constructor
  · obtain ⟨changes, alone, -⟩ := natives (.arrays .push) place [.array ⟨0⟩, .array ⟨0⟩]
    have pushed := alone fun kinds overload => by
      cases overload
      simp
    exact (changes pushed).1.array (Nat.lt_succ_self 1) (by simp [Native.mutated?])
  · obtain ⟨changes, alone, -⟩ := natives (.arrays .pop) place [.array ⟨1⟩]
    have popped := alone fun kinds overload => by
      cases overload
      simp
    exact (changes popped).2 _ _ rfl

end PatchScript
