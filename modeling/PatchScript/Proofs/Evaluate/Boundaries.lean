import PatchScript.Execution
import PatchScript.Proofs.Evaluate.SideBySide
import PatchScript.Proofs.Store.Contents

/-!
# Calls and imports side by side

Inside of a call, and while a library is loaded, a run is in a phase of its own.  A phase
says how it enters these inner phases and how it takes up again what they leave behind;
then calls and imports come out alike if the inner phases do.
-/

namespace PatchScript

open Correspondence
open Run (Corresponds)

namespace Correspondence

variable (rel : Correspondence)

/-- How a phase enters the phases of calls, up to a depth. -/
structure Calling (limit : Nat) (outer : rel.Phase)
    (Inner : rel.Phase → Prop) : Prop where
  depth {store store' : Store} : rel.Stores outer store store' → store.callDepth = store'.callDepth
  enter {store store' : Store} :
    rel.Stores outer store store' → store.callDepth < limit →
    ∃ inner, Inner inner ∧
      rel.Stores inner { store with callDepth := store.callDepth + 1 }
        { store' with callDepth := store'.callDepth + 1 } ∧
      ∀ after after', rel.Stores inner after after' →
        rel.Stores outer (Evaluate.leaveCall after) (Evaluate.leaveCall after')

/-- How a phase enters the phase in which a library is loaded, and what it takes up again
from a library whose program is finished. -/
structure Loading (name : String) (outer inner finished : rel.Phase)
    (store store' : Store) : Prop where
  enter : rel.Stores inner (Evaluate.beginLoading name store) (Evaluate.beginLoading name store')
  settle {after after' : Store} : rel.Stores inner after after' → rel.Stores finished after after'
  leave {after after' : Store} :
    rel.Stores inner after after' →
    rel.Stores outer (Evaluate.endLoading after) (Evaluate.endLoading after')
  finish {after after' : Store} {ref ref' : ObjectRef} :
    rel.Stores finished after after' → rel.Objects ref ref' →
    rel.Stores outer (Evaluate.cache name ref (Evaluate.endLoading after))
      (Evaluate.cache name ref' (Evaluate.endLoading after'))

/-- The program of a library is run alike. -/
def RunsLibrary (finished phase : rel.Phase) (name : String) (library : Program)
    (below below' : Interpreter) : Prop :=
  ∀ context context', rel.Blocks context context' →
    ∀ store store', rel.Stores phase store store' →
      rel.Outcomes finished phase rel.Errors (fun _ _ => True)
        (below.runLibrary name context library store)
        (below'.runLibrary name context' library store')

/-- How the loading of a library ends, by the stores inside of it. -/
inductive Loads (inner finished : rel.Phase) (name : String) :
    EStateM.Result Fault Store Value → EStateM.Result Fault Store Value → Prop where
  | loaded {after after' : Store} {ref ref' : ObjectRef} :
    rel.Stores finished after after' → rel.Objects ref ref' →
    Loads inner finished name
      (.ok (.object ref) (Evaluate.cache name ref (Evaluate.endLoading after)))
      (.ok (.object ref') (Evaluate.cache name ref' (Evaluate.endLoading after')))
  | failed {after after' : Store} {error error' : EvalError} :
    rel.Stores inner after after' → rel.Errors error error' →
    Loads inner finished name (.error (.error error) (Evaluate.endLoading after))
      (.error (.error error') (Evaluate.endLoading after'))
  | exhausted {after after' : Store} :
    rel.Stores inner after after' → rel.exhausts →
    Loads inner finished name (.error .outOfFuel (Evaluate.endLoading after))
      (.error .outOfFuel (Evaluate.endLoading after'))
  | stopped {after after' : Store} {result' : EStateM.Result Fault Store Value}
    {guarded : rel.Phase} :
    rel.Stores inner after after' → rel.Guarded guarded →
    Loads inner finished name (.error .outOfFuel (Evaluate.endLoading after)) result'

end Correspondence

/-- The native function that a function is, or has bound. -/
def Callable.native? : Callable → Option Native
  | .native function | .bound _ function => some function
  | .script _ _ => none

namespace Evaluate

variable {rel : Correspondence} [lawful : rel.Lawful]
variable {phase : rel.Phase} {parts : Parts} {below below' : Interpreter}
variable {context context' : Context} {arguments arguments' : List Value} {span span' : Span}
variable {store store' : Store} {name : String}

/-! ## Calls -/

omit lawful in
/-- A new frame has no constants. -/
theorem constants_addFrame (store : Store) :
    (store.addFrame.2.frames.get store.addFrame.1).constants = OrderedMap.empty := by
  simp [Store.addFrame, Frames.get, Frames.push, Frames.nextRef, Frame.empty]

omit lawful in
/-- Binding a parameter adds no constants. -/
theorem constants_planParameter (store : Store) (scope : Scope) (name : String) (value : Value) :
    ((store.changeFrames (Frames.planParameter scope name value)).frames.get scope.inner).constants =
      (store.frames.get scope.inner).constants := by
  simp only [Store.changeFrames, Frames.planParameter, Frames.commit, Frames.get,
    Array.getD_eq_getD_getElem?, Array.getElem?_modify, if_pos]
  cases store.frames.table[scope.inner.index]? <;> rfl

section

variable (spans : rel.Spans span span') (parameters : List Parameter)
variable (values : List.Forall₂ rel.Values arguments arguments')
include spans values

/-- Parameters are bound alike, in frames without constants. -/
theorem outcomes_bindParameters (blocks : rel.Blocks context context')
    (stores : rel.Stores phase store store')
    (noConstants : (store.frames.get context.scope.inner).constants = OrderedMap.empty) :
    rel.Outcomes phase phase rel.Errors rel.Blocks
      (bindParameters span parameters arguments context store)
      (bindParameters span' parameters arguments' context' store') := by
  induction parameters generalizing arguments arguments' context context' store store' with
  | nil => exact .ok stores blocks
  | cons parameter parameters ih =>
    cases values with
    | nil => cases parameter <;> exact .ok stores blocks
    | cons first rest =>
      cases parameter with
      | named name =>
        have inner : rel.Frames context.scope.inner context'.scope.inner :=
          (List.forall₂_cons.mp blocks.chain).1
        have bound := lawful.changeFrames stores
          (.parameter name inner blocks.inner noConstants first)
        exact ih rest blocks bound
          ((constants_planParameter store context.scope name _).trans noConstants)
      | root =>
        have mismatch := first.mismatch_eq "object for 'this' parameter"
        cases first with
        | @object ref ref' objects =>
          have rooted : rel.Blocks { context with root := ref }
              { context' with root := ref' } :=
            ⟨⟨objects, blocks.chain⟩, blocks.inner⟩
          exact ih rest rooted stores noConstants
        | _ => exact .failed stores (errors_ofKindAt (.of_plain rfl) spans)

/-- The scope of a call, with the parameters bound. -/
theorem corresponds_parameters (contexts : rel.Contexts context context') :
    rel.Runs phase rel.Blocks
      (Run.newScope context >>= bindParameters span parameters arguments)
      (Run.newScope context' >>= bindParameters span' parameters arguments') := by
  intro store store' stores
  have ⟨frames, isLocal, after⟩ := lawful.addFrame stores
  have blocks : rel.Blocks
      { context with scope := { inner := store.addFrame.1, outer := context.scope.chain } }
      { context' with scope := { inner := store'.addFrame.1, outer := context'.scope.chain } } :=
    ⟨⟨contexts.root, .cons frames contexts.chain⟩, isLocal⟩
  exact outcomes_bindParameters spans parameters values blocks after (constants_addFrame store)

end

section Bodies

variable (alike : rel.Interpreters phase parts below below')

include alike

omit lawful in
theorem corresponds_functionBody (blocks : rel.Blocks context context')
    {body body' : FunctionBody} (bodies : Bodies parts body body') :
    rel.Runs phase rel.Values
      (functionBody below context body) (functionBody below' context' body') := by
  cases bodies with
  | block bodies =>
    refine (corresponds_statements alike blocks bodies).bind fun _ _ signals => ?_
    cases signals with
    | returned values => exact .pure values
    | _ => exact .pure .null
  | expression values => exact alike.evaluate blocks.toContexts values

variable (values : List.Forall₂ rel.Values arguments arguments') (spans : rel.Spans span span')

include values spans

theorem corresponds_callScript {definition definition' : FunctionDef}
    (made : Made parts definition definition') {captured captured' : Option Context}
    (contexts : Option.Rel rel.Contexts captured captured') :
    rel.Runs phase rel.Values
      (callScript below definition captured arguments span)
      (callScript below' definition' captured' arguments' span') := by
  cases contexts with
  | none =>
    refine .failAt (.of_runtime ?_ ?_) spans
    · decide
    · decide
  | some contexts =>
    unfold callScript
    rw [← made.parameters]
    dsimp only
    rw [← bind_assoc, ← bind_assoc]
    exact (corresponds_parameters spans definition.parameters values contexts).bind
      fun _ _ blocks => corresponds_functionBody alike blocks made.body

theorem corresponds_callFunction
    (made : ∀ definition definition', rel.Definitions definition definition' →
      Made parts definition definition')
    {callable callable' : Callable}
    (callables : rel.Callables callable callable')
    (keeps : rel.Guarded phase → callable.native? ≠ some (.objects .remove)) :
    rel.Runs phase rel.Values
      (callFunction below callable arguments span)
      (callFunction below' callable' arguments' span') := by
  cases callables with
  | native function =>
    exact function.corresponds_dispatch
      (fun _ _ _ _ functions values => alike.call functions values spans) spans
      (fun guarded => mt (congrArg some) (keeps guarded)) values
  | bound function receivers =>
    exact function.corresponds_dispatch
      (fun _ _ _ _ functions values => alike.call functions values spans) spans
      (fun guarded => mt (congrArg some) (keeps guarded)) (.cons receivers values)
  | script definitions contexts =>
    have same := made _ _ definitions
    simp only [callFunction, Callable.describe, ← values.length_eq, ← same.parameters, ← same.name]
    refine .ite Iff.rfl (fun _ => ?_) fun _ => ?_
    · exact (corresponds_callScript alike values spans same contexts).wrapping rfl spans
    · exact .failAt (.of_plain rfl) spans

end Bodies

/-- What a call runs that has found a function, or none. -/
def callFound (below : Interpreter) (found : Option Callable) (arguments : List Value)
    (span : Span) : Run Value :=
  match found with
  | some callable => callFunction below callable arguments span
  | none => Run.failAt (.notCallable .function) span

omit lawful in
theorem call_function_of_lt {limit : Nat} {store : Store} (room : store.callDepth < limit)
    (below : Interpreter) (ref : FunctionRef) (arguments : List Value) (span : Span) :
    call limit below (.function ref) arguments span store =
      Run.ensuring (callFound below (store.function ref) arguments span) leaveCall
        { store with callDepth := store.callDepth + 1 } := by
  have entered : Run.orAt span (enterCall limit) store =
      .ok () { store with callDepth := store.callDepth + 1 } := by
    simp only [Run.orAt, Run.mapError, enterCall, Run.bind_get]
    rw [if_pos room]
    rfl
  unfold call
  simp only
  rw [bind_of_ok entered, Run.ensuring, Run.bind_get]
  rfl

omit lawful in
theorem call_function_of_not_lt {limit : Nat} {store : Store} (full : ¬ store.callDepth < limit)
    (below : Interpreter) (ref : FunctionRef) (arguments : List Value) (span : Span) :
    call limit below (.function ref) arguments span store =
      .error (.error ((EvalError.ofKind (.callDepthExceeded limit)).orAt span)) store := by
  have refused : Run.orAt span (enterCall limit) store =
      .error (.error ((EvalError.ofKind (.callDepthExceeded limit)).orAt span)) store := by
    simp only [Run.orAt, Run.mapError, enterCall, Run.bind_get]
    rw [if_neg full]
    rfl
  simp only [call, bind, EStateM.bind, refused]

/-- Corresponding values are called alike. -/
theorem outcomes_call {limit : Nat} {Inner : rel.Phase → Prop}
    (calling : rel.Calling limit phase Inner)
    (alike : ∀ inner, Inner inner → rel.Interpreters inner parts below below')
    (made : ∀ definition definition', rel.Definitions definition definition' →
      Made parts definition definition')
    {function function' : Value}
    (functions : rel.Values function function')
    (values : List.Forall₂ rel.Values arguments arguments')
    (spans : rel.Spans span span') (stores : rel.Stores phase store store')
    (keeps : ∀ inner ref callable, Inner inner → rel.Guarded inner → function = .function ref →
      store.function ref = some callable → callable.native? ≠ some (.objects .remove)) :
    rel.Outcomes phase phase rel.Errors rel.Values
      (call limit below function arguments span store)
      (call limit below' function' arguments' span' store') := by
  cases functions with
  | @function ref ref' refs =>
    have sameDepth := calling.depth stores
    by_cases deep : store.callDepth < limit
    · rw [call_function_of_lt deep, call_function_of_lt (sameDepth ▸ deep)]
      obtain ⟨inner, isInner, entered, leave⟩ := calling.enter stores deep
      refine Corresponds.ensuring ?_ leave
      have found := lawful.function entered refs
      have keeps (callable : Callable) := keeps inner ref callable isInner
      change Option.Rel _ (store.function ref) (store'.function ref') at found
      generalize store.function ref = callable, store'.function ref' = callable' at found keeps ⊢
      cases found with
      | some callables =>
        exact corresponds_callFunction (alike inner isInner) values spans made callables
          (fun guarded => keeps _ guarded rfl rfl) _ _ entered
      | none => exact .failed entered (errors_ofKindAt (.of_plain rfl) spans)
    · rw [call_function_of_not_lt deep, call_function_of_not_lt (sameDepth ▸ deep)]
      exact .failed stores (BareErrors.orAt ⟨⟨_, .of_plain rfl, rfl⟩, rfl⟩ spans)
  | _ => exact .failed stores (errors_ofKindAt (.of_plain rfl) spans)

/-! ## Libraries -/

theorem corresponds_functionEntries {errors : EvalError → EvalError → Prop}
    (functions : List Native) {built built' : OrderedMap Value}
    (members : rel.Members built built') :
    Corresponds rel phase errors rel.Members (functionEntries functions built)
      (functionEntries functions built') := by
  induction functions generalizing built built' with
  | nil => exact .pure members
  | cons function rest ih =>
    exact (corresponds_newFunction (.native function) trivial).bind fun _ _ values =>
      ih (members.insert function.name values)

omit lawful in
theorem objects_functionEntries (functions : List Native) (built : OrderedMap Value)
    (store : Store) :
    (Run.finalStore (functionEntries functions built store)).objects = store.objects := by
  induction functions generalizing built store with
  | nil => rfl
  | cons function functions ih => exact ih _ _

/-- A native library fills an object that has no keys. -/
theorem outcomes_populate {errors : EvalError → EvalError → Prop} (library : NativeLibrary)
    {ref ref' : ObjectRef} (objects : rel.Objects ref ref') (stores : rel.Stores phase store store')
    (empty : store.object ref = OrderedMap.empty) :
    rel.Outcomes phase phase errors (fun _ _ => True) (populate library ref store)
      (populate library ref' store') := by
  let entries := library.constants.map fun constant => (constant.1, Value.number constant.2)
  have plain : ∀ entry ∈ entries, entry.1 = entry.1 ∧ rel.Values entry.2 entry.2 := by
    intro entry member
    obtain ⟨constant, _, rfl⟩ := List.mem_map.mp member
    exact ⟨rfl, .number constant.2⟩
  have constants : rel.Members (OrderedMap.ofEntries entries) (OrderedMap.ofEntries entries) :=
    OrderedMap.matches_empty.insertAll (List.forall₂_same.mpr plain)
  have outcomes : rel.Outcomes phase phase errors _ _ _ :=
    corresponds_functionEntries library.functions constants store store' stores
  have same := objects_functionEntries library.functions (OrderedMap.ofEntries entries) store
  simp only [populate, bind, EStateM.bind]
  generalize functionEntries _ _ store = result, functionEntries _ _ store' = result'
    at outcomes same
  cases outcomes with
  | @ok _ _ later _ after contents =>
    have still : later.object ref = OrderedMap.empty := by
      rw [Store.object, show later.objects = store.objects from same]
      exact empty
    refine .ok (lawful.modifyObject after objects (fun _ _ _ => contents) fun _ => ?_) trivial
    rw [still]
    exact List.nil_prefix
  | failed after errors => exact .failed after errors
  | exhausted after exhausts => exact .exhausted after exhausts
  | stopped after guarded => exact .stopped after guarded

/-- A library is loaded alike, if its program is run alike. -/
theorem loads_load (host : Host) {outer inner finished : rel.Phase}
    (loading : rel.Loading name outer inner finished store store')
    (runs : ∀ library, NativeLibrary.ofName? name = none → host.script? name = some library →
      rel.RunsLibrary finished inner name library below below')
    (spans : rel.Spans span span') :
    rel.Loads inner finished name (load host below name span store)
      (load host below' name span' store') := by
  obtain ⟨objects, added⟩ := lawful.addObject loading.enter OrderedMap.matches_empty
  have empty := (beginLoading name store).object_addObject_self OrderedMap.empty
  simp only [load, locate, Run.newObject, bind, EStateM.bind, modify, Run.modifyGet_apply]
  generalize (beginLoading name store).addObject OrderedMap.empty = first,
    (beginLoading name store').addObject OrderedMap.empty = second at objects added empty ⊢
  obtain ⟨ref, begun⟩ := first
  obtain ⟨ref', begun'⟩ := second
  cases isNative : NativeLibrary.ofName? name with
  | some library =>
    have outcomes : rel.Outcomes inner inner rel.Errors _ _ _ :=
      outcomes_populate library objects added empty
    simp only [Run.ensuring, Run.wrapping, Run.mapError, EStateM.bind]
    generalize populate library ref begun = result,
      populate library ref' begun' = result' at outcomes
    cases outcomes with
    | ok stores => exact .loaded (loading.settle stores) objects
    | failed stores errors => exact .failed stores (errors.wrap rfl spans)
    | exhausted stores exhausts => exact .exhausted stores exhausts
    | stopped stores guarded => exact .stopped stores guarded
  | none =>
    cases isScript : host.script? name with
    | none => exact .failed added (errors_ofKindAt (.of_plain rfl) spans)
    | some library =>
      obtain ⟨frames, isLocal, entered⟩ := lawful.addFrame added
      have blocks : rel.Blocks
          { root := ref, scope := { inner := begun.addFrame.1, outer := [] } }
          { root := ref', scope := { inner := begun'.addFrame.1, outer := [] } } :=
        ⟨⟨objects, .cons frames .nil⟩, isLocal⟩
      have outcomes := runs library isNative isScript _ _ blocks _ _ entered
      simp only [Run.ensuring, Run.wrapping, Run.mapError, EStateM.bind, Run.isolated,
        Run.modifyGet_apply]
      generalize below.runLibrary name _ library _ = result,
        below'.runLibrary name _ library _ = result' at outcomes
      cases outcomes with
      | ok stores => exact .loaded stores objects
      | failed stores errors => exact .failed stores (errors.wrap rfl spans)
      | exhausted stores exhausts => exact .exhausted stores exhausts
      | stopped stores guarded => exact .stopped stores guarded

omit lawful in
theorem importLibrary_of_cached (host : Host) (below : Interpreter) (span : Span) {ref : ObjectRef}
    (cached : store.imports.get? name = some ref) :
    importLibrary host below name span store = .ok (.object ref) store := by
  simp only [importLibrary, Run.bind_get, cached]
  rfl

omit lawful in
theorem importLibrary_of_loading (host : Host) (below : Interpreter) (span : Span)
    (absent : store.imports.get? name = none) (cyclic : name ∈ store.loading) :
    importLibrary host below name span store =
      .error (.error (.ofKindAt (.cyclicImport (store.loading ++ [name])) span)) store := by
  have contained : store.loading.contains name = true := by simpa using cyclic
  simp only [importLibrary, Run.bind_get, absent, contained, if_pos]
  rfl

omit lawful in
theorem importLibrary_of_absent (host : Host) (below : Interpreter) (span : Span)
    (absent : store.imports.get? name = none) (fresh : name ∉ store.loading) :
    importLibrary host below name span store = load host below name span store := by
  have missing : ¬ store.loading.contains name = true := by simpa using fresh
  simp only [importLibrary, Run.bind_get, absent, if_neg missing]

omit lawful in
/-- An import from corresponding stores is one of a library that both have loaded, that
both are loading, or that both begin to load. -/
theorem outcomes_importLibrary (host : Host)
    (cached : Option.Rel rel.Objects (store.imports.get? name) (store'.imports.get? name))
    (sameLoading : store.loading = store'.loading) (stores : rel.Stores phase store store')
    (spans : rel.Spans span span')
    (loaded : store.imports.get? name = none → name ∉ store.loading →
      rel.Outcomes phase phase rel.Errors rel.Values
        (load host below name span store) (load host below' name span' store')) :
    rel.Outcomes phase phase rel.Errors rel.Values
      (importLibrary host below name span store) (importLibrary host below' name span' store') := by
  cases found : store.imports.get? name with
  | some ref =>
    cases found' : store'.imports.get? name with
    | none =>
      rw [found, found'] at cached
      cases cached
    | some ref' =>
      rw [found, found'] at cached
      rw [importLibrary_of_cached host below span found,
        importLibrary_of_cached host below' span' found']
      cases cached with
      | some objects => exact .ok stores (.object objects)
  | none =>
    have found' : store'.imports.get? name = none := by
      rw [found] at cached
      generalize store'.imports.get? name = ref' at cached
      cases cached
      rfl
    by_cases cyclic : name ∈ store.loading
    · rw [importLibrary_of_loading host below span found cyclic,
        importLibrary_of_loading host below' span' found' (sameLoading ▸ cyclic), ← sameLoading]
      exact .failed stores (errors_ofKindAt (.of_plain rfl) spans)
    · rw [importLibrary_of_absent host below span found cyclic,
        importLibrary_of_absent host below' span' found' (sameLoading ▸ cyclic)]
      exact loaded found cyclic

omit lawful in
/-- The phase of an import is taken up again where it was left. -/
theorem outcomes_of_loads {outer inner finished : rel.Phase}
    (loading : rel.Loading name outer inner finished store store')
    {result result' : EStateM.Result Fault Store Value}
    (loads : rel.Loads inner finished name result result') :
    rel.Outcomes outer outer rel.Errors rel.Values result result' := by
  cases loads with
  | loaded stores objects => exact .ok (loading.finish stores objects) (.object objects)
  | failed stores errors => exact .failed (loading.leave stores) errors
  | exhausted stores exhausts => exact .exhausted (loading.leave stores) exhausts
  | stopped stores guarded => exact .stopped (loading.leave stores) guarded

end Evaluate

/-! ## Documents and interpreters -/

/-- A document is added alike. -/
theorem Execution.corresponds_start (rel : Correspondence) [lawful : rel.Lawful]
    (phase : rel.Phase) (members : List (String × Json)) :
    rel.Runs phase rel.Blocks (start members) (start members) := by
  refine Corresponds.bind (.changeGet fun _ _ stores => ?_) fun _ _ objects =>
    corresponds_isolated objects
  obtain ⟨related, after⟩ := ofJsonMembers_corresponds members stores OrderedMap.matches_empty
  exact lawful.addObject after related

/-- The interpreter that has another one evaluate the parts of everything. -/
def Interpreter.above (host : Host) (below : Interpreter) (patience : Nat) : Interpreter where
  evaluate := Evaluate.expression below
  execute := Evaluate.statement below
  call := Evaluate.call host.maxCallDepth below
  importLibrary := Evaluate.importLibrary host below
  runLibrary _ context library := Evaluate.program below context library.statements
  patience := patience

theorem interpreter_succ (host : Host) (budget : Nat) :
    interpreter host (budget + 1) = .above host (interpreter host budget) budget :=
  rfl

/-- An interpreter above others that evaluate parts alike evaluates alike. -/
theorem Correspondence.Interpreters.above {rel : Correspondence} [lawful : rel.Lawful]
    {phase : rel.Phase} {parts partsBelow partsCalled : Parts} {host : Host}
    {below below' : Interpreter} {patience patience' : Nat}
    (alike : rel.Interpreters phase partsBelow below below')
    (exprs : ∀ expr expr', parts.Exprs expr expr' → rel.Spans expr.span expr'.span ∧
      rel.ExprForms partsBelow expr.form expr'.form)
    (statements : ∀ inLoop statement statement', parts.Statements inLoop statement statement' →
      rel.Spans statement.span statement'.span ∧
        rel.StatementForms partsBelow inLoop statement.form statement'.form)
    {Inner : rel.Phase → Prop}
    (calling : rel.Calling host.maxCallDepth phase Inner) (unguarded : ¬ rel.Guarded phase)
    (called : ∀ inner, Inner inner →
      rel.Interpreters inner partsCalled below below' ∧ ¬ rel.Guarded inner)
    (made : ∀ definition definition', rel.Definitions definition definition' →
      Made partsCalled definition definition')
    (imports : ∀ name span span', parts.Imports name → rel.Spans span span' →
      rel.Runs phase rel.Values
        (Evaluate.importLibrary host below name span)
        (Evaluate.importLibrary host below' name span'))
    (patient : rel.exhausts → rel.Patient patience patience') :
    rel.Interpreters phase parts (.above host below patience) (.above host below' patience') where
  evaluate contexts related :=
    have ⟨spans, forms⟩ := exprs _ _ related
    Evaluate.corresponds_expression alike contexts spans forms
  execute blocks related :=
    have ⟨spans, forms⟩ := statements _ _ _ related
    Evaluate.corresponds_statement alike blocks spans forms fun _ _ => unguarded
  call functions values spans _ _ stores :=
    Evaluate.outcomes_call calling (fun inner isInner => (called inner isInner).1) made functions
      values spans stores fun inner _ _ isInner guarded => absurd guarded (called inner isInner).2
  importLibrary imported spans := imports _ _ _ imported spans
  patience := patient

end PatchScript
