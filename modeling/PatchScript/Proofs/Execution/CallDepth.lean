import PatchScript.Proofs.Execution.Watching

/-!
# The depth of calls

A call is counted for as long as it runs, and a library is in flight for as long as it is
loaded, whatever comes of them.  So everything that is evaluated, executed, called or
imported leaves as many calls active, and the same libraries in flight, as there were before;
and in between there are never more calls active than the host admits.

What is in between is seen by an interpreter that watches, also inside of every call.
-/

namespace PatchScript

open Correspondence
open Run (Corresponds)

/-! ## Watching the depth -/

namespace Evaluate

/-- What runs inside of the call of a function. -/
def insideCall (below : Interpreter) (ref : FunctionRef) (arguments : List Value)
    (span : Span) : Run Value := do
  match (← get).function ref with
  | some callable => callFunction below callable arguments span
  | none => Run.failAt (.notCallable .function) span

/-- Count a call for as long as something runs. -/
def counted {α : Type} (limit : Nat) (span : Span) (inside : Run α) : Run α := do
  Run.orAt span (enterCall limit)
  Run.ensuring inside leaveCall

/-- Count calls, one inside of the other. -/
def enterCalls (limit : Nat) : Nat → Run Unit
  | 0 => return ()
  | count + 1 => do
    enterCall limit
    enterCalls limit count

end Evaluate

/-- More calls are active than the limit. -/
def Event.Overdrawn (limit : Nat) (event : Event) : Prop :=
  limit < event.store.callDepth

instance (limit : Nat) : DecidablePred (Event.Overdrawn limit) :=
  fun event => inferInstanceAs (Decidable (limit < event.store.callDepth))

/-- Write a line in the log if too many calls are active when something begins or ends. -/
def Run.depthWatched {α : Type} (limit : Nat) (computation : Run α) : Run α :=
  Run.watched (.counting (Event.Overdrawn limit)) (fun _ result => .ended (Run.finalStore result))
    computation

/-- The interpreter with a budget, which writes a line in the log whenever too many calls are
active: when something begins or ends to be evaluated, executed, called, imported or run, and
when something begins or ends to run inside of a call. -/
def depthWatchingInterpreter (host : Host) : Nat → Interpreter
  | 0 => Interpreter.exhausted
  | budget + 1 =>
    let below := depthWatchingInterpreter host budget
    let limit := host.maxCallDepth
    { evaluate := fun context expr =>
        Run.depthWatched limit (Evaluate.expression below context expr)
      execute := fun context statement =>
        Run.depthWatched limit (Evaluate.statement below context statement)
      call := fun function arguments span =>
        Run.depthWatched limit (match function with
          | .function ref =>
            Evaluate.counted limit span
              (Run.depthWatched limit (Evaluate.insideCall below ref arguments span))
          | other => Run.failAt (.notCallable other.kind) span)
      importLibrary := fun name span =>
        Run.depthWatched limit (Evaluate.importLibrary host below name span)
      runLibrary := fun _ context library =>
        Run.depthWatched limit (Evaluate.program below context library.statements)
      patience := budget }

/-! ## The correspondence -/

/-- Where a run is: how many calls are active and which libraries are in flight. -/
structure CallPhase where
  depth : Nat
  loading : List String

/-- A store has as many calls active and such libraries in flight as it should. -/
structure Accounted (limit : Nat) (phase : CallPhase) (store : Store) : Prop where
  depth : store.callDepth = phase.depth
  loading : store.loading = phase.loading
  within : phase.depth ≤ limit

/-- The correspondence of a run with one whose depth is watched. -/
def Correspondence.accounting (limit : Nat) : Correspondence :=
  reflexive (Identical (Accounted limit) fun _ => True) (fun _ => True) False True

section Accounting

variable {limit : Nat} {phase : CallPhase}

instance lawful_accounting : (accounting limit).Lawful :=
  (loose_identical fun _ _ _ _ _ _ _ accounted =>
    ⟨accounted.depth, accounted.loading, accounted.within⟩).lawful

theorem calling_accounting : (accounting limit).Calling limit phase fun _ => True where
  depth stores := congrArg Store.callDepth stores.same
  enter := by
    rintro store _ ⟨rfl, defined, accounted⟩ admitted
    have deeper : phase.depth + 1 ≤ limit := accounted.depth ▸ admitted
    refine ⟨{ phase with depth := phase.depth + 1 }, trivial,
      ⟨rfl, defined, congrArg (· + 1) accounted.depth, accounted.loading, deeper⟩, ?_⟩
    rintro after _ ⟨rfl, definedAfter, inner⟩
    exact ⟨rfl, definedAfter, congrArg (· - 1) inner.depth, inner.loading, accounted.within⟩

theorem loading_accounting (name : String) {store : Store}
    (stores : (accounting limit).Stores phase store store) :
    let inner : CallPhase := { phase with loading := phase.loading ++ [name] }
    (accounting limit).Loading name phase inner inner store store where
  enter :=
    ⟨rfl, stores.defined, stores.place.depth, congrArg (· ++ [name]) stores.place.loading,
      stores.place.within⟩
  settle := id
  leave := by
    rintro after _ ⟨rfl, defined, inner⟩
    refine ⟨rfl, defined, inner.depth, ?_, inner.within⟩
    simp [Evaluate.endLoading, inner.loading]
  finish := by
    rintro after _ ref _ ⟨rfl, defined, inner⟩ ⟨⟩
    refine ⟨rfl, defined, inner.depth, ?_, inner.within⟩
    simp [Evaluate.cache, Evaluate.endLoading, inner.loading]

/-- As long as no more calls are active than the limit, nothing is noted. -/
theorem Accounted.note_eq {store : Store} (accounted : Accounted limit phase store) {event : Event}
    (seen : event.store = store) :
    store.note (.counting (Event.Overdrawn limit)) event = store := by
  have admitted : ¬ Event.Overdrawn limit event := by
    rw [Event.Overdrawn, seen, accounted.depth]
    exact Nat.not_lt.mpr accounted.within
  rw [Store.note, Notes.counting, if_neg admitted]

theorem Run.noteEnd_eq {α : Type} {notes : Notes} {event : EStateM.Result Fault Store α → Event}
    {result : EStateM.Result Fault Store α}
    (unnoted : (finalStore result).note notes (event result) = finalStore result) :
    noteEnd notes event result = result := by
  cases result with
  | ok value after => exact congrArg (EStateM.Result.ok value) unnoted
  | error fault after => exact congrArg (EStateM.Result.error fault) unnoted

/-- A computation whose depth is watched does what it does otherwise. -/
theorem corresponds_depthWatched {α β : Type} {errors : EvalError → EvalError → Prop}
    {values : α → β → Prop} {first : Run α} {second : Run β}
    (corresponds : Corresponds (accounting limit) phase errors values first second) :
    Corresponds (accounting limit) phase errors values first (Run.depthWatched limit second) := by
  intro store store' stores
  have outcomes := corresponds store store' stores
  have final := outcomes.finalStores fun _ => id
  have begun : store'.note (.counting (Event.Overdrawn limit)) (.began store') = store' :=
    Accounted.note_eq (stores.same ▸ stores.place) rfl
  simp only [Run.depthWatched, Run.watched, begun]
  rw [Run.noteEnd_eq (Accounted.note_eq (final.same ▸ final.place) rfl)]
  exact outcomes

/-! ## Interpreters -/

/-- Interpreters of which one watches the depth do the same, wherever the run is. -/
structure AlikeInDepth (limit : Nat) (below below' : Interpreter) : Prop where
  parts (phase : CallPhase) : (accounting limit).Interpreters phase .same below below'
  libraries (phase : CallPhase) (name : String) (library : Program) :
    (accounting limit).RunsLibrary phase phase name library below below'

theorem throughout_accounting : (accounting limit).Throughout .same :=
  throughout_same (fun _ => rfl) (fun _ _ => and_iff_right trivial) id trivial

variable {below below' : Interpreter} (alike : AlikeInDepth limit below below')

include alike

/-- Inside of a call everything goes on alike, one call deeper. -/
theorem corresponds_insideCall (ref : FunctionRef) (arguments : List Value) (span : Span) :
    (accounting limit).Runs phase (accounting limit).Values
      (Evaluate.insideCall below ref arguments span)
      (Evaluate.insideCall below' ref arguments span) := by
  refine Corresponds.read.bind fun store store' stores => ?_
  have found := lawful_accounting.function stores (rfl : (accounting limit).Functions ref ref)
  generalize store.function ref = callable, store'.function ref = callable' at found
  cases found with
  | none => exact .failAt (.of_plain rfl) rfl
  | some callables =>
    exact Evaluate.corresponds_callFunction (alike.parts phase)
      (forall₂_self fun _ _ => identity_values_iff.mpr rfl) rfl throughout_accounting.made
      callables False.elim

omit alike in
/-- A call that is counted comes out alike if what runs inside of it does. -/
theorem corresponds_counted {α : Type} {values : α → α → Prop} (span : Span)
    {inside inside' : Run α}
    (corresponds : ∀ phase, (accounting limit).Runs phase values inside inside') :
    (accounting limit).Runs phase values
      (Evaluate.counted limit span inside) (Evaluate.counted limit span inside') := by
  intro store store' stores
  have sameDepth := calling_accounting.depth stores
  simp only [Evaluate.counted, Evaluate.enterCall, Run.orAt, Run.mapError, bind, EStateM.bind,
    Run.get_apply, ← sameDepth]
  by_cases admitted : store.callDepth < limit
  · rw [if_pos admitted]
    obtain ⟨inner, _, entered, leave⟩ := calling_accounting.enter stores admitted
    exact Corresponds.ensuring (corresponds inner _ _ entered) leave
  · rw [if_neg admitted]
    exact .failed stores (BareErrors.orAt ⟨⟨_, .of_plain rfl, rfl⟩, rfl⟩ rfl)

theorem corresponds_accounted_import (host : Host) (name : String) (span : Span) :
    (accounting limit).Runs phase (accounting limit).Values
      (Evaluate.importLibrary host below name span)
      (Evaluate.importLibrary host below' name span) := by
  rintro store _ ⟨rfl, defined, accounted⟩
  have stores : (accounting limit).Stores phase store store := ⟨rfl, defined, accounted⟩
  have loading := loading_accounting name stores
  refine Evaluate.outcomes_importLibrary host (optionRel_self fun _ _ => rfl) rfl stores rfl
    fun _ _ => ?_
  exact Evaluate.outcomes_of_loads loading (Evaluate.loads_load host loading
    (fun library _ _ => alike.libraries _ name library) rfl)

end Accounting

/-- An interpreter that watches the depth does what the interpreter does. -/
theorem alike_depthWatchingInterpreter (host : Host) (budget : Nat) :
    AlikeInDepth host.maxCallDepth (interpreter host budget)
      (depthWatchingInterpreter host budget) := by
  induction budget with
  | zero => exact ⟨fun _ => interpreters_exhausted trivial,
      fun _ _ _ _ _ _ _ _ stores => .exhausted stores trivial⟩
  | succ budget ih =>
    refine ⟨fun phase => ?_, fun phase name library context context' blocks => ?_⟩
    · have above : (accounting host.maxCallDepth).Interpreters phase .same
          (.above host (interpreter host budget) budget)
          (.above host (depthWatchingInterpreter host budget) budget) := by
        refine .above (ih.parts phase) throughout_accounting.exprs
          throughout_accounting.statements calling_accounting id
          (fun inner _ => ⟨ih.parts inner, id⟩) throughout_accounting.made ?_ fun _ => .inl rfl
        rintro name span _ _ ⟨⟩
        exact corresponds_accounted_import ih host name span
      exact {
        evaluate := fun contexts exprs => corresponds_depthWatched (above.evaluate contexts exprs)
        execute := fun blocks statements =>
          corresponds_depthWatched (above.execute blocks statements)
        call := by
          intro function function' arguments arguments' span span' functions values spans
          cases identity_values_iff.mp functions
          cases List.forall₂_eq_eq_eq ▸ identity_values_eq ▸ values
          cases spans
          refine corresponds_depthWatched ?_
          cases function with
          | function ref =>
            exact corresponds_counted span fun inner =>
              corresponds_depthWatched (corresponds_insideCall ih ref arguments span)
          | _ => exact .failAt (.of_plain rfl) rfl
        importLibrary := by
          rintro name span _ _ ⟨⟩
          exact corresponds_depthWatched (corresponds_accounted_import ih host name span)
        patience := fun _ => .inl rfl }
    · exact corresponds_depthWatched (Evaluate.corresponds_program (ih.parts phase) blocks
        (fun _ _ same => congrArg Statement.span same) (forall₂_self fun _ _ => rfl))

/-! ## Balanced computations -/

/-- A computation does the same when its depth is watched, so that there are never too many
calls active, and whatever comes of it as many calls are active in the end and the same
libraries in flight as in the beginning. -/
structure Run.Balanced {α : Type} (watched plain : Run α) (store : Store) : Prop where
  unnoted : watched store = plain store
  depth : (finalStore (plain store)).callDepth = store.callDepth
  loading : (finalStore (plain store)).loading = store.loading

theorem balanced_of_corresponds {α : Type} {limit : Nat} {values : α → α → Prop}
    {watched plain : Run α}
    (corresponds : ∀ phase, (accounting limit).Runs phase values plain watched)
    (same : ∀ {value value'}, values value value' → value = value')
    {store : Store}
    (admitted : store.callDepth ≤ limit) :
    Run.Balanced watched plain store := by
  have outcomes := corresponds ⟨store.callDepth, store.loading⟩ store store
    ⟨rfl, fun _ callable _ => by cases callable <;> trivial, rfl, rfl, admitted⟩
  constructor <;> generalize plain store = result, watched store = result' at outcomes
  · cases outcomes with
    | ok stores related => rw [same related, stores.same]
    | failed stores related => rw [related.eq fun _ _ => id, stores.same]
    | exhausted stores => rw [stores.same]
    | stopped _ guarded => exact False.elim guarded
  · cases outcomes with
    | ok stores | failed stores | exhausted stores | stopped stores => exact stores.place.depth
  · cases outcomes with
    | ok stores | failed stores | exhausted stores | stopped stores => exact stores.place.loading

theorem Correspondence.Signals.eq {limit : Nat} (inLoop : Bool) {signal signal' : Signal}
    (signals : (accounting limit).Signals inLoop signal signal') : signal = signal' := by
  cases signals with
  | normal | breakLoop | continueLoop => rfl
  | returned values => rw [identity_values_iff.mp values]

/-- As many calls can be counted as there are left to the limit. -/
theorem Evaluate.enterCalls_succeeds_iff (limit count : Nat) {store : Store}
    (admitted : store.callDepth ≤ limit) :
    (∃ entered, enterCalls limit count store = .ok () entered) ↔
      store.callDepth + count ≤ limit := by
  induction count generalizing store with
  | zero => exact ⟨fun _ => admitted, fun _ => ⟨store, rfl⟩⟩
  | succ count ih =>
    simp only [enterCalls, enterCall, bind, EStateM.bind, Run.get_apply]
    by_cases deeper : store.callDepth < limit
    · rw [if_pos deeper]
      have entered : { store with callDepth := store.callDepth + 1 }.callDepth ≤ limit := deeper
      exact (ih entered).trans (by simp only; omega)
    · rw [if_neg deeper]
      refine ⟨?_, fun within => absurd within (by omega)⟩
      rintro ⟨_, failed⟩
      cases failed

/-- A session is balanced, whatever comes of its requests. -/
theorem balanced_session (host : Host) (requests : List (Nat × Request)) {store : Store}
    (admitted : store.callDepth ≤ host.maxCallDepth) :
    session (depthWatchingInterpreter host) requests store =
        session (interpreter host) requests store ∧
      (session (interpreter host) requests store).callDepth = store.callDepth ∧
      (session (interpreter host) requests store).loading = store.loading := by
  induction requests generalizing store with
  | nil => exact ⟨rfl, rfl, rfl⟩
  | cons first rest ih =>
    obtain ⟨budget, request⟩ := first
    have alike := alike_depthWatchingInterpreter host budget
    have balanced : Run.Balanced (request.perform (depthWatchingInterpreter host budget))
        (request.perform (interpreter host budget)) store :=
      balanced_of_corresponds
        (fun phase => request.corresponds_perform lawful_accounting (alike.parts phase))
        (fun _ => rfl) admitted
    obtain ⟨unnoted, depth, loading⟩ := ih (balanced.depth ▸ admitted)
    simp only [session, balanced.unnoted]
    exact ⟨unnoted, depth.trans balanced.depth, loading.trans balanced.loading⟩

/-- Everything that an interpreter can be asked for is balanced, from every store in which no
more calls are active than the host admits; so after every session, whatever failed in it, as
many calls can be made one inside of the other as before it. -/
theorem call_accounting_balanced (host : Host) (budget : Nat) (store : Store)
    (admitted : store.callDepth ≤ host.maxCallDepth) :
    let plain := interpreter host budget
    let watched := depthWatchingInterpreter host budget
    (∀ context expr,
      Run.Balanced (watched.evaluate context expr) (plain.evaluate context expr) store) ∧
    (∀ context statement,
      Run.Balanced (watched.execute context statement) (plain.execute context statement) store) ∧
    (∀ context program,
      Run.Balanced (Evaluate.program watched context program) (Evaluate.program plain context program)
        store) ∧
    (∀ function arguments span,
      Run.Balanced (watched.call function arguments span) (plain.call function arguments span)
        store) ∧
    (∀ name span,
      Run.Balanced (watched.importLibrary name span) (plain.importLibrary name span) store) ∧
    ∀ requests,
      let after := session (interpreter host) requests store
      session (depthWatchingInterpreter host) requests store = after ∧
      after.callDepth = store.callDepth ∧ after.loading = store.loading ∧
      ∀ count, (∃ entered, Evaluate.enterCalls host.maxCallDepth count after = .ok () entered) ↔
        store.callDepth + count ≤ host.maxCallDepth := by
  intro plain watched
  have parts := (alike_depthWatchingInterpreter host budget).parts
  refine ⟨fun context expr => ?_, fun context statement => ?_, fun context program => ?_,
    fun function arguments span => ?_, fun name span => ?_, fun requests => ?_⟩
  · exact balanced_of_corresponds
      (fun phase => (parts phase).evaluate (identity_contexts_iff.mpr rfl) rfl)
      identity_values_iff.mp admitted
  · exact balanced_of_corresponds (fun phase => (parts phase).execute (identity_blocks context) rfl)
      (Correspondence.Signals.eq true) admitted
  · exact balanced_of_corresponds
      (fun phase => Evaluate.corresponds_program (parts phase) (identity_blocks context)
        (fun _ _ same => congrArg Statement.span same) (forall₂_self fun _ _ => rfl))
      (fun _ => rfl) admitted
  · exact balanced_of_corresponds
      (fun phase => (parts phase).call (identity_values_iff.mpr rfl)
        (forall₂_self fun _ _ => identity_values_iff.mpr rfl) rfl)
      identity_values_iff.mp admitted
  · exact balanced_of_corresponds (fun phase => (parts phase).importLibrary trivial rfl)
      identity_values_iff.mp admitted
  · obtain ⟨unnoted, depth, loading⟩ := balanced_session host requests admitted
    refine ⟨unnoted, depth, loading, fun count => ?_⟩
    rw [← depth]
    exact Evaluate.enterCalls_succeeds_iff _ count (depth ▸ admitted)

namespace Recursion

/-- A place in no file. -/
def place : Span :=
  { file := "", start := Position.start, stop := Position.start }

/-- `$f();` -/
def calling : Statement :=
  .node place (.expression (.node place
    (.call (.node place (.reference (.node place (.variable "f")))) [])))

/-- `function f() { $f(); } $f();` -/
def endless : Program :=
  { metadata := OrderedMap.empty
    statements := [.node place (.declareFunction (.node (some "f") [] (.block [calling]) place)),
      calling] }

/-- The program runs with the first object and the first frame. -/
def context : Context :=
  { root := { index := 0 }, scope := { inner := { index := 0 }, outer := [] } }

end Recursion

/-- A recursion that goes too deep fails, and all calls are possible again. -/
theorem call_accounting_balanced_recursion :
    let host : Host := { maxCallDepth := 1 }
    let started := session (interpreter host) [(20, .start [])] Store.empty
    let endless := Recursion.endless.statements
    (∃ error after,
      Evaluate.program (interpreter host 20) Recursion.context endless started =
          .error (.error error) after ∧
        error.rootCause.kind = .callDepthExceeded 1) ∧
      started.callDepth ≤ host.maxCallDepth ∧
      Run.Balanced (Evaluate.program (depthWatchingInterpreter host 20) Recursion.context endless)
        (Evaluate.program (interpreter host 20) Recursion.context endless) started ∧
      ∃ entered, Evaluate.enterCalls host.maxCallDepth 1
        (session (interpreter host) [(20, .execute Recursion.context Recursion.endless)] started) =
          .ok () entered := by
  intro host started endless
  have admitted : started.callDepth ≤ host.maxCallDepth := Nat.zero_le 1
  obtain ⟨_, _, programs, _, _, sessions⟩ := call_accounting_balanced host 20 started admitted
  refine ⟨⟨_, _, rfl, rfl⟩, admitted, programs Recursion.context endless, ?_⟩
  exact ((sessions [(20, .execute Recursion.context Recursion.endless)]).2.2.2 1).mpr (Nat.le_refl 1)

end PatchScript
