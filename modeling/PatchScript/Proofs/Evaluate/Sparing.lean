import PatchScript.Proofs.Evaluate.Uniform
import PatchScript.Proofs.Run.Reflexive

/-!
# Evaluation that spares keys

An interpreter that stops when a statement or a call loses a key that is to be spared.
Everything that it evaluates retains the keys that are to be spared, and unless it stops it
does what the plain interpreter does.

This is a correspondence.  Inside of a statement that deletes, and of a call of the function
that removes a key, nothing is said of keys; all else erases none.
-/

namespace PatchScript

open Correspondence
open Run (ErasesOne Spares finalStore)

variable {spared : Spared} {α β : Type}

/-! ## What erases keys -/

theorem Place.erases_deleteKey (ref : ObjectRef) (key : String) (store : Store) :
    ErasesOne store (Run.finalStore (deleteKey ref key store)) := by
  change ErasesOne store (Run.finalStore ((if (store.object ref).contains key then
    modify fun store => store.modifyObject ref fun entries => entries.erase key
    else Run.fail (.missingKey key) : Run Unit) store))
  split
  · exact .inr ⟨ref, key, rfl⟩
  · exact .inl rfl

theorem Place.erases_delete (context : Context) (place : Place) (store : Store) :
    ErasesOne store (finalStore (place.delete context store)) := by
  unfold delete
  split
  · rw [Run.changeFrames_apply]
    split <;> exact .inl rfl
  · exact erases_deleteKey _ _ store
  · next container name =>
    cases container with
    | object ref => exact erases_deleteKey ref name store
    | null | boolean _ | number _ | string _ | array _ | function _ => exact .inl rfl
  · next ref key =>
    cases key with
    | string key => exact erases_deleteKey ref key store
    | null | boolean _ | number _ | object _ | array _ | function _ => exact .inl rfl
  · next ref key =>
    change ErasesOne store (finalStore ((Run.lift (position key (store.array ref).size) >>= _) store))
    cases position key (store.array ref).size <;> exact .inl rfl
  · exact .inl rfl

/-- To remove a key is to erase it, or nothing is changed. -/
theorem ObjectFunction.erases_remove (arguments : List Value) (store : Store) :
    ErasesOne store (Run.finalStore (body .remove arguments store)) := by
  have removes (function : ObjectFunction) (isRemove : function = .remove) :
      ∀ store, ErasesOne store (Run.finalStore (function.body arguments store)) := by
    unfold body
    split
    case h_4 ref key =>
      intro store
      have read : Run.objectOf ref store = .ok (store.object ref) store := rfl
      rw [bind_of_ok read]
      cases (store.object ref).get? key with
      | none => exact .inl rfl
      | some value => exact .inr ⟨ref, key, rfl⟩
    case h_8 => exact fun _ => .inl rfl
    all_goals cases isRemove
  exact removes .remove rfl store

theorem Native.erases_remove (site : CallSite) (arguments : List Value) (store : Store) :
    ErasesOne store (Run.finalStore ((objects .remove).dispatch site arguments store)) := by
  unfold dispatch
  cases (objects .remove).overload? arguments.length with
  | none => exact .inl rfl
  | some kinds =>
    simp only
    cases (objects .remove).checkArguments 1 kinds arguments with
    | error kind => exact .inl rfl
    | ok _ =>
      simp only
      rw [Run.finalStore_mapError]
      exact ObjectFunction.erases_remove arguments store

namespace Evaluate

/-- A call of the function that removes a key erases it, or nothing is changed. -/
theorem erases_call {limit : Nat} {store : Store} {ref : FunctionRef} {callable : Callable}
    (found : store.function ref = some callable)
    (removes : callable.native? = some (.objects .remove)) (below : Interpreter)
    (arguments : List Value) (span : Span) :
    ErasesOne store (finalStore (call limit below (.function ref) arguments span store)) := by
  by_cases room : store.callDepth < limit
  · rw [call_function_of_lt room, Run.finalStore_ensuring, found]
    cases callable with
    | script definition captured => cases removes
    | native function | bound receiver function =>
      cases removes
      exact Native.erases_remove _ _ { store with callDepth := store.callDepth + 1 }
  · rw [call_function_of_not_lt room]
    exact .inl rfl

end Evaluate

/-! ## The correspondence -/

namespace Correspondence

/-- The correspondence of a run that may be stopped with one that may not.  From a store on,
if one is given, the run retains what is to be spared. -/
def sparing (spared : Spared) : Correspondence :=
  reflexive
    (fun (start : Option Store) store store' =>
      store = store' ∧ start.elim True fun before => before.Retains spared store)
    (fun _ => True) False True fun start => start.isSome = true

variable {start : Option Store} {before store store' after : Store}

theorem retained_later (retained : start.elim True fun before => before.Retains spared store)
    (later : start.isSome = true → store.Retains spared after) :
    start.elim True fun before => before.Retains spared after := by
  cases start with
  | none => trivial
  | some before => exact Store.Retains.trans retained (later rfl)

instance lawful_sparing : (sparing spared).Lawful := by
  apply Loose.lawful
  constructor
  case same => exact fun stores => by rw [stores.1]
  case function => exact fun {_ _ _ _ callable} _ _ => by cases callable <;> trivial
  case heap =>
    exact fun _ _ stores keeps =>
      ⟨by rw [stores.1], retained_later stores.2 fun guarded => keeps guarded spared⟩
  case frames => exact fun stores _ => ⟨by rw [stores.1], retained_later stores.2 fun _ => .of_objects rfl⟩
  case addFunction =>
    exact fun stores _ _ => ⟨by rw [stores.1], retained_later stores.2 fun _ => .of_objects rfl⟩
  case log =>
    exact fun _ stores => ⟨by rw [stores.1], retained_later stores.2 fun _ => .of_objects rfl⟩

theorem uniform_sparing : (sparing spared).Uniform start where
  depth stores := congrArg Store.callDepth stores.1
  loading stores := congrArg Store.loading stores.1
  imports stores := by
    rw [stores.1]
    exact OrderedMap.matches_eq_iff.mpr rfl
  resume stores imports loading depth := by
    refine ⟨?_, retained_later stores.2 fun _ => .of_objects rfl⟩
    rw [stores.1, OrderedMap.matches_eq_iff.mp imports, loading, depth]

theorem throughout_sparing : (sparing spared).Throughout .same :=
  throughout_same (fun _ => rfl) (fun _ _ => and_iff_right trivial) id trivial

section Outcomes

variable {errors : EvalError → EvalError → Prop} {values : α → β → Prop} {computation : Run α}
variable {result : EStateM.Result Fault Store α} {result' : EStateM.Result Fault Store β}

theorem Outcomes.retains
    (outcomes : (sparing spared).Outcomes (some before) (some before) errors values result result') :
    before.Retains spared (finalStore result) := by
  cases outcomes with
  | ok stores | failed stores | exhausted stores | stopped stores => exact stores.2

/-- A computation is stopped if it loses what is to be spared. -/
theorem outcomes_sparing (stores : (sparing spared).Stores start store store')
    (outcomes : store.loses spared (finalStore (computation store)) = false →
      (sparing spared).Outcomes start start errors values (computation store) result') :
    (sparing spared).Outcomes start start errors values (Run.sparing spared computation store)
      result' := by
  simp only [Run.sparing]
  split
  · exact .stopped stores (rfl : (some store).isSome = true)
  · next kept => exact outcomes (Bool.eq_false_iff.mpr kept)

/-- A computation that at last erases a key. -/
theorem outcomes_erasing (retained : before.Retains spared store)
    (reached : store.Retains spared after) (erases : ErasesOne after (finalStore (computation store)))
    (outcomes : (sparing spared).Outcomes none none errors values (computation store) result') :
    (sparing spared).Outcomes (some before) (some before) errors values
      (Run.sparing spared computation store) result' := by
  refine outcomes_sparing ⟨rfl, retained⟩ fun kept => ?_
  have retains : before.Retains spared (finalStore (computation store)) := by
    refine retained.trans ?_
    obtain same | ⟨ref, key, erased⟩ := erases
    · exact reached.trans (.of_objects same)
    · exact reached.of_erased erased kept
  generalize computation store = result at retains outcomes
  cases outcomes with
  | ok stores related => exact .ok ⟨stores.1, retains⟩ related
  | failed stores related => exact .failed ⟨stores.1, retains⟩ related
  | exhausted stores exhausts => exact .exhausted ⟨stores.1, retains⟩ exhausts
  | stopped stores guarded => exact .stopped ⟨rfl, retains⟩ guarded

end Outcomes
end Correspondence

/-- A computation that retains what is to be spared, whatever the store, and corresponds to
another spares. -/
theorem Run.spares_of_runs {values : α → α → Prop} {guarded plain : Run α}
    (runs : ∀ start, (Correspondence.sparing spared).Runs start values guarded plain)
    (same : ∀ {value value'}, values value value' → value = value') :
    Spares spared guarded plain := by
  intro store
  have outcomes := runs (some store) store store ⟨rfl, .refl store⟩
  refine ⟨outcomes.retains, ?_⟩
  generalize guarded store = result, plain store = result' at outcomes
  cases outcomes with
  | ok stores related => exact .inr (by rw [stores.1, same related])
  | failed stores related => exact .inr (by rw [stores.1, related.eq fun _ _ => id])
  | exhausted stores | stopped stores => exact .inl ⟨_, rfl⟩

/-! ## Interpreters -/

/-- Stop an interpreter when a statement or a call loses a key that is to be spared. -/
def Interpreter.sparing (spared : Spared) (inner : Interpreter) : Interpreter :=
  { inner with
    execute := fun context statement => Run.sparing spared (inner.execute context statement)
    call := fun function arguments span => Run.sparing spared (inner.call function arguments span) }

/-- The interpreter with a budget that is stopped, at every level, when a statement or a call
loses a key that is to be spared. -/
def sparingInterpreter (spared : Spared) (host : Host) : Nat → Interpreter
  | 0 => Interpreter.exhausted
  | budget + 1 =>
    (Interpreter.above host (sparingInterpreter spared host budget) budget).sparing spared

section Above

variable {host : Host} {below below' : Interpreter} {before : Store} {context context' : Context}
variable (alike : ∀ start, (sparing spared).Alike start .same below below')

include alike

/-- A statement that deletes is stopped if it loses what is to be spared. -/
theorem Evaluate.runs_sparing_statement (blocks : (sparing spared).Blocks context context')
    (inLoop : Bool) (node : Statement) :
    (sparing spared).Runs (some before) ((sparing spared).Signals inLoop)
      (Run.sparing spared (statement below context node)) (statement below' context' node) := by
  rintro store _ ⟨rfl, retained⟩
  have forms := (@throughout_sparing spared).statements inLoop node node rfl |>.2
  by_cases deletes : ∃ target, node.form = .delete target
  · have agrees := corresponds_statement (alike none).parts blocks rfl forms
      (fun _ _ => Bool.false_ne_true) store store ⟨rfl, trivial⟩
    obtain ⟨target, isDeletion⟩ := deletes
    rw [isDeletion] at forms
    cases forms with
    | delete targets =>
      have resolved := Place.corresponds_resolve (alike (some store)).parts blocks.toContexts targets
        store store ⟨rfl, .refl store⟩
      refine outcomes_erasing retained resolved.retains ?_ agrees
      unfold statement
      simp only [isDeletion, bind, EStateM.bind]
      cases Place.resolve below context target store with
      | error fault after => exact .inl rfl
      | ok place after =>
        change ErasesOne after (finalStore ((Run.orAt _ (place.delete context) >>= _) after))
        rw [Run.finalStore_bind_pure, Run.orAt, Run.finalStore_mapError]
        exact place.erases_delete context after
  · refine outcomes_sparing ⟨rfl, retained⟩ fun _ => ?_
    exact corresponds_statement (alike (some before)).parts blocks rfl forms
      (fun target isDeletion => absurd ⟨target, isDeletion⟩ deletes) store store ⟨rfl, retained⟩

/-- A call is stopped if it loses what is to be spared. -/
theorem Evaluate.runs_sparing_call (limit : Nat) {function function' : Value}
    {arguments arguments' : List Value} {span span' : Span}
    (functions : (sparing spared).Values function function')
    (values : List.Forall₂ (sparing spared).Values arguments arguments')
    (spans : (sparing spared).Spans span span') :
    (sparing spared).Runs (some before) (sparing spared).Values
      (Run.sparing spared (call limit below function arguments span))
      (call limit below' function' arguments' span') := by
  rintro store _ ⟨rfl, retained⟩
  have called (start : Option Store) (stores : (sparing spared).Stores start store store) :=
    outcomes_call (uniform_sparing.calling limit)
      (fun inner (same : inner = start) => same ▸ (alike start).parts)
      throughout_sparing.made functions values spans stores
  by_cases removes : ∃ ref callable, function = .function ref ∧
      store.function ref = some callable ∧ callable.native? = some (.objects .remove)
  · obtain ⟨ref, callable, rfl, found, isRemove⟩ := removes
    refine outcomes_erasing retained (.refl store) (erases_call found isRemove below arguments span)
      (called none ⟨rfl, trivial⟩ ?_)
    rintro _ _ _ rfl guarded
    cases guarded
  · refine outcomes_sparing ⟨rfl, retained⟩ fun _ => called (some before) ⟨rfl, retained⟩ ?_
    exact fun _ ref callable _ _ isFunction found isRemove =>
      removes ⟨ref, callable, isFunction, found, isRemove⟩

end Above

/-- An interpreter may be stopped, and may have less budget. -/
theorem alike_sparingInterpreter (spared : Spared) (host : Host) {budget budget' : Nat}
    (enough : budget ≤ budget') (start : Option Store) :
    (sparing spared).Alike start .same (sparingInterpreter spared host budget)
      (interpreter host budget') := by
  have stops {start : Option Store} {α β : Type} {errors : EvalError → EvalError → Prop}
      {values : α → β → Prop} {plain : Run β} :
      Run.Corresponds (sparing spared) start errors values (throw .outOfFuel) plain :=
    fun store _ stores => .stopped stores (rfl : (some store).isSome = true)
  induction budget generalizing budget' start with
  | zero =>
    exact ⟨⟨fun _ _ => stops, fun _ _ => stops, fun _ _ _ => stops, fun _ _ => stops,
      fun _ => .inr ⟨⟨some .empty, rfl⟩, Nat.zero_le _⟩⟩, fun _ _ _ _ _ => stops⟩
  | succ budget ih =>
    obtain ⟨budget', rfl⟩ := Nat.exists_eq_add_one.mpr (Nat.zero_lt_of_lt enough)
    have fewer : budget ≤ budget' := Nat.le_of_succ_le_succ enough
    have patient : (sparing spared).Patient budget budget' := .inr ⟨⟨some .empty, rfl⟩, fewer⟩
    have alike := ih fewer
    rw [interpreter_succ]
    cases start with
    | none =>
      have above := (alike none).above uniform_sparing throughout_sparing Bool.false_ne_true host
        patient
      refine ⟨{ above.parts with execute := ?_, call := ?_ }, above.libraries⟩
      · exact fun blocks statements _ _ stores =>
          outcomes_sparing stores fun _ => above.parts.execute blocks statements _ _ stores
      · exact fun functions values spans _ _ stores =>
          outcomes_sparing stores fun _ => above.parts.call functions values spans _ _ stores
    | some before =>
      refine ⟨⟨?_, ?_, ?_, ?_, fun _ => patient⟩, fun _ library _ _ blocks => ?_⟩
      · exact fun contexts exprs => Evaluate.corresponds_expression (alike _).parts contexts
          (throughout_sparing.exprs _ _ exprs).1 (throughout_sparing.exprs _ _ exprs).2
      · rintro inLoop _ _ node _ blocks ⟨⟩
        exact Evaluate.runs_sparing_statement alike blocks inLoop node
      · exact Evaluate.runs_sparing_call alike host.maxCallDepth
      · exact fun _ spans => (alike _).importLibrary uniform_sparing host _ spans
      · exact Evaluate.corresponds_program (alike _).parts blocks
          (fun _ _ same => congrArg Statement.span same) (forall₂_self fun _ _ => rfl)

end PatchScript
