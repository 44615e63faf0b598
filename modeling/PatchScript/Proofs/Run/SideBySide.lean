import PatchScript.Proofs.Run.Conduct
import PatchScript.Proofs.Run.Correspondence

/-!
# Computations side by side

Two computations correspond if, from corresponding stores, they end in the same way: with
corresponding values or corresponding errors, and with stores that correspond again.  The
combinators of computations keep this, given that they do it on both sides.
-/

namespace PatchScript

namespace Correspondence

variable (rel : Correspondence)

/-- Two computations ended alike: with values, or in another way, where the stores may be
in another phase. -/
inductive Outcomes {α β : Type} (finished broken : rel.Phase)
    (errors : EvalError → EvalError → Prop) (values : α → β → Prop) :
    EStateM.Result Fault Store α → EStateM.Result Fault Store β → Prop where
  | ok {value : α} {value' : β} {store store' : Store} :
    rel.Stores finished store store' → values value value' →
    Outcomes finished broken errors values (.ok value store) (.ok value' store')
  | failed {error error' : EvalError} {store store' : Store} :
    rel.Stores broken store store' → errors error error' →
    Outcomes finished broken errors values (.error (.error error) store)
      (.error (.error error') store')
  | exhausted {store store' : Store} :
    rel.Stores broken store store' → rel.exhausts →
    Outcomes finished broken errors values (.error .outOfFuel store) (.error .outOfFuel store')
  /-- The first one was stopped. -/
  | stopped {store store' : Store} {result' : EStateM.Result Fault Store β} {guarded : rel.Phase} :
    rel.Stores broken store store' → rel.Guarded guarded →
    Outcomes finished broken errors values (.error .outOfFuel store) result'

/-- However two computations ended alike, the stores they left behind correspond. -/
theorem Outcomes.finalStores {rel : Correspondence} {α β : Type} {phase : rel.Phase}
    {errors : EvalError → EvalError → Prop} {values : α → β → Prop}
    {result : EStateM.Result Fault Store α} {result' : EStateM.Result Fault Store β}
    (outcomes : rel.Outcomes phase phase errors values result result')
    (unguarded : ∀ phase, ¬ rel.Guarded phase) :
    rel.Stores phase (Run.finalStore result) (Run.finalStore result') := by
  cases outcomes with
  | ok stores | failed stores | exhausted stores => exact stores
  | stopped _ guarded => exact absurd guarded (unguarded _)

/-- Two results that were computed without a store are alike.  They fail for the same
reason, which can be reported. -/
inductive Results {α β : Type}
    (values : α → β → Prop) : Except ErrorKind α → Except ErrorKind β → Prop where
  | ok {value : α} {value' : β} : values value value' → Results values (.ok value) (.ok value')
  | error {kind : ErrorKind} :
    kind.Reportable rel.checked → Results values (.error kind) (.error kind)

end Correspondence

/-- From corresponding stores two computations end alike. -/
def Run.Corresponds {α β : Type} (rel : Correspondence) (phase : rel.Phase)
    (errors : EvalError → EvalError → Prop) (values : α → β → Prop) (first : Run α)
    (second : Run β) : Prop :=
  ∀ store store', rel.Stores phase store store' →
    rel.Outcomes phase phase errors values (first store) (second store')

/-- The same where errors correspond as they are reported. -/
abbrev Correspondence.Runs {α β : Type} (rel : Correspondence) (phase : rel.Phase)
    (values : α → β → Prop) (first : Run α) (second : Run β) : Prop :=
  Run.Corresponds rel phase rel.Errors values first second

namespace Run

variable {α β γ δ : Type} {rel : Correspondence} {phase : rel.Phase}
variable {errors : EvalError → EvalError → Prop} {values : α → β → Prop}

namespace Corresponds

variable {kind : ErrorKind} {first : Run α} {second : Run β} {span span' : Span}

theorem pure {value : α} {value' : β} (related : values value value') :
    Corresponds rel phase errors values (Pure.pure value) (Pure.pure value') :=
  fun _ _ stores => .ok stores related

theorem bind {middle : γ → δ → Prop} {first : Run γ} {second : Run δ} {next : γ → Run α}
    {next' : δ → Run β} (begin : Corresponds rel phase errors middle first second)
    (goesOn : ∀ value value', middle value value' →
      Corresponds rel phase errors values (next value) (next' value')) :
    Corresponds rel phase errors values (first >>= next) (second >>= next') := by
  intro store store' stores
  have outcomes := begin store store' stores
  simp only [Bind.bind, EStateM.bind]
  generalize first store = result, second store' = result' at outcomes
  cases outcomes with
  | ok stores related => exact goesOn _ _ related _ _ stores
  | failed stores related => exact .failed stores related
  | exhausted stores exhausts => exact .exhausted stores exhausts
  | stopped stores guarded => exact .stopped stores guarded

/-- What goes on with the same value on both sides. -/
theorem bindSame {first second : Run γ} {next : γ → Run α} {next' : γ → Run β}
    (begin : Corresponds rel phase errors Eq first second)
    (goesOn : ∀ value, Corresponds rel phase errors values (next value) (next' value)) :
    Corresponds rel phase errors values (first >>= next) (second >>= next') :=
  begin.bind fun value _ same => same ▸ goesOn value

/-- Corresponding computations correspond in any wider sense. -/
theorem imp {widerErrors : EvalError → EvalError → Prop} {widerValues : α → β → Prop}
    (corresponds : Corresponds rel phase errors values first second)
    (forErrors : ∀ error error', errors error error' → widerErrors error error')
    (forValues : ∀ value value', values value value' → widerValues value value') :
    Corresponds rel phase widerErrors widerValues first second := by
  intro store store' stores
  have outcomes := corresponds store store' stores
  generalize first store = result, second store' = result' at outcomes
  cases outcomes with
  | ok stores related => exact .ok stores (forValues _ _ related)
  | failed stores related => exact .failed stores (forErrors _ _ related)
  | exhausted stores exhausts => exact .exhausted stores exhausts
  | stopped stores guarded => exact .stopped stores guarded

theorem ite {condition condition' : Prop} [Decidable condition] [Decidable condition']
    (same : condition ↔ condition') {other : Run α} {first' other' : Run β}
    (whenTrue : condition → Corresponds rel phase errors values first first')
    (whenFalse : ¬ condition → Corresponds rel phase errors values other other') :
    Corresponds rel phase errors values
      (if condition then first else other) (if condition' then first' else other') := by
  by_cases holds : condition
  · rw [if_pos holds, if_pos (same.mp holds)]
    exact whenTrue holds
  · rw [if_neg holds, if_neg (mt same.mpr holds)]
    exact whenFalse holds

theorem read :
    Corresponds rel phase errors (rel.Stores phase) (get : Run Store) (get : Run Store) :=
  fun _ _ stores => .ok stores stores

theorem change {change change' : Store → Store}
    (keeps : ∀ store store', rel.Stores phase store store' →
      rel.Stores phase (change store) (change' store')) :
    Corresponds rel phase errors (fun _ _ => True) (modify change : Run PUnit)
      (modify change' : Run PUnit) :=
  fun store store' stores => .ok (keeps store store' stores) trivial

theorem changeGet {change : Store → α × Store} {change' : Store → β × Store}
    (keeps : ∀ store store', rel.Stores phase store store' →
      values (change store).1 (change' store').1 ∧
        rel.Stores phase (change store).2 (change' store').2) :
    Corresponds rel phase errors values (modifyGet change : Run α) (modifyGet change' : Run β) :=
  fun store store' stores => .ok (keeps store store' stores).2 (keeps store store' stores).1

theorem fail {kind' : ErrorKind}
    (related : errors (EvalError.ofKind kind) (EvalError.ofKind kind')) :
    Corresponds rel phase errors values (Run.fail kind) (Run.fail kind') :=
  fun _ _ stores => .failed stores related

theorem failAt (reportable : kind.Reportable rel.checked) (spans : rel.Spans span span') :
    rel.Runs phase values (Run.failAt kind span) (Run.failAt kind span') :=
  fun _ _ stores => .failed stores (Correspondence.errors_ofKindAt reportable spans)

theorem outOfFuel (exhausts : rel.exhausts) :
    Corresponds rel phase errors values (throw .outOfFuel) (throw .outOfFuel) :=
  fun _ _ stores => .exhausted stores exhausts

theorem lift {result : Except ErrorKind α} {result' : Except ErrorKind β}
    (results : rel.Results values result result') :
    Corresponds rel phase rel.BareErrors values (Run.lift result) (Run.lift result') := by
  cases results with
  | ok related => exact .pure related
  | error reportable => exact .fail ⟨⟨_, reportable, rfl⟩, rfl⟩

/-- Errors may be changed as long as they still correspond. -/
theorem mapError {inner : EvalError → EvalError → Prop} {change change' : EvalError → EvalError}
    (corresponds : Corresponds rel phase inner values first second)
    (changed : ∀ error error', inner error error' → errors (change error) (change' error')) :
    Corresponds rel phase errors values (Run.mapError change first)
      (Run.mapError change' second) := by
  intro store store' stores
  have outcomes := corresponds store store' stores
  simp only [Run.mapError]
  generalize first store = result, second store' = result' at outcomes
  cases outcomes with
  | ok stores related => exact .ok stores related
  | failed stores related => exact .failed stores (changed _ _ related)
  | exhausted stores exhausts => exact .exhausted stores exhausts
  | stopped stores guarded => exact .stopped stores guarded

/-- A place makes a bare error a located one. -/
theorem orAt (corresponds : Corresponds rel phase rel.BareErrors values first second)
    (spans : rel.Spans span span') :
    rel.Runs phase values (Run.orAt span first) (Run.orAt span' second) :=
  corresponds.mapError fun _ _ errors => errors.orAt spans

theorem wrapping (corresponds : rel.Runs phase values first second)
    (wraps : kind.isWrapper = true) (spans : rel.Spans span span') :
    rel.Runs phase values (Run.wrapping kind span first) (Run.wrapping kind span' second) :=
  corresponds.mapError fun _ _ errors => errors.wrap wraps spans

/-- A phase that lies inside of another ends with a change of the stores. -/
theorem ensuring {inner : rel.Phase} {change change' : Store → Store} {store store' : Store}
    (outcomes : rel.Outcomes inner inner errors values (first store) (second store'))
    (ends : ∀ store store', rel.Stores inner store store' →
      rel.Stores phase (change store) (change' store')) :
    rel.Outcomes phase phase errors values (Run.ensuring first change store)
      (Run.ensuring second change' store') := by
  simp only [Run.ensuring]
  generalize first store = result, second store' = result' at outcomes
  cases outcomes with
  | ok stores related => exact .ok (ends _ _ stores) related
  | failed stores related => exact .failed (ends _ _ stores) related
  | exhausted stores exhausts => exact .exhausted (ends _ _ stores) exhausts
  | stopped stores guarded => exact .stopped (ends _ _ stores) guarded

/-! ## Lists -/

section Lists

variable {Related : γ → δ → Prop} {items : List γ} {items' : List δ}

theorem mapM {function : γ → Run α} {function' : δ → Run β}
    (related : List.Forall₂ Related items items')
    (each : ∀ item item', Related item item' →
      Corresponds rel phase errors values (function item) (function' item')) :
    Corresponds rel phase errors (List.Forall₂ values) (items.mapM function)
      (items'.mapM function') := by
  induction related with
  | nil => exact .pure .nil
  | cons first _ ih =>
    rw [List.mapM_cons, List.mapM_cons]
    refine (each _ _ first).bind fun _ _ head => ?_
    refine ih.bind fun _ _ tail => ?_
    exact .pure (.cons head tail)

end Lists

end Corresponds
end Run

/-! ## Results without a store -/

namespace Correspondence.Results

variable {rel : Correspondence} {α β γ δ : Type} {values : α → β → Prop}

variable {middle : γ → δ → Prop} {result : Except ErrorKind γ} {result' : Except ErrorKind δ}

theorem bind {next : γ → Except ErrorKind α} {next' : δ → Except ErrorKind β}
    (first : rel.Results middle result result')
    (second : ∀ value value', middle value value' → rel.Results values (next value) (next' value')) :
    rel.Results values (result >>= next) (result' >>= next') := by
  cases first with
  | ok related => exact second _ _ related
  | error reportable => exact .error reportable

theorem map {function : γ → α} {function' : δ → β} (results : rel.Results middle result result')
    (related : ∀ value value', middle value value' → values (function value) (function' value')) :
    rel.Results values (result.map function) (result'.map function') := by
  cases results with
  | ok found => exact .ok (related _ _ found)
  | error reportable => exact .error reportable

end Correspondence.Results
end PatchScript
