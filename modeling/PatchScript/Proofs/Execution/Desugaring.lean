import PatchScript.Proofs.Evaluate.Budget

/-!
# Compound assignments and steps

A compound assignment does what the assignment of the operator applied to the old value does, if
the parts of the target can be evaluated twice.  A step up or down is a compound assignment with
one.

Longer expressions need more budget.  More budget changes nothing unless it was used up, so what an
expression evaluates to can be said without a budget (`Evaluates`).
-/

namespace PatchScript

variable {α β : Type} {host : Host} {context : Context} {store : Store}

/-! ## Evaluation without a budget -/

/-- An expression is evaluated with some budget, and does not use it up. -/
def Evaluates (host : Host) (context : Context) (store : Store) (expr : Expr)
    (result : EStateM.Result Fault Store Value) : Prop :=
  (∃ budget, (interpreter host budget).evaluate context expr store = result) ∧
    ∀ after, result ≠ .error .outOfFuel after

theorem evaluates_of_ok {expr : Expr} (budget : Nat) {value : Value} {after : Store}
    (ends : (interpreter host budget).evaluate context expr store = .ok value after) :
    Evaluates host context store expr (.ok value after) := by
  refine ⟨⟨budget, ends⟩, fun _ stopped => ?_⟩
  cases stopped

theorem Evaluates.eventually {expr : Expr} {result : EStateM.Result Fault Store Value}
    (evaluates : Evaluates host context store expr result) :
    ∃ least, ∀ budget ≥ least, (interpreter host budget).evaluate context expr store = result := by
  obtain ⟨⟨least, ends⟩, unstopped⟩ := evaluates
  refine ⟨least, fun budget le => ?_⟩
  have runs (start : Option Store) := (alike_of_le host le start).parts.evaluate
    (Correspondence.identity_contexts_iff.mpr (rfl : context = context)) (rfl : expr = expr)
  exact (Run.spares_of_runs runs Correspondence.identity_values_iff.mp).eq_of_ends ends unstopped

/-- A reference stands for a place: a variable or a bare name for itself, any other reference for
what its parts are evaluated to without an effect on the store. -/
inductive Settles (host : Host) (context : Context) (store : Store) : Reference → Place → Prop where
  | named {span name} : Settles host context store (.node span (.variable name)) (.variable name)
  | bare {span name} : Settles host context store (.node span (.bare name)) (.bare name)
  | property {span target name container} :
    Evaluates host context store target (.ok container store) →
    Settles host context store (.node span (.property target name)) (.property container name)
  | index {span target key container found} :
    Evaluates host context store target (.ok container store) →
    Evaluates host context store key (.ok found store) →
    Settles host context store (.node span (.index target key)) (.index container found)

theorem Settles.eventually {target : Reference} {place : Place}
    (settles : Settles host context store target place) :
    ∃ least, ∀ budget ≥ least,
      Place.resolve (interpreter host budget) context target store = .ok place store := by
  cases settles with
  | named | bare => exact ⟨0, fun _ _ => rfl⟩
  | property container =>
    obtain ⟨least, ends⟩ := container.eventually
    exact ⟨least, fun budget le => bind_of_ok (ends budget le)⟩
  | index container key =>
    obtain ⟨least, ends⟩ := container.eventually
    obtain ⟨least', ends'⟩ := key.eventually
    refine ⟨max least least', fun budget le => ?_⟩
    exact (bind_of_ok (ends budget (by omega))).trans (bind_of_ok (ends' budget (by omega)))

/-! ## Errors of the same kinds -/

/-- The same value and store, or errors that differ only in where they stand, in the same store. -/
inductive SameKinds :
    EStateM.Result Fault Store α → EStateM.Result Fault Store α → Prop where
  | same {result} : SameKinds result result
  | error {error error' after} :
      error.layers.map ErrorLayer.kind = error'.layers.map ErrorLayer.kind →
      SameKinds (.error (.error error) after) (.error (.error error') after)

namespace SameKinds

variable {first second : Run α} {next next' : α → Run β}

theorem bind (alike : SameKinds (first store) (second store))
    (rest : ∀ value after, SameKinds (next value after) (next' value after)) :
    SameKinds ((first >>= next) store) ((second >>= next') store) := by
  simp only [Bind.bind, EStateM.bind]
  generalize first store = result, second store = result' at alike
  cases alike with
  | same =>
    cases result with
    | ok value after => exact rest value after
    | error fault after => exact .same
  | error kinds => exact .error kinds

theorem orAt (computation : Run α) (span span' : Span) (store : Store) :
    SameKinds (Run.orAt span computation store) (Run.orAt span' computation store) := by
  simp only [Run.orAt, Run.mapError]
  generalize computation store = result
  split
  · exact .error rfl
  · exact .same

variable {result result' : EStateM.Result Fault Store α} (alike : SameKinds result result')
include alike

theorem unstopped (ends : ∀ after, result ≠ .error .outOfFuel after) (after : Store) :
    result' ≠ .error .outOfFuel after := by
  cases alike with
  | same => exact ends after
  | error =>
    intro stopped
    cases stopped

theorem symm : SameKinds result' result := by
  cases alike with
  | same => exact .same
  | error kinds => exact .error kinds.symm

end SameKinds

/-- Two expressions evaluate to the same, up to the places of errors. -/
def EvaluateAlike (host : Host) (context : Context) (store : Store) (expr expr' : Expr) : Prop :=
  (∀ result, Evaluates host context store expr result →
    ∃ result', Evaluates host context store expr' result' ∧ SameKinds result result') ∧
  ∀ result', Evaluates host context store expr' result' →
    ∃ result, Evaluates host context store expr result ∧ SameKinds result result'

/-- It suffices that the second expression, with one more unit of budget, does what the first
does. -/
theorem EvaluateAlike.of_budgets {expr expr' : Expr} {least : Nat}
    (alike : ∀ budget ≥ least,
      SameKinds ((interpreter host budget).evaluate context expr store)
        ((interpreter host (budget + 1)).evaluate context expr' store)) :
    EvaluateAlike host context store expr expr' := by
  constructor
  · intro result evaluates
    obtain ⟨least', ends⟩ := evaluates.eventually
    have same := alike (max least least') (le_max_left ..)
    rw [ends _ (le_max_right ..)] at same
    exact ⟨_, ⟨⟨_, rfl⟩, same.unstopped evaluates.2⟩, same⟩
  · intro result' evaluates
    obtain ⟨least', ends⟩ := evaluates.eventually
    have same := alike (max least least') (le_max_left ..)
    rw [ends _ (by omega)] at same
    exact ⟨_, ⟨⟨_, rfl⟩, same.symm.unstopped evaluates.2⟩, same⟩

/-! ## Compound assignments -/

section Assignments

variable {target target' : Reference} {place : Place}

/-- The assignment of an operator applied to the value of a reference and another value. -/
def spelledOut (target target' : Reference) (op : BinaryOp) (value : Expr)
    (span inner read : Span) : Expr :=
  .node span (.assign target none (.node inner (.binary op (.node read (.reference target')) value)))

theorem sameKinds_spelledOut {budget : Nat}
    (settles : ∀ extra,
      Place.resolve (interpreter host (budget + extra)) context target store = .ok place store)
    (settles' : Place.resolve (interpreter host budget) context target' store = .ok place store)
    (op : BinaryOp) (value : Expr) (span span' inner read : Span) :
    SameKinds
      ((interpreter host (budget + 2)).evaluate context
        (.node span (.assign target (some op) value)) store)
      ((interpreter host (budget + 3)).evaluate context
        (spelledOut target target' op value span' inner read) store) := by
  have old : (interpreter host (budget + 1)).evaluate context (.node read (.reference target')) store =
      Run.orAt target'.span (place.get context) store :=
    bind_of_ok settles'
  -- Both read the old value first, and evaluate the operand with the same budget.
  have computed : SameKinds
      (Evaluate.assignedValue (interpreter host (budget + 1)) context place target (some op) value
        span store)
      ((interpreter host (budget + 2)).evaluate context
        (.node inner (.binary op (.node read (.reference target')) value)) store) := by
    refine .bind ?_ fun first middle => .bind .same fun second after => .orAt _ _ _ _
    rw [old]
    exact .orAt _ _ _ _
  change SameKinds ((Place.resolve (interpreter host (budget + 1)) context target >>= _) store)
    ((Place.resolve (interpreter host (budget + 2)) context target >>= _) store)
  rw [bind_of_ok (settles 1), bind_of_ok (settles 2)]
  exact computed.bind fun _ _ => .same

theorem evaluateAlike_spelledOut (settles : Settles host context store target place)
    (settles' : Settles host context store target' place)
    (op : BinaryOp) (value : Expr) (span span' inner read : Span) :
    EvaluateAlike host context store (.node span (.assign target (some op) value))
      (spelledOut target target' op value span' inner read) := by
  obtain ⟨least, resolves⟩ := settles.eventually
  obtain ⟨least', resolves'⟩ := settles'.eventually
  refine .of_budgets fun budget (enough : budget ≥ max least least' + 2) => ?_
  obtain ⟨extra, rfl⟩ := Nat.exists_eq_add_of_le enough
  rw [show max least least' + 2 + extra = max least least' + extra + 2 by omega]
  exact sameKinds_spelledOut (fun _ => resolves _ (by omega)) (resolves' _ (by omega)) ..

/-! ## Steps -/

/-- The number one above or one below. -/
def stepped (increment : Bool) (x : Float) : Float :=
  if increment then x + 1 else x - 1

/-- The operator that steps by one. -/
def steppingOp (increment : Bool) : BinaryOp :=
  if increment then .add else .sub

/-- A number is read, stepped and written back. -/
def Steps (below : Interpreter) (context : Context) (target : Reference) (increment : Bool)
    (store : Store) (x : Float) (after : Store) : Prop :=
  ∃ place middle read, Place.resolve below context target store = .ok place middle ∧
    place.get context middle = .ok (.number x) read ∧
    place.set context (.number (stepped increment x)) read = .ok () after

variable {below : Interpreter} {increment : Bool} {after : Store} {value : Value}

/-- The number that is read is the value of the reference. -/
theorem Steps.exists_expression {x : Float}
    (steps : Steps below context target increment store x after) (read : Span) :
    ∃ middle, Evaluate.expression below context (.node read (.reference target)) store =
      .ok (.number x) middle := by
  obtain ⟨place, middle, after, resolved, found, -⟩ := steps
  exact ⟨after, (bind_of_ok resolved).trans (Run.mapError_eq_ok_iff.mpr found)⟩

theorem numberAt_eq_ok_iff {x : Float} :
    Evaluate.numberAt context place store = .ok x after ↔
      place.get context store = .ok (.number x) after := by
  rw [Evaluate.numberAt, bind_eq_ok_iff]
  constructor
  · rintro ⟨value, middle, found, isNumber⟩
    cases value <;> cases isNumber
    exact found
  · intro found
    exact ⟨_, _, found, rfl⟩

theorem update_eq_ok_iff {yieldsNew : Bool} :
    Evaluate.update below context target increment yieldsNew store = .ok value after ↔
      ∃ x, Steps below context target increment store x after ∧
        value = .number (if yieldsNew then stepped increment x else x) := by
  simp only [Evaluate.update, Run.orAt, bind_eq_ok_iff, Run.mapError_eq_ok_iff, numberAt_eq_ok_iff]
  constructor
  · rintro ⟨place, middle, resolved, x, read, found, ⟨⟩, written, stored, ⟨⟩⟩
    exact ⟨x, ⟨place, middle, read, resolved, found, stored⟩, rfl⟩
  · rintro ⟨x, ⟨place, middle, read, resolved, found, stored⟩, rfl⟩
    exact ⟨place, middle, resolved, x, read, found, (), after, stored, rfl⟩

theorem binary_one_eq_ok_iff {old : Value} :
    Operator.binary (steppingOp increment) old (.number 1) store = .ok value after ↔
      ∃ x, old = .number x ∧ value = .number (stepped increment x) ∧ store = after := by
  constructor
  · intro computed
    cases increment <;> cases old <;> cases computed <;> exact ⟨_, rfl, rfl, rfl⟩
  · rintro ⟨x, rfl, rfl, rfl⟩
    cases increment <;> rfl

theorem assign_one_eq_ok_iff {one span : Span}
    (literal : ∀ store, below.evaluate context (.node one (.literal (.number 1))) store =
      .ok (.number 1) store) :
    Evaluate.assign below context target (some (steppingOp increment))
        (.node one (.literal (.number 1))) span store = .ok value after ↔
      ∃ x, Steps below context target increment store x after ∧
        value = .number (stepped increment x) := by
  simp only [Evaluate.assign, Evaluate.assignedValue, Run.orAt, bind_eq_ok_iff,
    Run.mapError_eq_ok_iff, literal]
  constructor
  · rintro ⟨place, middle, resolved, _, _, ⟨_, read, found, _, _, ⟨⟩, computed⟩, ⟨⟩, _, stored, ⟨⟩⟩
    obtain ⟨x, rfl, rfl, rfl⟩ := binary_one_eq_ok_iff.mp computed
    exact ⟨x, ⟨place, middle, read, resolved, found, stored⟩, rfl⟩
  · rintro ⟨x, ⟨place, middle, read, resolved, found, stored⟩, rfl⟩
    exact ⟨place, middle, resolved, _, read,
      ⟨_, read, found, _, read, rfl, binary_one_eq_ok_iff.mpr ⟨x, rfl, rfl, rfl⟩⟩, (), after,
      stored, rfl⟩

theorem evaluates_update_iff {yieldsNew : Bool} {span : Span} :
    Evaluates host context store (.node span (.update target increment yieldsNew))
        (.ok value after) ↔
      ∃ budget x, Steps (interpreter host (budget + 1)) context target increment store x after ∧
        value = .number (if yieldsNew then stepped increment x else x) := by
  constructor
  · intro evaluates
    obtain ⟨least, ends⟩ := evaluates.eventually
    exact ⟨least, update_eq_ok_iff.mp (ends (least + 2) (by omega))⟩
  · rintro ⟨budget, steps⟩
    exact evaluates_of_ok (budget + 2) (update_eq_ok_iff.mpr steps)

theorem evaluates_assign_one_iff {one span : Span} :
    Evaluates host context store
        (.node span (.assign target (some (steppingOp increment))
          (.node one (.literal (.number 1))))) (.ok value after) ↔
      ∃ budget x, Steps (interpreter host (budget + 1)) context target increment store x after ∧
        value = .number (stepped increment x) := by
  constructor
  · intro evaluates
    obtain ⟨least, ends⟩ := evaluates.eventually
    exact ⟨least, (assign_one_eq_ok_iff fun _ => rfl).mp (ends (least + 2) (by omega))⟩
  · rintro ⟨budget, steps⟩
    exact evaluates_of_ok (budget + 2) ((assign_one_eq_ok_iff fun _ => rfl).mpr steps)

end Assignments

/-- A compound assignment evaluates as the assignment of the operator applied to the old value, if
the parts of the target are evaluated twice to the same place without an effect.  A step that yields
the new number succeeds with what the compound assignment with one succeeds with; a step that yields
the old number has the same effect. -/
theorem compound_assignments_desugar (host : Host) (context : Context) (store : Store) :
    (∀ target target' place, Settles host context store target place →
      Settles host context store target' place →
      ∀ op value span span' inner read,
        EvaluateAlike host context store (.node span (.assign target (some op) value))
          (spelledOut target target' op value span' inner read)) ∧
    (∀ target increment span span' one value after,
      Evaluates host context store (.node span (.update target increment true)) (.ok value after) ↔
        Evaluates host context store
          (.node span' (.assign target (some (steppingOp increment))
            (.node one (.literal (.number 1))))) (.ok value after)) ∧
    ∀ target increment span span' read value after,
      Evaluates host context store (.node span (.update target increment false)) (.ok value after) ↔
        ∃ x, value = .number x ∧
          (∃ middle, Evaluates host context store (.node read (.reference target))
            (.ok (.number x) middle)) ∧
          Evaluates host context store (.node span' (.update target increment true))
            (.ok (.number (stepped increment x)) after) := by
  refine ⟨fun _ _ _ settles settles' => evaluateAlike_spelledOut settles settles',
    fun _ _ _ _ _ _ _ => evaluates_update_iff.trans evaluates_assign_one_iff.symm, ?_⟩
  intro target increment span span' read value after
  constructor
  · intro evaluates
    obtain ⟨budget, x, steps, rfl⟩ := evaluates_update_iff.mp evaluates
    obtain ⟨middle, found⟩ := steps.exists_expression read
    exact ⟨x, rfl, ⟨middle, evaluates_of_ok (budget + 2) found⟩,
      evaluates_update_iff.mpr ⟨budget, x, steps, rfl⟩⟩
  · rintro ⟨x, rfl, ⟨middle, reads⟩, evaluates⟩
    obtain ⟨least, found⟩ := reads.eventually
    obtain ⟨least', ends⟩ := evaluates.eventually
    obtain ⟨x', steps, -⟩ := update_eq_ok_iff.mp (ends (max least least' + 2) (by omega))
    obtain ⟨middle', found'⟩ := steps.exists_expression read
    cases (found (max least least' + 2) (by omega)).symm.trans found'
    exact evaluates_update_iff.mpr ⟨_, x, steps, rfl⟩

/-- The entry of the document that the example assigns to. -/
def noted : Reference :=
  .node default (.index (.node default .root) (.node default (.literal (.string "note"))))

/-- An operand that overwrites the entry. -/
def overwriting : Expr :=
  .node default (.assign noted none (.node default (.literal (.string "b"))))

def notedStore : Store :=
  (Store.empty.addObject (OrderedMap.empty.insert "note" (.string "a"))).2

/-- The old value is read before the operand overwrites it. -/
theorem compound_assignments_desugar_overwritten :
    ∃ after, Evaluates {} default notedStore
      (spelledOut noted noted .add overwriting default default default) (.ok (.string "ab") after) := by
  have settles : Settles {} default notedStore noted (.index (.object ⟨0⟩) (.string "note")) :=
    .index (evaluates_of_ok 1 rfl) (evaluates_of_ok 1 rfl)
  obtain ⟨after, evaluates⟩ : ∃ after, Evaluates {} default notedStore
      (.node default (.assign noted (some .add) overwriting)) (.ok (.string "ab") after) :=
    ⟨_, evaluates_of_ok 6 rfl⟩
  obtain ⟨result, spelled, ⟨⟩⟩ := ((compound_assignments_desugar {} default notedStore).1 noted noted _
    settles settles .add overwriting default default default default).1 _ evaluates
  exact ⟨after, spelled⟩

end PatchScript
