import PatchScript.Proofs.Evaluate.Sparing

/-!
# Greater budgets

An interpreter with a greater budget does what the interpreter does, unless that one uses up its
budget.  This is sparing with nothing to spare.
-/

namespace PatchScript

variable {α : Type}

/-- No key is to be spared. -/
def Spared.nothing : Spared :=
  fun _ _ => false

theorem Run.sparing_nothing (computation : Run α) :
    Run.sparing .nothing computation = computation := by
  funext store
  have kept (after : Store) : store.loses .nothing after = false := by
    simp [Store.loses, Store.sparedKeys, Spared.nothing]
  rw [Run.sparing, kept, if_neg Bool.false_ne_true]

theorem sparingInterpreter_nothing (host : Host) (budget : Nat) :
    sparingInterpreter .nothing host budget = interpreter host budget := by
  induction budget with
  | zero => rfl
  | succ budget ih =>
    rw [sparingInterpreter, ih, interpreter_succ, Interpreter.sparing]
    simp only [Run.sparing_nothing]

theorem alike_of_le (host : Host) {budget greater : Nat} (le : budget ≤ greater)
    (start : Option Store) :
    (Correspondence.sparing .nothing).Alike start .same (interpreter host budget)
      (interpreter host greater) := by
  rw [← sparingInterpreter_nothing host budget]
  exact alike_sparingInterpreter _ host le start

/-- A computation that has not used up its budget ends in the same way with a greater one. -/
theorem Run.Spares.eq_of_ends {first second : Run α} (spares : Run.Spares .nothing first second)
    {store : Store} {result : EStateM.Result Fault Store α} (ends : first store = result)
    (unstopped : ∀ after, result ≠ .error .outOfFuel after) : second store = result := by
  obtain ⟨after, stopped⟩ | same := (spares store).agrees
  · exact absurd (ends.symm.trans stopped) (unstopped after)
  · exact same.symm.trans ends

end PatchScript
