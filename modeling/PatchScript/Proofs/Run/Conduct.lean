import PatchScript.Run

/-!
# The conduct of computations

What a computation may do, stated once for every way in which it can end.  A
`Discipline` says what holds of the store between the steps of a computation.  A
computation that obeys it in addition fails only with certain errors, and returns only
certain values.
-/

namespace PatchScript

/-- What holds of the store before and after every computation. -/
structure Discipline where
  /-- Whether it holds of a store. -/
  Holds : Store → Prop

/-- The outcome of a computation is as it should be. -/
def Discipline.Outcome {α : Type} (discipline : Discipline) (fails : EvalError → Prop)
    (post : α → Prop) : EStateM.Result Fault Store α → Prop
  | .ok value after => discipline.Holds after ∧ post value
  | .error (.error error) after => discipline.Holds after ∧ fails error
  | .error _ after => discipline.Holds after

namespace Run

variable {α β : Type} {discipline : Discipline} {fails : EvalError → Prop} {post : α → Prop}

/-- Every run of a computation keeps to a discipline, fails only as allowed and returns
only what is allowed. -/
def Obeys (discipline : Discipline) (fails : EvalError → Prop) (post : α → Prop)
    (computation : Run α) : Prop :=
  ∀ store, discipline.Holds store → discipline.Outcome fails post (computation store)

/-- The store that a computation leaves behind, whatever came of it. -/
def finalStore : EStateM.Result Fault Store α → Store
  | .ok _ store => store
  | .error _ store => store

namespace Obeys

theorem bind {middle : α → Prop} {final : β → Prop} {computation : Run α} {next : α → Run β}
    (first : Obeys discipline fails middle computation)
    (second : ∀ value, middle value → Obeys discipline fails final (next value)) :
    Obeys discipline fails final (computation >>= next) := by
  intro store holds
  have outcome := first store holds
  simp only [Bind.bind, EStateM.bind]
  match ran : computation store, outcome with
  | .ok value after, ⟨holdsAfter, allowed⟩ => exact second value allowed after holdsAfter
  | .error (.error _) _, outcome => exact outcome
  | .error .outOfFuel _, outcome => exact outcome
  | .error .malformedCall _, outcome => exact outcome

/-! ## Reading off an outcome -/

variable {computation : Run α} (obeys : Obeys discipline fails post computation)
include obeys

theorem holds_final {store : Store} (holds : discipline.Holds store) :
    discipline.Holds (finalStore (computation store)) := by
  have outcome := obeys store holds
  match computation store, outcome with
  | .ok _ _, outcome => exact outcome.1
  | .error (.error _) _, outcome => exact outcome.1
  | .error .outOfFuel _, outcome => exact outcome
  | .error .malformedCall _, outcome => exact outcome

variable {store after : Store} (holds : discipline.Holds store)
include holds

theorem fails_of_error {error : EvalError}
    (failed : computation store = .error (.error error) after) : fails error := by
  have outcome := obeys store holds
  rw [failed] at outcome
  exact outcome.2

theorem post_of_ok {value : α} (returned : computation store = .ok value after) : post value := by
  have outcome := obeys store holds
  rw [returned] at outcome
  exact outcome.2

end Obeys
end Run
end PatchScript
