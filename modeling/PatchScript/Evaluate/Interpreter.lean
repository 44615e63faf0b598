import PatchScript.Run

/-!
# What evaluation rests on

Evaluating a construct means evaluating its parts, calling functions and loading
libraries.  An `Interpreter` is the record of these operations; each rule of the
language is a function of the interpreter for the parts.
-/

namespace PatchScript

/-- How a statement ends. -/
inductive Signal where
  | normal
  | breakLoop
  | continueLoop
  | returned (value : Value)

/-- What ends a loop after its body ended: nothing, or the signal of the loop. -/
def Signal.afterBody : Signal → Option Signal
  | .normal => none
  | .continueLoop => none
  | .breakLoop => some .normal
  | .returned value => some (.returned value)

/-- The operations that evaluation rests on. -/
structure Interpreter where
  evaluate : Context → Expr → Run Value
  execute : Context → Statement → Run Signal
  call : Value → List Value → Span → Run Value
  importLibrary : String → Span → Run Value
  runLibrary : String → Context → Program → Run Unit
  /-- How many turns a loop may take. -/
  patience : Nat

/-- The interpreter that has no budget left. -/
def Interpreter.exhausted : Interpreter :=
  { evaluate := fun _ _ => throw .outOfFuel
    execute := fun _ _ => throw .outOfFuel
    call := fun _ _ _ => throw .outOfFuel
    importLibrary := fun _ _ => throw .outOfFuel
    runLibrary := fun _ _ _ => throw .outOfFuel
    patience := 0 }

end PatchScript
