import PatchScript.Run

/-!
# Where a native function is called

A native function may call functions it was given, and may report where it was
called.
-/

namespace PatchScript

/-- The surroundings of a native call. -/
structure CallSite where
  call : Value → List Value → Run Value
  span : Span

/-- The integer that an argument denotes. -/
def integerArgument (x : Float) : Run Int :=
  Run.lift (Value.number x).asInteger

/-- The bounds of a slice of a sequence; without an end it extends to the end. -/
def sliceBounds (length : Nat) (start : Int)
    (stop : Option Int) : Except ErrorKind (Nat × Nat) := do
  let start ← resolveIndex start length true
  let stop ← match stop with
    | some stop => resolveIndex stop length true
    | none => pure length
  if start ≤ stop then return (start, stop)
  else
    throw (.runtime ("Start " ++ Decimal.naturalText start ++ " is after end " ++
      Decimal.naturalText stop))

end PatchScript
