import PatchScript.Native.CallSite
import PatchScript.Number

/-!
# Numeric functions
-/

namespace PatchScript
namespace MathFunction

/-- The numbers in an array that has elements. -/
def numbers (items : List Value) : Except ErrorKind (List Float) :=
  if items.isEmpty then .error (.runtime "Array is empty")
  else items.mapM Value.asNumber

def body : MathFunction → List Value → Run Value
  | .abs, [.number x] => return .number x.abs
  | .sqrt, [.number x] => do
    if x < 0 then
      Run.failWith ("Cannot take the square root of " ++ Decimal.plainText x)
    return .number x.sqrt
  | .pow, [.number x, .number y] => return .number (Float.pow x y)
  | .floor, [.number x] => return .number x.floor
  | .ceil, [.number x] => return .number x.ceil
  | .round, [.number x] => return .number x.round
  | .trunc, [.number x] => return .number (Number.truncate x)
  | .sign, [.number x] => return .number (Number.sign x)
  | .min, [.number x, .number y] => return .number (Number.least x y)
  | .min, [.array ref] => do
    let values ← Run.lift (numbers (← Run.arrayOf ref).toList)
    return .number (values.foldl Number.least Number.infinity)
  | .max, [.number x, .number y] => return .number (Number.greatest x y)
  | .max, [.array ref] => do
    let values ← Run.lift (numbers (← Run.arrayOf ref).toList)
    return .number (values.foldl Number.greatest (-Number.infinity))
  | .clamp, [.number x, .number low, .number high] => do
    if low > high then
      Run.failWith ("Lower bound " ++ Decimal.plainText low ++
        " is greater than upper bound " ++ Decimal.plainText high)
    return .number (Number.least (Number.greatest x low) high)
  | .sin, [.number x] => return .number x.sin
  | .cos, [.number x] => return .number x.cos
  | .tan, [.number x] => return .number x.tan
  | .log, [.number x] => do
    if x ≤ 0 then
      Run.failWith ("Logarithm of non-positive number " ++ Decimal.plainText x)
    return .number x.log
  | .exp, [.number x] => return .number x.exp
  | _, _ => throw .malformedCall

end MathFunction
end PatchScript
