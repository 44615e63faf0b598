import PatchScript.Native.CallSite
import PatchScript.Store.Rendering

/-!
# Functions for debugging

Log entries and failed assertions carry the place of the call.
-/

namespace PatchScript
namespace DebugFunction

/-- Fail with a message and the place of the call unless a value counts as true. -/
def check (site : CallSite) (condition : Value) (message : String) : Run Value := do
  if ← Run.isTruthy condition then return .null
  else Run.failWith (message ++ " at " ++ site.span.text)

def body (site : CallSite) : DebugFunction → List Value → Run Value
  | .log, [value] => do
    let entry : LogEntry := { span := site.span, text := (← get).displayText value }
    modify fun store => { store with log := store.log.push entry }
    return .null
  | .assert, [condition] => check site condition "Assertion failed"
  | .assert, [condition, .string message] => check site condition message
  | _, _ => throw .malformedCall

end DebugFunction
end PatchScript
