import PatchScript.Json.Reader
import PatchScript.Native.CallSite
import PatchScript.Store.Document

/-!
# Functions on JSON texts
-/

namespace PatchScript
namespace JsonFunction

def document (value : Value) : Run Json := do
  match (← get).toJson value with
  | .ok json => return json
  | .error error => Run.failWith error.message

def body : JsonFunction → List Value → Run Value
  | .stringify, [value] => do
    return .string (← document value).compact
  | .pretty, [value] => do
    return .string (← document value).pretty
  | .parse, [.string text] =>
    match Json.ofText? text with
    | some json => modifyGet fun store => store.ofJson json
    | none => Run.failWith "Invalid JSON"
  | _, _ => throw .malformedCall

end JsonFunction
end PatchScript
