import PatchScript.Native.CallSite

/-!
# Functions on objects
-/

namespace PatchScript
namespace ObjectFunction

/-- Add an array of a key and its value. -/
def entryArray (entry : String × Value) : Run Value :=
  Run.newArray #[.string entry.1, entry.2]

def body : ObjectFunction → List Value → Run Value
  | .keys, [.object ref] => do
    Run.newArray ((← Run.objectOf ref).keys.map Value.string).toArray
  | .values, [.object ref] => do
    Run.newArray (← Run.objectOf ref).values.toArray
  | .has, [.object ref, .string key] => do
    return .boolean ((← Run.objectOf ref).contains key)
  | .remove, [.object ref, .string key] => do
    match (← Run.objectOf ref).get? key with
    | some value =>
      modify fun store => store.modifyObject ref fun entries => entries.erase key
      return value
    | none => Run.fail (.missingKey key)
  | .size, [.object ref] => do
    return .number (Float.ofNat (← Run.objectOf ref).size)
  | .entries, [.object ref] => do
    let pairs ← (← Run.objectOf ref).entries.mapM entryArray
    Run.newArray pairs.toArray
  | .merge, [.object target, .object source] => do
    let added := (← Run.objectOf source).entries
    modify fun store => store.modifyObject target fun entries => entries.insertAll added
    return .object target
  | _, _ => throw .malformedCall

end ObjectFunction
end PatchScript
