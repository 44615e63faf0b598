import PatchScript.Store

/-!
# Equality of values

Containers are equal if they are the same or have equal contents; the order of
the keys of an object does not matter.  Functions are equal only to themselves.
Containers nested too deep are unequal, so that comparing cyclic values ends.
-/

namespace PatchScript
namespace Store

/-- The nesting depth down to which containers are compared. -/
def maxEqualityDepth : Nat := 512

/-- Compare two values, at most a number of levels deep. -/
def equalWithin (store : Store) : Nat → Value → Value → Bool
  | 0, _, _ => false
  | _ + 1, .null, .null => true
  | _ + 1, .boolean left, .boolean right => left == right
  | _ + 1, .number left, .number right => left == right
  | _ + 1, .string left, .string right => left == right
  | levels + 1, .array left, .array right =>
    left == right ||
      ((store.array left).size == (store.array right).size &&
        ((store.array left).toList.zip (store.array right).toList).all fun pair =>
          equalWithin store levels pair.1 pair.2)
  | levels + 1, .object left, .object right =>
    left == right ||
      ((store.object left).size == (store.object right).size &&
        (store.object left).entries.all fun entry =>
          match (store.object right).get? entry.1 with
          | some other => equalWithin store levels entry.2 other
          | none => false)
  | _ + 1, .function left, .function right => left == right
  | _ + 1, _, _ => false

def equal (store : Store) (left right : Value) : Bool :=
  store.equalWithin (maxEqualityDepth + 1) left right

end Store
end PatchScript
