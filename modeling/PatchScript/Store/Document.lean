import PatchScript.Store

/-!
# Values and documents

A document is read into the store as objects and arrays of its own, and a value
is written back as a document.  Functions, numbers that are not finite, and values
nested too deep or too large have no document.
-/

namespace PatchScript

/-- Why a value has no document. -/
inductive DocumentError where
  | tooDeep
  | tooLarge
  | function (description : String)
  | notFinite (value : Float)
  /-- The document that is to be changed is no object. -/
  | notObject (kind : ValueKind)

namespace Document

/-- The nesting depth down to which a value is followed. -/
def maxDepth : Nat := 512

/-- The greatest number of values in a document. -/
def maxNodes : Nat := 16777216

/-- The greatest magnitude of an integer that is written as one. -/
def maxInteger : Nat := Nat.pow 2 53

end Document

/-- The text of a document error. -/
def DocumentError.message : DocumentError → String
  | .tooDeep =>
    "JSON error: value nested deeper than " ++ Decimal.naturalText Document.maxDepth ++
      " levels (cyclic?)"
  | .tooLarge =>
    "JSON error: document has more than " ++ Decimal.naturalText Document.maxNodes ++ " values"
  | .function description => "JSON error: " ++ description ++ " has no JSON representation"
  | .notFinite value =>
    "JSON error: " ++ Decimal.plainText value ++ " has no JSON representation"
  | .notObject kind => "JSON error: patch target must be an object, got " ++ kind.name

namespace Document

def number (x : Float) : Except DocumentError JsonNumber :=
  match Decimal.integer? x with
  | some value => .ok (if value.natAbs ≤ maxInteger then .integer value else .real x)
  | none => if x.isNaN || x.isInf then .error (.notFinite x) else .ok (.real x)

/-- Writing a document; the state is how many values may still be written. -/
abbrev Writer := EStateM DocumentError Nat

/-- Take one value off the number of those that may be written. -/
def spend : Writer Unit := do
  match ← get with
  | 0 => throw .tooLarge
  | remaining + 1 => set remaining

/-- Write a value, at most a number of levels deep. -/
def writeWithin (store : Store) : Nat → Value → Writer Json
  | 0, _ => throw .tooDeep
  | levels + 1, value => do
    spend
    match value with
    | .null => return .null
    | .boolean value => return .bool value
    | .number value =>
      match number value with
      | .ok written => return .number written
      | .error error => throw error
    | .string value => return .string value
    | .array ref =>
      return .array (← (store.array ref).toList.mapM fun item => writeWithin store levels item)
    | .object ref =>
      return .object (← (store.object ref).entries.mapM fun entry => do
        return (entry.1, ← writeWithin store levels entry.2))
    | .function ref => throw (.function (store.describeFunction ref))

end Document

namespace Store

def toJson (store : Store) (value : Value) : Except DocumentError Json :=
  match Document.writeWithin store (Document.maxDepth + 1) value Document.maxNodes with
  | .ok json _ => .ok json
  | .error error _ => .error error

mutual

def ofJson (store : Store) : Json → Value × Store
  | .null => (.null, store)
  | .bool value => (.boolean value, store)
  | .number value => (.number value.toFloat, store)
  | .string value => (.string value, store)
  | .array items =>
    let (values, store) := store.ofJsonItems items #[]
    let (ref, store) := store.addArray values
    (.array ref, store)
  | .object members =>
    let (values, store) := store.ofJsonMembers members OrderedMap.empty
    let (ref, store) := store.addObject values
    (.object ref, store)

/-- Add the items of an array after those already added. -/
def ofJsonItems (store : Store) : List Json → Array Value → Array Value × Store
  | [], values => (values, store)
  | item :: items, values =>
    let (value, store) := store.ofJson item
    store.ofJsonItems items (values.push value)

/-- Add the members of an object after those already added. -/
def ofJsonMembers
    (store : Store) : List (String × Json) → OrderedMap Value → OrderedMap Value × Store
  | [], values => (values, store)
  | (name, member) :: members, values =>
    let (value, store) := store.ofJson member
    store.ofJsonMembers members (values.insert name value)

end

end Store
end PatchScript
