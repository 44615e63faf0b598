import PatchScript.Native.CallSite
import PatchScript.Sorting
import PatchScript.Store.Equality
import PatchScript.Store.Rendering

/-!
# Functions on arrays

Functions that call back work on the elements the array had at the start, so a
callback may change the array.
-/

namespace PatchScript
namespace ArrayFunction

/-- The position of the first element equal to a value. -/
def position? (store : Store) (items : List Value) (value : Value) : Option Nat :=
  items.findIdx? fun item => store.equal item value

/-- Append the texts of values to a text, each after a separator. -/
def joinAfter (store : Store) (separator : String) : List Value → String → Except ErrorKind String
  | [], joined => .ok joined
  | item :: items, joined => do
    let part := store.displayText item
    checkLength (joined.utf8ByteSize + separator.utf8ByteSize + part.utf8ByteSize)
    joinAfter store separator items (joined ++ separator ++ part)

/-- The texts of values with a separator between them. -/
def joinItems (store : Store) (separator : String) : List Value → Except ErrorKind String
  | [] => .ok ""
  | item :: items => do
    let part := store.displayText item
    checkLength part.utf8ByteSize
    joinAfter store separator items part

/-- Whether a value is less than another: numbers and texts can be compared. -/
def naturalLess : Value → Value → Except ErrorKind Bool
  | .number x, .number y => .ok (x < y)
  | .string first, .string second => .ok (first < second)
  | left, right =>
    .error (.runtime ("Cannot compare " ++ left.typeName ++ " with " ++ right.typeName))

/-- Whether a comparator answers with a negative number. -/
def comparatorLess (site : CallSite) (comparator left right : Value) : Run Bool := do
  let answer ← site.call comparator [left, right]
  return (← Run.lift answer.asNumber) < 0

def accepts (site : CallSite) (predicate value : Value) : Run Bool := do
  Run.isTruthy (← site.call predicate [value])

/-- The values a function gives for a list of values. -/
def mapItems (site : CallSite) (function : Value) (items : List Value) : Run (List Value) :=
  items.mapM fun item => site.call function [item]

def filterItems (site : CallSite) (predicate : Value) (items : List Value) : Run (List Value) :=
  items.filterM (accepts site predicate)

def findItem (site : CallSite) (predicate : Value) : List Value → Run Value
  | [] => return .null
  | item :: items => do
    if ← accepts site predicate item then return item
    else findItem site predicate items

def anyItem (site : CallSite) (predicate : Value) : List Value → Run Bool
  | [] => return false
  | item :: items => do
    if ← accepts site predicate item then return true
    else anyItem site predicate items

def allItems (site : CallSite) (predicate : Value) : List Value → Run Bool
  | [] => return true
  | item :: items => do
    if ← accepts site predicate item then allItems site predicate items
    else return false

/-- A new array with the elements between two bounds. -/
def sliceItems (items : Array Value) (start : Int) (stop : Option Int) : Run Value := do
  let (start, stop) ← Run.lift (sliceBounds items.size start stop)
  Run.newArray (items.extract start stop)

def body (site : CallSite) : ArrayFunction → List Value → Run Value
  | .length, [.array ref] => do
    return .number (Float.ofNat (← Run.arrayOf ref).size)
  | .push, [.array ref, value] => do
    let size := (← Run.arrayOf ref).size
    modify fun store => store.modifyArray ref fun items => items.push value
    return .number (Float.ofNat (size + 1))
  | .pop, [.array ref] => do
    match (← Run.arrayOf ref).back? with
    | some last =>
      modify fun store => store.modifyArray ref fun items => items.pop
      return last
    | none => Run.failWith "Cannot pop from an empty array"
  | .insert, [.array ref, .number index, value] => do
    let size := (← Run.arrayOf ref).size
    let position ← Run.lift (resolveIndex (← integerArgument index) size true)
    modify fun store => store.modifyArray ref fun items =>
      items.insertIdxIfInBounds position value
    return .null
  | .removeAt, [.array ref, .number index] => do
    let size := (← Run.arrayOf ref).size
    let position ← Run.lift (resolveIndex (← integerArgument index) size false)
    let removed := (← Run.arrayOf ref).getD position .null
    modify fun store => store.modifyArray ref fun items => items.eraseIdxIfInBounds position
    return removed
  | .indexOf, [.array ref, value] => do
    let store ← get
    return .number
      (match position? store (store.array ref).toList value with
      | some position => Float.ofNat position
      | none => -1)
  | .contains, [.array ref, value] => do
    let store ← get
    return .boolean ((store.array ref).any fun item => store.equal item value)
  | .slice, [.array ref, .number start] => do
    sliceItems (← Run.arrayOf ref) (← integerArgument start) none
  | .slice, [.array ref, .number start, .number stop] => do
    sliceItems (← Run.arrayOf ref) (← integerArgument start) (some (← integerArgument stop))
  | .reverse, [.array ref] => do
    Run.newArray (← Run.arrayOf ref).reverse
  | .sort, [.array ref] => do
    let sorted ← Sorting.sort (fun left right => Run.lift (naturalLess left right))
      (← Run.arrayOf ref).toList
    Run.newArray sorted.toArray
  | .sort, [.array ref, comparator] => do
    let sorted ← Sorting.sort (comparatorLess site comparator) (← Run.arrayOf ref).toList
    Run.newArray sorted.toArray
  | .map, [.array ref, function] => do
    let mapped ← mapItems site function (← Run.arrayOf ref).toList
    Run.newArray mapped.toArray
  | .filter, [.array ref, predicate] => do
    let kept ← filterItems site predicate (← Run.arrayOf ref).toList
    Run.newArray kept.toArray
  | .find, [.array ref, predicate] => do
    findItem site predicate (← Run.arrayOf ref).toList
  | .any, [.array ref, predicate] => do
    return .boolean (← anyItem site predicate (← Run.arrayOf ref).toList)
  | .all, [.array ref, predicate] => do
    return .boolean (← allItems site predicate (← Run.arrayOf ref).toList)
  | .join, [.array ref, .string separator] => do
    let store ← get
    return .string (← Run.lift (joinItems store separator (store.array ref).toList))
  | .fill, [.array ref, value] => do
    modify fun store => store.modifyArray ref fun items => items.map fun _ => value
    return .array ref
  | _, _ => throw .malformedCall

end ArrayFunction
end PatchScript
