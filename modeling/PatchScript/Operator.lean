import PatchScript.Limits
import PatchScript.Number
import PatchScript.Run
import PatchScript.Store.Equality
import PatchScript.Text.Search

/-!
# Operators

What the operators of the language compute.  Errors have no place here; the
expression supplies it.
-/

namespace PatchScript
namespace Operator

/-- The error of an operator on values of the wrong kinds. -/
def invalid (op : BinaryOp) (left right : Value) : ErrorKind :=
  .invalidOperation op left.kind right.kind

/-- The entries of two objects; common keys stand where the second has them. -/
def union (left right : OrderedMap Value) : OrderedMap Value :=
  (left.filter fun key => !right.contains key).insertAll right.entries

/-- Numbers are added; texts, arrays and objects are put together. -/
def add (left right : Value) : Run Value := do
  match left, right with
  | .number x, .number y => return .number (x + y)
  | .string first, .string second =>
    Run.lift (checkLength (first.utf8ByteSize + second.utf8ByteSize))
    return .string (first ++ second)
  | .array first, .array second =>
    let firstItems ← Run.arrayOf first
    let secondItems ← Run.arrayOf second
    Run.lift (checkLength (firstItems.size + secondItems.size))
    Run.newArray (firstItems ++ secondItems)
  | .object first, .object second =>
    let ref ← Run.newObject (union (← Run.objectOf first) (← Run.objectOf second))
    return .object ref
  | _, _ => Run.fail (invalid .add left right)

/-- The count that a number denotes. -/
def repeatCount (x : Float) : Except ErrorKind Nat :=
  match Decimal.integer? x with
  | some (.ofNat count) => .ok count
  | _ => .error (Value.notInteger "non-negative integer repeat count" x)

/-- Append an array a number of times. -/
def appendRepeated (items : Array Value) : Nat → Array Value → Array Value
  | 0, written => written
  | count + 1, written => appendRepeated items count (written ++ items)

/-- Numbers are multiplied; texts and arrays are repeated. -/
def multiply (left right : Value) : Run Value := do
  match left, right with
  | .number x, .number y => return .number (x * y)
  | .string text, .number x =>
    let count ← Run.lift (repeatCount x)
    let times ← Run.lift (repetitions text.utf8ByteSize count)
    return .string (Text.repeated text times)
  | .array ref, .number x =>
    let count ← Run.lift (repeatCount x)
    let items ← Run.arrayOf ref
    let times ← Run.lift (repetitions items.size count)
    Run.newArray (appendRepeated items times #[])
  | _, _ => Run.fail (invalid .mul left right)

/-- Apply an operation to two numbers. -/
def onNumbers (op : BinaryOp) (operation : Float → Float → Except ErrorKind Float)
    (left right : Value) : Except ErrorKind Value :=
  match left, right with
  | .number x, .number y => (operation x y).map Value.number
  | _, _ => .error (invalid op left right)

/-- Divide by a number other than zero. -/
def dividing (operation : Float → Float → Float) (x y : Float) : Except ErrorKind Float :=
  if y == 0 then .error .divisionByZero else .ok (operation x y)

/-- Compare two numbers, or two texts by code points. -/
def compare (op : BinaryOp) (onFloats : Float → Float → Bool) (onTexts : String → String → Bool)
    (left right : Value) : Except ErrorKind Value :=
  match left, right with
  | .number x, .number y => .ok (.boolean (onFloats x y))
  | .string first, .string second => .ok (.boolean (onTexts first second))
  | _, _ => .error (invalid op left right)

/-- Whether an array has an element, or an object a key. -/
def elemOf (store : Store) (left right : Value) : Except ErrorKind Value :=
  match left, right with
  | _, .array ref =>
    .ok (.boolean ((store.array ref).any fun item => store.equal item left))
  | .string key, .object ref => .ok (.boolean ((store.object ref).contains key))
  | _, _ => .error (invalid .elemOf left right)

/-- Apply an operation to two numbers that are 64-bit integers. -/
def onIntegers (op : BinaryOp) (operation : Int64 → Int64 → Except ErrorKind Int64)
    (left right : Value) : Except ErrorKind Value :=
  match left, right with
  | .number x, .number y =>
    match Decimal.integer? x, Decimal.integer? y with
    | some first, some second =>
      (operation (Int64.ofInt first) (Int64.ofInt second)).map fun result =>
        .number (Float.ofInt result.toInt)
    | _, _ =>
      .error (.typeError ("integers for " ++ op.text)
        (Decimal.plainText x ++ " and " ++ Decimal.plainText y))
  | _, _ => .error (invalid op left right)

/-- Shift by an amount from 0 to 63. -/
def shifting (operation : Int64 → Int64 → Int64) (value amount : Int64) : Except ErrorKind Int64 :=
  if 0 ≤ amount ∧ amount ≤ 63 then .ok (operation value amount)
  else
    .error (.runtime
      ("Shift amount " ++ Decimal.integerText amount.toInt ++ " is outside 0..=63"))

/-- Operators that only read the store. -/
def pureBinary (store : Store) (op : BinaryOp) (left right : Value) : Except ErrorKind Value :=
  match op with
  | .sub => onNumbers op (fun x y => .ok (x - y)) left right
  | .div => onNumbers op (dividing fun x y => x / y) left right
  | .mod => onNumbers op (dividing Number.remainder) left right
  | .pow => onNumbers op (fun x y => .ok (Float.pow x y)) left right
  | .eq => .ok (.boolean (store.equal left right))
  | .notEq => .ok (.boolean (!store.equal left right))
  | .lt => compare op (fun x y => x < y) (fun x y => x < y) left right
  | .ltEq => compare op (fun x y => x ≤ y) (fun x y => !(y < x)) left right
  | .gt => compare op (fun x y => y < x) (fun x y => y < x) left right
  | .gtEq => compare op (fun x y => y ≤ x) (fun x y => !(x < y)) left right
  | .elemOf => elemOf store left right
  | .bitAnd => onIntegers op (fun x y => .ok (x &&& y)) left right
  | .bitOr => onIntegers op (fun x y => .ok (x ||| y)) left right
  | .bitXor => onIntegers op (fun x y => .ok (x ^^^ y)) left right
  | .shiftLeft => onIntegers op (shifting fun x y => x <<< y) left right
  | .shiftRight => onIntegers op (shifting fun x y => x >>> y) left right
  | .add | .mul => .error (invalid op left right)

/-- Apply an operator to two values. -/
def binary (op : BinaryOp) (left right : Value) : Run Value := do
  match op with
  | .add => add left right
  | .mul => multiply left right
  | _ => Run.lift (pureBinary (← get) op left right)

/-- How an operator on one value is called in messages. -/
def unaryText : UnaryOp → String
  | .neg => "unary -"
  | .plus => "unary +"
  | .not => "!"
  | .bitNot => "~"

/-- Apply an operator to a value. -/
def unary (store : Store) (op : UnaryOp) (operand : Value) : Except ErrorKind Value :=
  match op, operand with
  | .not, value => .ok (.boolean (!store.isTruthy value))
  | .neg, .number x => .ok (.number (-x))
  | .plus, .number x => .ok (.number x)
  | .bitNot, .number x =>
    match Decimal.integer? x with
    | some integer => .ok (.number (Float.ofInt (-integer - 1)))
    | none => .error (Value.notInteger "integer" x)
  | op, value => .error (value.mismatch ("number for " ++ unaryText op))

end Operator
end PatchScript
