import PatchScript.Error

/-!
# Values

Objects, arrays and functions are handles into a store; copying a value copies
the handle.  The other values are plain data.
-/

namespace PatchScript

/-- A handle of an object. -/
structure ObjectRef where
  index : Nat
deriving DecidableEq, Inhabited

/-- A handle of an array. -/
structure ArrayRef where
  index : Nat
deriving DecidableEq, Inhabited

/-- A handle of a function. -/
structure FunctionRef where
  index : Nat
deriving DecidableEq, Inhabited

/-- A value of the language. -/
inductive Value where
  | null
  | boolean (value : Bool)
  | number (value : Float)
  | string (value : String)
  | array (ref : ArrayRef)
  | object (ref : ObjectRef)
  | function (ref : FunctionRef)
deriving Inhabited

namespace Value

def kind : Value → ValueKind
  | .null => .null
  | .boolean _ => .boolean
  | .number _ => .number
  | .string _ => .string
  | .array _ => .array
  | .object _ => .object
  | .function _ => .function

def typeName (value : Value) : String :=
  value.kind.name

def ofLiteral : Literal → Value
  | .number value => .number value
  | .string value => .string value
  | .boolean value => .boolean value
  | .null => .null

/-- The error of a value of the wrong kind. -/
def mismatch (expected : String) (value : Value) : ErrorKind :=
  .typeError expected value.typeName

/-- The error of a number that is not an integer. -/
def notInteger (expected : String) (x : Float) : ErrorKind :=
  .typeError expected ("number " ++ Decimal.plainText x)

def asNumber : Value → Except ErrorKind Float
  | .number value => .ok value
  | other => .error (mismatch "number" other)

/-- The 64-bit integer that a value is. -/
def asInteger (value : Value) : Except ErrorKind Int := do
  let x ← value.asNumber
  match Decimal.integer? x with
  | some integer => .ok integer
  | none => .error (notInteger "integer" x)

def asString : Value → Except ErrorKind String
  | .string value => .ok value
  | other => .error (mismatch "string" other)

def asBoolean : Value → Except ErrorKind Bool
  | .boolean value => .ok value
  | other => .error (mismatch "boolean" other)

def asObject : Value → Except ErrorKind ObjectRef
  | .object ref => .ok ref
  | other => .error (mismatch "object" other)

def asArray : Value → Except ErrorKind ArrayRef
  | .array ref => .ok ref
  | other => .error (mismatch "array" other)

def asFunction : Value → Except ErrorKind FunctionRef
  | .function ref => .ok ref
  | other => .error (mismatch "function" other)

end Value

/-- The position an index denotes in a sequence.  Negative indices count from the
end.  The end itself is a position only where it is allowed. -/
def resolveIndex (index : Int) (length : Nat) (allowEnd : Bool) : Except ErrorKind Nat :=
  let adjusted := if index < 0 then index + length else index
  let within := if allowEnd then adjusted ≤ length else adjusted < length
  if 0 ≤ adjusted ∧ within then .ok adjusted.toNat
  else .error (.indexOutOfBounds index length)

end PatchScript
