import PatchScript.Syntax

/-!
# Evaluation errors

An error is a cause with an optional place, wrapped by the calls and library
loads it escaped from.  The layers are a list, outermost first.
-/

namespace PatchScript

/-- What went wrong during evaluation. -/
inductive ErrorKind where
  | typeError (expected got : String)
  | undefinedVariable (name : String)
  | undefinedName (name : String)
  | missingKey (key : String)
  | indexOutOfBounds (index : Int) (length : Nat)
  | divisionByZero
  | invalidOperation (op : BinaryOp) (left right : ValueKind)
  | notCallable (kind : ValueKind)
  | arityMismatch (function expected : String) (got : Nat)
  | immutableAssignment (name : String)
  | duplicateVariable (name : String)
  | cyclicImport (chain : List String)
  | unknownLibrary (name : String)
  | nativeError (function reason : String)
  | sizeLimitExceeded (limit : Nat)
  | callDepthExceeded (limit : Nat)
  /-- The error escaped a call. -/
  | inCall (function : String)
  /-- The error escaped the loading of a library. -/
  | inLibrary (name : String)
  | unparsedStatement
  | runtime (message : String)

/-- The text of a cause. -/
def ErrorKind.message : ErrorKind → String
  | .typeError expected got => "Type error: expected " ++ expected ++ ", got " ++ got
  | .undefinedVariable name => "Undefined variable: $" ++ name
  | .undefinedName name =>
    "Undefined name '" ++ name ++ "': not a property of the root object and not a variable"
  | .missingKey key => "No such key '" ++ key ++ "'"
  | .indexOutOfBounds index length =>
    "Index out of bounds: " ++ Decimal.integerText index ++ " for length " ++
      Decimal.naturalText length
  | .divisionByZero => "Division by zero"
  | .invalidOperation op left right =>
    "Invalid operation: " ++ op.text ++ " on types " ++ left.name ++ " and " ++ right.name
  | .notCallable kind => "Value is not callable: " ++ kind.name
  | .arityMismatch function expected got =>
    "Wrong number of arguments for " ++ function ++ ": expected " ++ expected ++ ", got " ++
      Decimal.naturalText got
  | .immutableAssignment name => "Cannot modify immutable variable: $" ++ name
  | .duplicateVariable name => "Variable already declared: $" ++ name
  | .cyclicImport chain =>
    "Recursive import detected: " ++ String.intercalate " -> " chain
  | .unknownLibrary name => "Unknown library: " ++ name
  | .nativeError function reason =>
    "Error in native function " ++ function ++ ": " ++ reason
  | .sizeLimitExceeded limit =>
    "Result would exceed the size limit of " ++ Decimal.naturalText limit ++ " elements"
  | .callDepthExceeded limit =>
    "Maximum call depth of " ++ Decimal.naturalText limit ++ " exceeded"
  | .inCall function => "Error in call to " ++ function
  | .inLibrary name => "Error while loading library " ++ name
  | .unparsedStatement => "Cannot execute a statement that failed to parse"
  | .runtime message => "Runtime error: " ++ message

/-- One layer of an error: a cause or a wrapper, and its place if known. -/
structure ErrorLayer where
  kind : ErrorKind
  span : Option Span

/-- The place and the text of a layer. -/
def ErrorLayer.text (layer : ErrorLayer) : String :=
  match layer.span with
  | some span => span.text ++ ": " ++ layer.kind.message
  | none => layer.kind.message

/-- An evaluation error: its outermost layer and the layers it wraps. -/
structure EvalError where
  outer : ErrorLayer
  /-- What it wraps, down to the root cause. -/
  causes : List ErrorLayer

namespace EvalError

def ofKind (kind : ErrorKind) : EvalError :=
  { outer := { kind := kind, span := none }, causes := [] }

def ofKindAt (kind : ErrorKind) (span : Span) : EvalError :=
  { outer := { kind := kind, span := some span }, causes := [] }

/-- Every layer, outermost first. -/
def layers (error : EvalError) : List ErrorLayer :=
  error.outer :: error.causes

def orAt (span : Span) (error : EvalError) : EvalError :=
  { error with outer := { error.outer with span := error.outer.span.or (some span) } }

def wrap (kind : ErrorKind) (span : Span) (error : EvalError) : EvalError :=
  { outer := { kind := kind, span := some span }, causes := error.layers }

def rootCause (error : EvalError) : ErrorLayer :=
  error.causes.getLast?.getD error.outer

/-- Every layer, one a line. -/
def text (error : EvalError) : String :=
  String.intercalate "\n  caused by: " (error.layers.map ErrorLayer.text)

end EvalError
end PatchScript
