import PatchScript.Native.Arrays
import PatchScript.Native.Debugging
import PatchScript.Native.Documents
import PatchScript.Native.Math
import PatchScript.Native.Objects
import PatchScript.Native.Strings

/-!
# Calling native functions

A call selects the overload for the number of arguments, checks the kind of each
argument and runs the function.  An error of the function itself is reported
under its name; an error of a function it called is wrapped.
-/

namespace PatchScript

def ParamKind.accepts : ParamKind → Value → Bool
  | .any, _ => true
  | .number, .number _ => true
  | .integer, .number x => (Decimal.integer? x).isSome
  | .string, .string _ => true
  | .array, .array _ => true
  | .object, .object _ => true
  | .function, .function _ => true
  | _, _ => false

namespace Native

def body (site : CallSite) (function : Native) (arguments : List Value) : Run Value :=
  match function with
  | .math function => function.body arguments
  | .strings function => function.body arguments
  | .arrays function => function.body site arguments
  | .objects function => function.body arguments
  | .json function => function.body arguments
  | .debug function => function.body site arguments

/-- The error of an argument of the wrong kind.  Arguments count from one. -/
def argumentError (function : Native) (index : Nat) (kind : ParamKind)
    (value : Value) : ErrorKind :=
  .typeError
    (kind.name ++ " for argument " ++ Decimal.naturalText index ++ " of " ++
      function.qualifiedName)
    value.typeName

/-- Check arguments from an index on. -/
def checkArguments (function : Native) : Nat → List ParamKind → List Value → Except ErrorKind Unit
  | index, kind :: kinds, value :: values =>
    if kind.accepts value then checkArguments function (index + 1) kinds values
    else .error (function.argumentError index kind value)
  | _, _, _ => .ok ()

/-- How an error of a native function is reported. -/
def reportError (function : Native) (span : Span) (error : EvalError) : EvalError :=
  match error with
  | { outer := { kind := .runtime message, span := none }, causes := [] } =>
    EvalError.ofKindAt (.nativeError function.qualifiedName message) span
  | { outer := { kind := kind, span := none }, causes := [] } =>
    EvalError.ofKindAt (.nativeError function.qualifiedName kind.message) span
  | other => other.wrap (.inCall ("'" ++ function.qualifiedName ++ "'")) span

def dispatch (function : Native) (site : CallSite) (arguments : List Value) : Run Value :=
  match function.overload? arguments.length with
  | none =>
    Run.failAt
      (.arityMismatch ("'" ++ function.qualifiedName ++ "'") function.arities arguments.length)
      site.span
  | some kinds =>
    match function.checkArguments 1 kinds arguments with
    | .error kind => Run.failAt kind site.span
    | .ok () => Run.mapError (function.reportError site.span) (function.body site arguments)

/-- The method of a value: texts and arrays have the functions of their library. -/
def method? (receiver : Value) (name : String) : Option Native :=
  match receiver with
  | .string _ => NativeLibrary.strings.function? name
  | .array _ => NativeLibrary.arrays.function? name
  | _ => none

end Native
end PatchScript
