import PatchScript.Evaluate.Place
import PatchScript.Operator

/-!
# Evaluating expressions
-/

namespace PatchScript
namespace Evaluate

def expressions (below : Interpreter) (context : Context) (exprs : List Expr) : Run (List Value) :=
  exprs.mapM (below.evaluate context)

/-- Evaluate the entries of an object from left to right. -/
def entries (below : Interpreter) (context : Context) :
    List (String × Expr) → OrderedMap Value → Run (OrderedMap Value)
  | [], built => return built
  | (key, expr) :: rest, built => do
    let value ← below.evaluate context expr
    entries below context rest (built.insert key value)

/-- Whether an expression counts as true. -/
def condition (below : Interpreter) (context : Context) (expr : Expr) : Run Bool := do
  Run.isTruthy (← below.evaluate context expr)

/-- Make a function where an expression stands. -/
def closure (context : Context) (definition : FunctionDef) : Run Value :=
  Run.newFunction (.script definition (some context))

/-- The value to assign: that of the expression, or with an operator its result on
the old value and that of the expression. -/
def assignedValue (below : Interpreter) (context : Context) (place : Place) (target : Reference)
    (op : Option BinaryOp) (expr : Expr) (span : Span) : Run Value :=
  match op with
  | none => below.evaluate context expr
  | some op => do
    let old ← Run.orAt target.span (place.get context)
    let operand ← below.evaluate context expr
    Run.orAt span (Operator.binary op old operand)

def assign (below : Interpreter) (context : Context) (target : Reference) (op : Option BinaryOp)
    (expr : Expr) (span : Span) : Run Value := do
  let place ← Place.resolve below context target
  let value ← assignedValue below context place target op expr span
  Run.orAt target.span (place.set context value)
  return value

def numberAt (context : Context) (place : Place) : Run Float := do
  let value ← place.get context
  Run.lift value.asNumber

/-- Step a number up or down by one. -/
def update (below : Interpreter) (context : Context) (target : Reference)
    (increment yieldsNew : Bool) : Run Value := do
  let place ← Place.resolve below context target
  let old ← Run.orAt target.span (numberAt context place)
  let new := if increment then old + 1 else old - 1
  Run.orAt target.span (place.set context (.number new))
  return .number (if yieldsNew then new else old)

def expression (below : Interpreter) (context : Context) (expr : Expr) : Run Value :=
  match expr.form with
  | .literal value => return Value.ofLiteral value
  | .reference target => do
    let place ← Place.resolve below context target
    Run.orAt target.span (place.get context)
  | .root => return .object context.root
  | .array items => do
    Run.newArray (← expressions below context items).toArray
  | .object members => do
    return .object (← Run.newObject (← entries below context members OrderedMap.empty))
  | .unary op operand => do
    let value ← below.evaluate context operand
    Run.orAt expr.span (Run.lift (Operator.unary (← get) op value))
  | .binary op left right => do
    let first ← below.evaluate context left
    let second ← below.evaluate context right
    Run.orAt expr.span (Operator.binary op first second)
  | .logical .and left right => do
    if ← condition below context left then
      return .boolean (← condition below context right)
    else return .boolean false
  | .logical .or left right => do
    if ← condition below context left then return .boolean true
    else return .boolean (← condition below context right)
  | .assign target op value => assign below context target op value expr.span
  | .update target increment yieldsNew => update below context target increment yieldsNew
  | .call callee arguments => do
    let function ← below.evaluate context callee
    let values ← expressions below context arguments
    below.call function values expr.span
  | .function definition => closure context definition
  | .hasKind value kind => do
    return .boolean ((← below.evaluate context value).kind == kind)
  | .library name => below.importLibrary name expr.span

end Evaluate
end PatchScript
