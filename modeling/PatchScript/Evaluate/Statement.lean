import PatchScript.Evaluate.Expression

/-!
# Executing statements
-/

namespace PatchScript
namespace Evaluate

/-- Execute statements in order, up to the first that does not end normally. -/
def statements (below : Interpreter) (context : Context) : List Statement → Run Signal
  | [] => return .normal
  | statement :: rest => do
    match ← below.execute context statement with
    | .normal => statements below context rest
    | signal => return signal

/-- Take turns until one ends the loop. -/
def turns (turn : Run (Option Signal)) : Nat → Run Signal
  | 0 => throw .outOfFuel
  | patience + 1 => do
    match ← turn with
    | some signal => return signal
    | none => turns turn patience

/-- One turn of a loop with a condition. -/
def whileTurn (below : Interpreter) (context : Context) (test : Expr)
    (body : Statement) : Run (Option Signal) := do
  if ← condition below context test then
    return (← below.execute context body).afterBody
  else return some .normal

/-- Evaluate an expression if there is one. -/
def optionally (below : Interpreter) (context : Context) : Option Expr → Run Unit
  | none => return ()
  | some expr => do
    let _ ← below.evaluate context expr

/-- One turn of a counting loop. -/
def forTurn (below : Interpreter) (context : Context) (test step : Option Expr)
    (body : Statement) : Run (Option Signal) := do
  let goesOn ← match test with
    | some test => condition below context test
    | none => pure true
  if goesOn then
    match (← below.execute context body).afterBody with
    | some signal => return some signal
    | none =>
      optionally below context step
      return none
  else return some .normal

/-- A counting loop with a scope of its own. -/
def forLoop (below : Interpreter) (context : Context) (init : Option Statement)
    (test step : Option Expr) (body : Statement) : Run Signal := do
  let scope ← Run.newScope context
  match init with
  | some init =>
    let _ ← below.execute scope init
  | none => pure ()
  turns (forTurn below scope test step body) below.patience

def declare (context : Context) (name : String) (value : Value) (isMutable : Bool) : Run Unit :=
  Run.changeFrames fun frames => frames.planDeclare context.scope name value isMutable

/-- Execute a body once for each value, which is a constant of the body. -/
def foreachValue (below : Interpreter) (context : Context) (variableName : String) (span : Span)
    (body : Statement) : List Value → Run Signal
  | [] => return .normal
  | value :: rest => do
    let scope ← Run.newScope context
    Run.orAt span (declare scope variableName value false)
    match (← below.execute scope body).afterBody with
    | some signal => return signal
    | none => foreachValue below context variableName span body rest

/-- The values to iterate over: the elements of an array, the keys of an object. -/
def iterated (store : Store) : Value → Except ErrorKind (List Value)
  | .array ref => .ok (store.array ref).toList
  | .object ref => .ok ((store.object ref).keys.map Value.string)
  | other => .error (other.mismatch "array or object to iterate")

def statement (below : Interpreter) (context : Context) (node : Statement) : Run Signal :=
  match node.form with
  | .block body => do
    let scope ← Run.newScope context
    statements below scope body
  | .expression value => do
    let _ ← below.evaluate context value
    return .normal
  | .conditional test thenBranch elseBranch => do
    if ← condition below context test then below.execute context thenBranch
    else
      match elseBranch with
      | some elseBranch => below.execute context elseBranch
      | none => return .normal
  | .whileLoop test body => turns (whileTurn below context test body) below.patience
  | .forLoop init test step body => forLoop below context init test step body
  | .foreach variableName iterable body => do
    let value ← below.evaluate context iterable
    let values ← Run.orAt iterable.span (Run.lift (iterated (← get) value))
    foreachValue below context variableName iterable.span body values
  | .declare name isMutable value => do
    let value ← below.evaluate context value
    Run.orAt node.span (declare context name value isMutable)
    return .normal
  | .delete target => do
    let place ← Place.resolve below context target
    Run.orAt target.span (place.delete context)
    return .normal
  | .returnValue none => return .returned .null
  | .returnValue (some value) => do
    return .returned (← below.evaluate context value)
  | .breakLoop => return .breakLoop
  | .continueLoop => return .continueLoop
  | .declareFunction definition =>
    match definition.name with
    | none => Run.failAt (.runtime "function declaration without a name") node.span
    | some name => do
      let function ← closure context definition
      Run.orAt node.span (declare context name function false)
      return .normal
  | .importLibrary library binding => do
    let imported ← below.importLibrary library node.span
    Run.orAt node.span (declare context binding imported false)
    return .normal
  | .apply target action => do
    let value ← below.evaluate context target
    match value with
    | .object root => below.execute { context with root := root } action
    | other => Run.failAt (other.mismatch "object for apply") target.span
  | .unparsed _ => Run.failAt .unparsedStatement node.span
  | .noOp => return .normal

/-- Execute the statements of a program.  Returning ends it. -/
def program (below : Interpreter) (context : Context) : List Statement → Run Unit
  | [] => return ()
  | node :: rest => do
    match ← below.execute context node with
    | .normal => program below context rest
    | .returned _ => return ()
    | _ => Run.failAt (.runtime "break or continue outside of a loop") node.span

end Evaluate
end PatchScript
