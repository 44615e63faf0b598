import PatchScript.Evaluate.Statement

/-!
# Calling functions
-/

namespace PatchScript
namespace Evaluate

/-- Count a call, unless too many are active. -/
def enterCall (limit : Nat) : Run Unit := do
  if (← get).callDepth < limit then
    modify fun store => { store with callDepth := store.callDepth + 1 }
  else Run.fail (.callDepthExceeded limit)

def leaveCall (store : Store) : Store :=
  { store with callDepth := store.callDepth - 1 }

/-- Bind parameters to arguments.  The root parameter gives a new root. -/
def bindParameters (span : Span) : List Parameter → List Value → Context → Run Context
  | .named name :: parameters, value :: values, context => do
    modify fun store => store.changeFrames (Frames.planParameter context.scope name value)
    bindParameters span parameters values context
  | .root :: parameters, .object root :: values, context =>
    bindParameters span parameters values { context with root := root }
  | .root :: _, other :: _, _ =>
    Run.failAt (other.mismatch "object for 'this' parameter") span
  | _, _, context => return context

def functionBody (below : Interpreter) (context : Context) : FunctionBody → Run Value
  | .expression value => below.evaluate context value
  | .block body => do
    match ← statements below context body with
    | .returned value => return value
    | _ => return .null

/-- Run a script function where it was made. -/
def callScript (below : Interpreter) (definition : FunctionDef) (captured : Option Context)
    (arguments : List Value) (span : Span) : Run Value := do
  match captured with
  | none =>
    Run.failAt (.runtime "Function belongs to an execution that was released") span
  | some context =>
    let scope ← Run.newScope context
    let inner ← bindParameters span definition.parameters arguments scope
    functionBody below inner definition.body

def callFunction (below : Interpreter) (callable : Callable) (arguments : List Value)
    (span : Span) : Run Value :=
  let site : CallSite :=
    { call := fun function values => below.call function values span, span := span }
  match callable with
  | .native function => function.dispatch site arguments
  | .bound receiver function => function.dispatch site (receiver :: arguments)
  | .script definition captured =>
    if arguments.length = definition.parameters.length then
      Run.wrapping (.inCall callable.describe) span
        (callScript below definition captured arguments span)
    else
      Run.failAt
        (.arityMismatch callable.describe
          (Decimal.naturalText definition.parameters.length) arguments.length)
        span

def call (limit : Nat) (below : Interpreter) (function : Value) (arguments : List Value)
    (span : Span) : Run Value := do
  match function with
  | .function ref =>
    Run.orAt span (enterCall limit)
    let running : Run Value := do
      match (← get).function ref with
      | some callable => callFunction below callable arguments span
      | none => Run.failAt (.notCallable .function) span
    Run.ensuring running leaveCall
  | other => Run.failAt (.notCallable other.kind) span

end Evaluate
end PatchScript
