import PatchScript.Frames
import PatchScript.Native.Table

/-!
# The store

Everything an execution can change: the contents of objects and arrays, the
functions and variables that exist, the libraries loaded so far and the log.
Handles are indices; contents are only ever added or replaced, never moved.
-/

namespace PatchScript

/-- Where code runs: its root object and its variables. -/
structure Context where
  /-- The object that bare names refer to first. -/
  root : ObjectRef
  scope : Scope
deriving DecidableEq, Inhabited

/-- What a function does when called. -/
inductive Callable where
  /-- Run a definition where it was made; without a place it is released. -/
  | script (definition : FunctionDef) (captured : Option Context)
  | native (function : Native)
  /-- A native function with its first argument supplied. -/
  | bound (receiver : Value) (function : Native)

namespace Callable

def describe : Callable → String
  | .script definition _ =>
    match definition.name with
    | some name => "'" ++ name ++ "'"
    | none => "anonymous function"
  | .native function => "'" ++ function.qualifiedName ++ "'"
  | .bound _ function => "'" ++ function.qualifiedName ++ "'"

/-- Cut a script function off from where it was made. -/
def release : Callable → Callable
  | .script definition _ => .script definition none
  | other => other

end Callable

structure LogEntry where
  span : Span
  text : String

/-- The state of an execution. -/
structure Store where
  objects : Array (OrderedMap Value)
  arrays : Array (Array Value)
  functions : Array Callable
  frames : Frames
  /-- The libraries loaded so far. -/
  imports : OrderedMap ObjectRef
  /-- The libraries being loaded, outermost first. -/
  loading : List String
  /-- How many calls are active. -/
  callDepth : Nat
  /-- The log, oldest line first. -/
  log : Array LogEntry
deriving Inhabited

namespace Store

def empty : Store :=
  { objects := #[]
    arrays := #[]
    functions := #[]
    frames := Frames.empty
    imports := OrderedMap.empty
    loading := []
    callDepth := 0
    log := #[] }

def object (store : Store) (ref : ObjectRef) : OrderedMap Value :=
  store.objects.getD ref.index OrderedMap.empty

def array (store : Store) (ref : ArrayRef) : Array Value :=
  store.arrays.getD ref.index #[]

def function (store : Store) (ref : FunctionRef) : Option Callable :=
  store.functions[ref.index]?

def describeFunction (store : Store) (ref : FunctionRef) : String :=
  match store.function ref with
  | some callable => callable.describe
  | none => "anonymous function"

def addObject (store : Store) (contents : OrderedMap Value) : ObjectRef × Store :=
  ({ index := store.objects.size }, { store with objects := store.objects.push contents })

def addArray (store : Store) (contents : Array Value) : ArrayRef × Store :=
  ({ index := store.arrays.size }, { store with arrays := store.arrays.push contents })

def addFunction (store : Store) (callable : Callable) : FunctionRef × Store :=
  ({ index := store.functions.size },
    { store with functions := store.functions.push callable })

def addFrame (store : Store) : FrameRef × Store :=
  (store.frames.nextRef, { store with frames := store.frames.push })

def modifyObject (store : Store) (ref : ObjectRef)
    (change : OrderedMap Value → OrderedMap Value) : Store :=
  { store with objects := store.objects.modify ref.index change }

def modifyArray (store : Store) (ref : ArrayRef) (change : Array Value → Array Value) : Store :=
  { store with arrays := store.arrays.modify ref.index change }

def changeFrames (store : Store) (change : FrameChange) : Store :=
  { store with frames := store.frames.commit change }

/-- Cut every script function off from where it was made, and forget the loaded
libraries. -/
def release (store : Store) : Store :=
  { store with
    functions := store.functions.map Callable.release
    imports := OrderedMap.empty }

/-- Whether a value counts as true: empty texts and containers, zero and null do
not. -/
def isTruthy (store : Store) : Value → Bool
  | .null => false
  | .boolean value => value
  | .number value => value != 0
  | .string value => value != ""
  | .array ref => !(store.array ref).isEmpty
  | .object ref => (store.object ref).size != 0
  | .function _ => true

end Store
end PatchScript
