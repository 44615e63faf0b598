import PatchScript.Text.Debug
import PatchScript.Value

/-!
# Variables

A frame holds the variables and the constants declared in one scope.  A scope is
a chain of frames, innermost first; frames are shared by all scopes whose chain
contains them.  A change is planned first, which may fail, and then committed.
-/

namespace PatchScript

/-- The bindings of one scope. -/
structure Frame where
  mutables : OrderedMap Value
  constants : OrderedMap Value
deriving Inhabited

namespace Frame

def empty : Frame :=
  { mutables := OrderedMap.empty, constants := OrderedMap.empty }

/-- The value of a name.  A variable hides a constant of the same frame. -/
def get? (frame : Frame) (name : String) : Option Value :=
  (frame.mutables.get? name).or (frame.constants.get? name)

def bind (frame : Frame) (name : String) (value : Value) (isMutable : Bool) : Frame :=
  if isMutable then { frame with mutables := frame.mutables.insert name value }
  else { frame with constants := frame.constants.insert name value }

def dropVariable (frame : Frame) (name : String) : Frame :=
  { frame with mutables := frame.mutables.erase name }

/-- The names bound in a frame, sorted. -/
def names (frame : Frame) : List String :=
  (frame.mutables.keys ++ frame.constants.keys).mergeSort fun left right =>
    decide (left ≤ right)

end Frame

structure FrameRef where
  index : Nat
deriving DecidableEq, Inhabited

/-- A chain of frames. -/
structure Scope where
  inner : FrameRef
  /-- The frames around it, innermost first. -/
  outer : List FrameRef
deriving DecidableEq, Inhabited

/-- The chain as a list, innermost first. -/
def Scope.chain (scope : Scope) : List FrameRef :=
  scope.inner :: scope.outer

structure Frames where
  table : Array Frame
deriving Inhabited

/-- A change of one frame. -/
inductive FrameChange where
  | bind (ref : FrameRef) (name : String) (value : Value) (isMutable : Bool)
  | drop (ref : FrameRef) (name : String)

namespace Frames

def empty : Frames :=
  { table := #[] }

def get (frames : Frames) (ref : FrameRef) : Frame :=
  frames.table.getD ref.index Frame.empty

/-- The handle of the next frame. -/
def nextRef (frames : Frames) : FrameRef :=
  { index := frames.table.size }

def push (frames : Frames) : Frames :=
  { table := frames.table.push Frame.empty }

/-- The value of a name, innermost binding first. -/
def get? (frames : Frames) (scope : Scope) (name : String) : Option Value :=
  scope.chain.findSome? fun ref => (frames.get ref).get? name

def contains (frames : Frames) (scope : Scope) (name : String) : Bool :=
  scope.chain.any fun ref => ((frames.get ref).get? name).isSome

def commit (frames : Frames) : FrameChange → Frames
  | .bind ref name value isMutable =>
    { table := frames.table.modify ref.index fun frame => frame.bind name value isMutable }
  | .drop ref name =>
    { table := frames.table.modify ref.index fun frame => frame.dropVariable name }

/-- Plan to declare a name in the innermost frame.  A name that is visible cannot
be declared again. -/
def planDeclare (frames : Frames) (scope : Scope) (name : String) (value : Value)
    (isMutable : Bool) : Except ErrorKind FrameChange :=
  if frames.contains scope name then .error (.duplicateVariable name)
  else .ok (.bind scope.inner name value isMutable)

/-- The plan to bind a parameter, which may hide other bindings. -/
def planParameter (scope : Scope) (name : String) (value : Value) : FrameChange :=
  .bind scope.inner name value true

/-- The innermost frame of a chain that binds a name, if it binds it as a
variable. -/
def variableFrame (frames : Frames) (name : String) : List FrameRef → Except ErrorKind FrameRef
  | [] => .error (.undefinedVariable name)
  | ref :: outer =>
    let frame := frames.get ref
    if frame.mutables.contains name then .ok ref
    else if frame.constants.contains name then .error (.immutableAssignment name)
    else variableFrame frames name outer

/-- Plan to assign to the innermost binding of a name. -/
def planAssign (frames : Frames) (scope : Scope) (name : String)
    (value : Value) : Except ErrorKind FrameChange := do
  let ref ← frames.variableFrame name scope.chain
  return .bind ref name value true

/-- Plan to remove the innermost binding of a name. -/
def planRemove (frames : Frames) (scope : Scope)
    (name : String) : Except ErrorKind FrameChange := do
  let ref ← frames.variableFrame name scope.chain
  return .drop ref name

def declare (frames : Frames) (scope : Scope) (name : String) (value : Value)
    (isMutable : Bool) : Except ErrorKind Frames :=
  (frames.planDeclare scope name value isMutable).map frames.commit

def bindParameter (frames : Frames) (scope : Scope) (name : String) (value : Value) : Frames :=
  frames.commit (planParameter scope name value)

def assign (frames : Frames) (scope : Scope) (name : String)
    (value : Value) : Except ErrorKind Frames :=
  (frames.planAssign scope name value).map frames.commit

/-- Remove the innermost binding of a name and return its value. -/
def remove (frames : Frames) (scope : Scope)
    (name : String) : Except ErrorKind (Value × Frames) := do
  let ref ← frames.variableFrame name scope.chain
  let value := ((frames.get ref).mutables.get? name).getD .null
  return (value, frames.commit (.drop ref name))

/-- The names bound in each frame of a scope, innermost first. -/
def describe (frames : Frames) (scope : Scope) : String :=
  let frameText (ref : FrameRef) : String :=
    "[" ++ String.intercalate ", " ((frames.get ref).names.map Text.debug) ++ "]"
  "VariableStack \x7b frames: [" ++
    String.intercalate ", " (scope.chain.map frameText) ++ "] \x7d"

end Frames
end PatchScript
