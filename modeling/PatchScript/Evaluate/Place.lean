import PatchScript.Evaluate.Interpreter
import PatchScript.Native.Dispatch

/-!
# Places

A place is a reference whose parts are evaluated: a variable, a name of the root
object, or a property or an index of a value.  It can be read, written and
deleted any number of times without evaluating its parts again.
-/

namespace PatchScript

/-- Something that can be read, written and deleted. -/
inductive Place where
  | variable (name : String)
  | bare (name : String)
  | property (container : Value) (name : String)
  | index (container key : Value)

namespace Place

/-- Evaluate the parts of a reference. -/
def resolve (below : Interpreter) (context : Context) (reference : Reference) : Run Place :=
  match reference.form with
  | .variable name => return .variable name
  | .bare name => return .bare name
  | .property target name => do
    return .property (← below.evaluate context target) name
  | .index target key => do
    let container ← below.evaluate context target
    return .index container (← below.evaluate context key)

def valueOf (entries : OrderedMap Value) (key : String) : Except ErrorKind Value :=
  match entries.get? key with
  | some value => .ok value
  | none => .error (.missingKey key)

/-- The position that an index denotes. -/
def position (key : Value) (length : Nat) : Except ErrorKind Nat := do
  resolveIndex (← key.asInteger) length false

/-- Read a property: an entry of an object, or a method of a text or an array. -/
def getProperty (container : Value) (name : String) : Run Value := do
  match container with
  | .object ref => Run.lift (valueOf (← Run.objectOf ref) name)
  | .string _ | .array _ =>
    match Native.method? container name with
    | some function => Run.newFunction (.bound container function)
    | none => Run.failWith (container.typeName ++ " has no method '" ++ name ++ "'")
  | other => Run.fail (other.mismatch ("object for property '" ++ name ++ "'"))

/-- Read an element of an object, an array or a text. -/
def getIndex (store : Store) (container key : Value) : Except ErrorKind Value :=
  match container with
  | .object ref => do valueOf (store.object ref) (← key.asString)
  | .array ref => do
    let items := store.array ref
    return items.getD (← position key items.size) .null
  | .string text => do
    return .string (← StringFunction.charText text (← key.asInteger))
  | other => .error (other.mismatch "object, array or string to index")

def get (context : Context) : Place → Run Value
  | .variable name => do
    match (← MonadState.get).frames.get? context.scope name with
    | some value => return value
    | none => Run.fail (.undefinedVariable name)
  | .bare name => do
    let store ← MonadState.get
    match (store.object context.root).get? name with
    | some value => return value
    | none =>
      match store.frames.get? context.scope name with
      | some value => return value
      | none => Run.fail (.undefinedName name)
  | .property container name => getProperty container name
  | .index container key => do
    Run.lift (getIndex (← MonadState.get) container key)

def setKey (ref : ObjectRef) (key : String) (value : Value) : Run Unit :=
  modify fun store => store.modifyObject ref fun entries => entries.insert key value

def set (context : Context) (value : Value) : Place → Run Unit
  | .variable name =>
    Run.changeFrames fun frames => frames.planAssign context.scope name value
  | .bare name => setKey context.root name value
  | .property container name => do
    setKey (← Run.lift container.asObject) name value
  | .index (.object ref) key => do
    setKey ref (← Run.lift key.asString) value
  | .index (.array ref) key => do
    let size := (← Run.arrayOf ref).size
    let place ← Run.lift (position key size)
    modify fun store => store.modifyArray ref fun items => items.setIfInBounds place value
  | .index other _ => Run.fail (other.mismatch "object or array to assign into")

def deleteKey (ref : ObjectRef) (key : String) : Run Unit := do
  if (← Run.objectOf ref).contains key then
    modify fun store => store.modifyObject ref fun entries => entries.erase key
  else Run.fail (.missingKey key)

def delete (context : Context) : Place → Run Unit
  | .variable name => Run.changeFrames fun frames => frames.planRemove context.scope name
  | .bare name => deleteKey context.root name
  | .property container name => do
    deleteKey (← Run.lift container.asObject) name
  | .index (.object ref) key => do
    deleteKey ref (← Run.lift key.asString)
  | .index (.array ref) key => do
    let size := (← Run.arrayOf ref).size
    let place ← Run.lift (position key size)
    modify fun store => store.modifyArray ref fun items => items.eraseIdxIfInBounds place
  | .index other _ => Run.fail (other.mismatch "object or array to delete from")

end Place
end PatchScript
