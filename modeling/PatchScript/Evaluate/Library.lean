import PatchScript.Evaluate.Call
import PatchScript.ScriptLibrary

/-!
# Importing libraries

A library is an object.  Native libraries come first; a script library is a
program that is run once, on an empty object and without variables.  A library
that is being loaded cannot be imported.
-/

namespace PatchScript

/-- What an execution is given. -/
structure Host where
  maxCallDepth : Nat := 256
  /-- The script libraries, if there are any to look in. -/
  scripts : Option ScriptLibraries := none

namespace Host

def script? (host : Host) (name : String) : Option Program :=
  host.scripts.bind fun scripts => scripts.get? name

/-- What can be seen of the libraries. -/
def describeLibraries (host : Host) : String :=
  "Libraries \x7b locators: " ++ (if host.scripts.isSome then "2" else "1") ++ " \x7d"

end Host

namespace Evaluate

/-- Add the functions of a library as entries. -/
def functionEntries : List Native → OrderedMap Value → Run (OrderedMap Value)
  | [], built => return built
  | function :: rest, built => do
    let value ← Run.newFunction (.native function)
    functionEntries rest (built.insert function.name value)

/-- Fill an object with the contents of a native library. -/
def populate (library : NativeLibrary) (ref : ObjectRef) : Run Unit := do
  let constants := OrderedMap.ofEntries
    (library.constants.map fun constant => (constant.1, Value.number constant.2))
  let contents ← functionEntries library.functions constants
  modify fun store => store.modifyObject ref fun _ => contents

/-- Fill an object with the contents of a library, if there is one of the name. -/
def locate (host : Host) (below : Interpreter) (name : String) (ref : ObjectRef) : Run Bool := do
  match NativeLibrary.ofName? name with
  | some library =>
    populate library ref
    return true
  | none =>
    match host.script? name with
    | some library =>
      let context ← Run.isolated ref
      below.runLibrary name context library
      return true
    | none => return false

def beginLoading (name : String) (store : Store) : Store :=
  { store with loading := store.loading ++ [name] }

def endLoading (store : Store) : Store :=
  { store with loading := store.loading.dropLast }

def cache (name : String) (ref : ObjectRef) (store : Store) : Store :=
  { store with imports := store.imports.insert name ref }

def load (host : Host) (below : Interpreter) (name : String) (span : Span) : Run Value := do
  modify (beginLoading name)
  let ref ← Run.newObject OrderedMap.empty
  let found ← Run.ensuring
    (Run.wrapping (.inLibrary name) span (locate host below name ref)) endLoading
  if found then
    modify (cache name ref)
    return .object ref
  else Run.failAt (.unknownLibrary name) span

def importLibrary (host : Host) (below : Interpreter) (name : String)
    (span : Span) : Run Value := do
  let store ← get
  match store.imports.get? name with
  | some ref => return .object ref
  | none =>
    if store.loading.contains name then
      Run.failAt (.cyclicImport (store.loading ++ [name])) span
    else load host below name span

end Evaluate
end PatchScript
