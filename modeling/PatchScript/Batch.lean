import PatchScript.Execution

/-!
# Applying patches to a document

A batch applies patches one after the other.  A patch that fails leaves the
document as it was.
-/

namespace PatchScript

/-- How a batch is run. -/
structure BatchConfig where
  /-- How many sources are read at once; by default as many as the machine can. -/
  maxParallelism : Option Nat := none
  /-- How long a patch may take, in milliseconds. -/
  timeoutMillis : Nat := 5000
  /-- The stack of a worker in bytes. -/
  workerStackSize : Nat := 16777216
  /-- How many calls may be active at once. -/
  maxCallDepth : Nat := 256
  /-- Whether the first failure ends the batch. -/
  failFast : Bool := false

namespace BatchConfig

/-- A natural number of 64 bits. -/
def natural? : Json → Option Nat
  | .number (.integer (.ofNat value)) => if value < Nat.pow 2 64 then some value else none
  | _ => none

def flag? : Json → Option Bool
  | .bool value => some value
  | _ => none

/-- An optional member of a configuration: its value, or a default if it is
absent.  A member of the wrong type has no value. -/
def memberOr {α : Type} (json : Json) (name : String) (read : Json → Option α)
    (default : α) : Option α :=
  match json.member? name with
  | some member => read member
  | none => some default

/-- The configuration that a JSON object describes. -/
def ofJson? (json : Json) : Option BatchConfig :=
  match json with
  | .object _ => do
    let standard : BatchConfig := {}
    let maxParallelism ←
      memberOr json "max_parallelism" (fun member => (natural? member).map some)
        standard.maxParallelism
    let timeoutMillis ← memberOr json "timeout_ms" natural? standard.timeoutMillis
    let workerStackSize ← memberOr json "worker_stack_size" natural? standard.workerStackSize
    let maxCallDepth ← memberOr json "max_call_depth" natural? standard.maxCallDepth
    let failFast ← memberOr json "fail_fast" flag? standard.failFast
    return {
      maxParallelism := maxParallelism
      timeoutMillis := timeoutMillis
      workerStackSize := workerStackSize
      maxCallDepth := maxCallDepth
      failFast := failFast }
  | _ => none

end BatchConfig

/-- A program with a name. -/
structure Patch where
  id : String
  program : Program

namespace Patch

def ofSource (id source : String) : Except SourceError Patch :=
  (Program.ofSource source id).map fun program => { id := id, program := program }

/-- Whether the header of a patch names a target, alone or in a list. -/
def isFor (patch : Patch) (target : String) : Bool :=
  match patch.program.target? with
  | some (.string name) => name == target
  | some (.array names) => names.any fun
    | .string name => name == target
    | _ => false
  | _ => false

end Patch

/-- Why a patch failed. -/
inductive PatchError where
  | evaluation (error : EvalError)
  | document (error : DocumentError)
  | interrupted

/-- The kind of value a document becomes. -/
def Json.kind : Json → ValueKind
  | .null => .null
  | .bool _ => .boolean
  | .number _ => .number
  | .string _ => .string
  | .array _ => .array
  | .object _ => .object

namespace Patch

/-- Run a patch on the members of an object and return its root. -/
def run (host : Host) (patch : Patch) (members : List (String × Json)) : Run ObjectRef := do
  let context ← Execution.start members
  Execution.execute host context patch.program
  return context.root

/-- Apply a patch to a document.  The result comes with what the patch logged. -/
def apply (host : Host) (patch : Patch)
    (document : Json) : Except PatchError Json × List LogEntry :=
  match document with
  | .object members =>
    match patch.run host members Store.empty with
    | .ok root store =>
      ((store.toJson (.object root)).mapError PatchError.document, store.log.toList)
    | .error (.error error) store => (.error (.evaluation error), store.log.toList)
    | .error _ store => (.error .interrupted, store.log.toList)
  | other => (.error (.document (.notObject other.kind)), [])

end Patch

/-- A patch that failed. -/
structure PatchFailure where
  patch : String
  error : PatchError

/-- What came of a batch. -/
structure BatchOutcome where
  document : Json
  applied : List String
  failures : List PatchFailure
  log : List LogEntry

namespace BatchOutcome

def initial (document : Json) : BatchOutcome :=
  { document := document, applied := [], failures := [], log := [] }

def isSuccess (outcome : BatchOutcome) : Bool :=
  outcome.failures.isEmpty

end BatchOutcome

namespace Batch

/-- Apply patches in order, after what came of those before. -/
def applyFrom (host : Host) (failFast : Bool) : List Patch → BatchOutcome → BatchOutcome
  | [], outcome => outcome
  | patch :: patches, outcome =>
    let (result, logged) := patch.apply host outcome.document
    let outcome := { outcome with log := outcome.log ++ logged }
    match result with
    | .ok document =>
      applyFrom host failFast patches
        { outcome with document := document, applied := outcome.applied ++ [patch.id] }
    | .error error =>
      let outcome :=
        { outcome with
          failures := outcome.failures ++ [{ patch := patch.id, error := error }] }
      if failFast then outcome else applyFrom host failFast patches outcome

/-- Apply the selected patches to a document. -/
def applyAll (config : BatchConfig) (scripts : ScriptLibraries) (select : Patch → Bool)
    (patches : List Patch) (document : Json) : BatchOutcome :=
  let host : Host := { maxCallDepth := config.maxCallDepth, scripts := some scripts }
  applyFrom host config.failFast (patches.filter select) (BatchOutcome.initial document)

end Batch
end PatchScript
