import PatchScript.Evaluate.Library
import PatchScript.Syntax.Height

/-!
# Executions

The rules of the language tied into one interpreter.  Each level of nesting and
each turn of a loop uses up budget, so that every computation ends.  The budget of
an execution is beyond what any computation can use up in its time; and it is enough
for every nesting of calls and libraries that the host admits, so that only a loop
with a condition can use it up.
-/

namespace PatchScript

def interpreter (host : Host) : Nat → Interpreter
  | 0 => Interpreter.exhausted
  | budget + 1 =>
    { evaluate := fun context expr =>
        Evaluate.expression (interpreter host budget) context expr
      execute := fun context statement =>
        Evaluate.statement (interpreter host budget) context statement
      call := fun function arguments span =>
        Evaluate.call host.maxCallDepth (interpreter host budget) function arguments span
      importLibrary := fun name span =>
        Evaluate.importLibrary host (interpreter host budget) name span
      runLibrary := fun _ context library =>
        Evaluate.program (interpreter host budget) context library.statements
      patience := budget }

namespace Host

def scriptCount (host : Host) : Nat :=
  match host.scripts with
  | some scripts => scripts.size
  | none => 0

def height (host : Host) : Nat :=
  match host.scripts with
  | some scripts => (scripts.values.map (Program.height 1)).foldr max 0
  | none => 0

end Host

namespace Execution

/-- The budget for syntax of a height: for one tree in each call that can be active and
in each library that can be loading, and beyond that for more steps than can be made. -/
def budget (host : Host) (height : Nat) : Nat :=
  Nat.pow 2 60 + (host.maxCallDepth + host.scriptCount + 1) * (max height host.height + 2)

def execute (host : Host) (context : Context) (program : Program) : Run Unit :=
  Evaluate.program (interpreter host (budget host (program.height 1))) context program.statements

def evaluate (host : Host) (context : Context) (expr : Expr) : Run Value :=
  (interpreter host (budget host (expr.height 1))).evaluate context expr

def call (host : Host) (function : Value) (arguments : List Value) (span : Span) : Run Value :=
  (interpreter host (budget host 0)).call function arguments span

def importLibrary (host : Host) (name : String) (span : Span) : Run Value :=
  (interpreter host (budget host 0)).importLibrary name span

/-- Add the members of a document as an object, and make it the root of a context
without variables. -/
def start (members : List (String × Json)) : Run Context := do
  let root ← modifyGet fun store =>
    let (contents, store) := store.ofJsonMembers members OrderedMap.empty
    store.addObject contents
  Run.isolated root

end Execution
end PatchScript
