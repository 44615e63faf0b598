import PatchScript.Proofs.Evaluate.Soundness
import PatchScript.Proofs.Grammar.Acceptance

/-!
# What an execution guarantees

The errors of an execution say where they come from.  An execution of an accepted
program, with libraries that were accepted as well, does not run into an internal fault.
-/

namespace PatchScript

open Correspondence

/-- Script libraries that were all read from their sources. -/
inductive ScriptLibraries.Loaded : ScriptLibraries → Prop where
  | empty : Loaded OrderedMap.empty
  | load {libraries extended : ScriptLibraries} {name source : String} :
    Loaded libraries → libraries.load name source = .ok extended → Loaded extended

/-- A host whose script libraries were all read from their sources. -/
def Host.Loaded (host : Host) : Prop :=
  ∀ libraries, host.scripts = some libraries → ScriptLibraries.Loaded libraries

/-- Libraries that were read from their sources are well formed. -/
theorem ScriptLibraries.Loaded.wellFormed {libraries : ScriptLibraries} (loaded : Loaded libraries)
    {name : String} {library : Program} (found : libraries.get? name = some library) :
    library.WellFormed := by
  induction loaded with
  | empty => cases found
  | @load libraries extended loadedName source _ added ih =>
    rw [ScriptLibraries.load] at added
    cases read : Program.ofSource source loadedName with
    | error error =>
      rw [read] at added
      cases added
    | ok program =>
      rw [read] at added
      cases added
      rw [OrderedMap.get?_insert] at found
      split at found
      · cases found
        exact Program.wellFormed_of_ofSource read
      · exact ih found

theorem Host.Loaded.wellFormed {host : Host} (loaded : host.Loaded) {name : String}
    {library : Program} (found : host.script? name = some library) : library.WellFormed := by
  obtain ⟨libraries, scripts, present⟩ := Option.bind_eq_some_iff.mp found
  exact (loaded libraries scripts).wellFormed present

/-- Execute a program on a document, in a store of its own. -/
def Execution.onDocument (host : Host) (members : List (String × Json))
    (program : Program) : EStateM.Result Fault Store Unit :=
  (start members >>= fun context => execute host context program) Store.empty

namespace Execution

variable {checked : Prop} {host : Host}

theorem sound_start (members : List (String × Json)) :
    Run.Sound checked (fun _ => True) (start members) :=
  (corresponds_start (soundness checked) () members).sound fun _ _ _ => trivial

/-- A program is executed soundly. -/
theorem sound_execute
    (libraries : checked → ∀ name library, host.script? name = some library → library.WellFormed)
    (context : Context) {program : Program} (wellFormed : checked → program.WellFormed) :
    Run.Sound checked (fun _ => True) (execute host context program) := by
  have sound := interpreter_sound libraries (budget host (program.height 1))
  have corresponds := Evaluate.corresponds_program sound.parts (identity_blocks context)
    (fun _ _ related => congrArg Statement.span related.2) (statements_soundness wellFormed)
  exact corresponds.sound fun _ _ _ => trivial

/-- Every layer of an error has a place, a layer with a cause is that of a call or of the
loading of a library, and the root cause is neither. -/
theorem error_located (host : Host) (context : Context) (program : Program) {before after : Store}
    {error : EvalError}
    (failed : execute host context program before = .error (.error error) after) :
    (∀ layer ∈ error.layers, layer.span.isSome) ∧
      (∀ layer ∈ error.layers.dropLast, layer.kind.isWrapper = true) ∧
      error.rootCause.kind.isWrapper = false := by
  have sound : Run.Sound False (fun _ => True) (execute host context program) :=
    sound_execute nofun context nofun
  have located := sound.fails_of_error nofun failed
  exact ⟨located.placed, located.wrapping, located.root.cause⟩

/-- `[""].map(function (x) => $missing);` -/
def failingCallback : Program :=
  let somewhere : Span := { file := "", start := Position.start, stop := Position.start }
  let placed := Expr.node somewhere
  let mapped := placed (.reference (.node somewhere
    (.property (placed (.array [placed (.literal (.string ""))])) "map")))
  let callback := placed (.function (.node none [.named "x"]
    (.expression (placed (.reference (.node somewhere (.variable "missing"))))) somewhere))
  { metadata := OrderedMap.empty
    statements := [.node somewhere (.expression (placed (.call mapped [callback])))] }

/-- The call of a native function wraps the call it makes, which wraps the cause. -/
theorem error_located_failingCallback :
    ∃ error after,
      execute {} default failingCallback Store.empty = .error (.error error) after ∧
      error.layers.length = 3 ∧
      (∀ layer ∈ error.layers, layer.span.isSome) ∧
      (∀ layer ∈ error.layers.dropLast, layer.kind.isWrapper = true) ∧
      error.rootCause.kind.isWrapper = false := by
  obtain ⟨error, after, failed, depth⟩ : ∃ error after,
      execute {} default failingCallback Store.empty = .error (.error error) after ∧
        error.layers.length = 3 := ⟨_, _, rfl, rfl⟩
  exact ⟨error, after, failed, depth, error_located {} default failingCallback failed⟩

/-- The layers of a located error of a checked program are no internal faults. -/
theorem not_internalFault_of_located {error : EvalError} (located : error.Located True)
    {layer : ErrorLayer} (member : layer ∈ error.layers) :
    layer.kind ∉ ErrorKind.internalFaults := by
  have nonempty : error.layers ≠ [] := List.cons_ne_nil _ _
  have last : error.layers.getLast nonempty = error.rootCause := by
    rw [← Option.some.injEq, ← List.getLast?_eq_some_getLast]
    simp [EvalError.layers, EvalError.rootCause, List.getLast?_cons]
  rw [← List.dropLast_append_getLast nonempty, last] at member
  obtain outer | root := List.mem_append.mp member
  · have wraps := located.wrapping layer outer
    intro fault
    cases kind : layer.kind <;> simp_all [ErrorKind.isWrapper, ErrorKind.internalFaults]
  · rw [List.mem_singleton.mp root]
    exact located.root.noFault trivial

/-- A body of a well-formed function does not end in a jump. -/
theorem body_not_jump (loaded : host.Loaded) (budget : Nat) (context : Context)
    {store after : Store} (wellFormedStore : store.WellFormed) {ref : FunctionRef}
    {definition : FunctionDef} {captured : Option Context}
    (present : store.function ref = some (.script definition captured)) {body : List Statement}
    (isBody : definition.body = .block body) {signal : Signal}
    (ran : Evaluate.statements (interpreter host budget) context body store = .ok signal after) :
    signal.isJump = false := by
  have wellFormed : definition.WellFormed := wellFormedStore ref _ present
  obtain ⟨name, parameters, _, span⟩ := definition
  cases isBody
  have sound := interpreter_sound (fun (_ : True) _ _ => loaded.wellFormed) budget
  have corresponds := Evaluate.corresponds_statements sound.parts (identity_blocks context)
    (statements_soundness fun _ => wellFormed.2)
  have stays : Run.Sound True (fun signal => signal.isJump = false)
      (Evaluate.statements (interpreter host budget) context body) := by
    refine corresponds.sound fun _ _ signals => ?_
    cases signals with
    | normal | returned => rfl
    | breakLoop inside | continueLoop inside => exact nomatch inside trivial
  exact stays.post_of_ok (fun _ => wellFormedStore) ran

/-- An accepted program is well formed: every statement of it was read, jumps stand in
loops of their own function, declared functions have names, and neither parameters nor
keys are repeated.  Hence its execution, with libraries that were accepted as well, fails
with no internal fault and leaves only well-formed functions behind; and the body of such
a function never ends in a jump. -/
theorem accepted_program_without_faults {rules : Grammar.TagRules} {tokens : List Token}
    {program : Program} (accepted : Grammar.programOfTokens rules tokens = .ok program) :
    program.WellFormed ∧
      ∀ host : Host, host.Loaded →
        (∀ members,
          (∀ error after, onDocument host members program = .error (.error error) after →
            ∀ layer ∈ error.layers, layer.kind ∉ ErrorKind.internalFaults) ∧
          (Run.finalStore (onDocument host members program)).WellFormed) ∧
        ∀ (store : Store) ref definition captured body, store.WellFormed →
          store.function ref = some (.script definition captured) →
          definition.body = .block body →
          ∀ budget context signal after,
            Evaluate.statements (interpreter host budget) context body store = .ok signal after →
            signal.isJump = false := by
  have wellFormed := Grammar.wellFormed_of_programOfTokens accepted
  refine ⟨wellFormed, fun host loaded => ⟨fun members => ?_, ?_⟩⟩
  · have sound : Run.Sound True (fun _ => True)
        (start members >>= fun context => execute host context program) :=
      (sound_start members).bind fun context _ =>
        sound_execute (fun _ _ _ => loaded.wellFormed) context fun _ => wellFormed
    have empty : (Discipline.evaluation True).Holds Store.empty :=
      fun _ _ _ present => nomatch present
    refine ⟨fun error after failed layer => ?_, sound.holds_final empty trivial⟩
    exact not_internalFault_of_located (sound.fails_of_error empty failed)
  · intro store ref definition captured body wellFormedStore present isBody budget context signal
      after ran
    exact body_not_jump loaded budget context wellFormedStore present isBody ran

/-- The tokens of `function f(a) { foreach (x in $a) { if (x) break; } }`. -/
def jumpInLoopTokens : List Token :=
  let somewhere : Span := { file := "", start := Position.start, stop := Position.start }
  [.keyword .functionWord, .word "f", .symbol .leftParen, .word "a", .symbol .rightParen,
    .symbol .leftBrace, .keyword .foreachWord, .symbol .leftParen, .word "x", .keyword .inWord,
    .variable "a", .symbol .rightParen, .symbol .leftBrace, .keyword .ifWord, .symbol .leftParen,
    .word "x", .symbol .rightParen, .keyword .breakWord, .symbol .semicolon, .symbol .rightBrace,
    .symbol .rightBrace].map fun kind => { kind, span := somewhere }

theorem accepted_program_without_faults_jumpInLoop :
    ∃ program,
      Grammar.programOfTokens .standard jumpInLoopTokens = .ok program ∧
      program.WellFormed ∧
      ∀ members,
        (∀ error after, onDocument {} members program = .error (.error error) after →
          ∀ layer ∈ error.layers, layer.kind ∉ ErrorKind.internalFaults) ∧
        (Run.finalStore (onDocument {} members program)).WellFormed := by
  obtain ⟨program, accepted⟩ : ∃ program,
      Grammar.programOfTokens .standard jumpInLoopTokens = .ok program := ⟨_, rfl⟩
  obtain ⟨wellFormed, runs⟩ := accepted_program_without_faults accepted
  exact ⟨program, accepted, wellFormed, (runs {} nofun).1⟩

end Execution

end PatchScript
