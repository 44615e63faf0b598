import PatchScript.Proofs.Evaluate.Uniform
import PatchScript.Proofs.Run.Reflexive

/-!
# Watching a run

What happens inside of a run is not seen from its outcome.  A watched interpreter works
like the plain one, and takes notes in the log whenever an event happens.  Since no program
can read the log, it does all else in the same way.  If a note is a line for each event that
is looked for, then the lines that there are more count the events.

This module proves what holds of notes in every run, given the libraries that are loaded and
the variables: if it holds at the start, if the steps that a run makes with variables keep
it, and if every event keeps it that can happen by the protocol of imports, then it holds in
the end.
-/

namespace PatchScript

open Correspondence
open Run (Corresponds)

/-- What can be noticed of a run. -/
inductive Event where
  /-- Something begins to be evaluated, executed, called, imported or run. -/
  | began (store : Store)
  /-- The evaluation of an expression, the execution of a statement or a call has ended. -/
  | ended (store : Store)
  /-- An import at a place has ended; with the store before it. -/
  | imported (name : String) (span : Span) (before : Store)
      (result : EStateM.Result Fault Store Value)
  /-- The program of a script library has ended. -/
  | ran (name : String) (result : EStateM.Result Fault Store Unit)

/-- The store at the time of an event. -/
def Event.store : Event → Store
  | .began store => store
  | .ended store => store
  | .imported _ _ _ result => Run.finalStore result
  | .ran _ result => Run.finalStore result

/-! ## Watched interpreters -/

variable {store store' : Store} {name : String}

/-- How notes are taken: what is to become of the log when an event happens. -/
abbrev Notes := Event → Array LogEntry → Array LogEntry

section Noting

variable (notes : Notes)

/-- Note an event in the log. -/
def Store.note (store : Store) (event : Event) : Store :=
  { store with log := notes event store.log }

/-- Note how a computation has ended. -/
def Run.noteEnd {α : Type} (event : EStateM.Result Fault Store α → Event) :
    EStateM.Result Fault Store α → EStateM.Result Fault Store α
  | .ok value after => .ok value (after.note notes (event (.ok value after)))
  | .error fault after => .error fault (after.note notes (event (.error fault after)))

/-- Note that a computation begins and how it ends. -/
def Run.watched {α : Type} (event : Store → EStateM.Result Fault Store α → Event)
    (computation : Run α) : Run α := fun store =>
  let before := store.note notes (.began store)
  noteEnd notes (event before) (computation before)

/-- Note what an interpreter does. -/
def Interpreter.watched (inner : Interpreter) : Interpreter where
  evaluate context expr :=
    Run.watched notes (fun _ result => .ended (Run.finalStore result)) (inner.evaluate context expr)
  execute context statement :=
    Run.watched notes (fun _ result => .ended (Run.finalStore result))
      (inner.execute context statement)
  call function arguments span :=
    Run.watched notes (fun _ result => .ended (Run.finalStore result))
      (inner.call function arguments span)
  importLibrary name span := Run.watched notes (.imported name span) (inner.importLibrary name span)
  runLibrary name context library :=
    Run.watched notes (fun _ => .ran name) (inner.runLibrary name context library)
  patience := inner.patience

/-- The interpreter with a budget, watched at every level as long as there is budget. -/
def notingInterpreter (host : Host) : Nat → Interpreter
  | 0 => Interpreter.exhausted
  | budget + 1 => (Interpreter.above host (notingInterpreter host budget) budget).watched notes

end Noting

/-- The line that notes an event. -/
def LogEntry.noted : LogEntry :=
  { span := { file := "", start := Position.start, stop := Position.start }, text := "" }

/-- Write a line whenever an event happens that is looked for. -/
def Notes.counting (watch : Event → Prop) [DecidablePred watch] : Notes := fun event log =>
  if watch event then log.push .noted else log

/-- The interpreter that writes a line whenever an event happens that is looked for. -/
def watchedInterpreter (watch : Event → Prop) [DecidablePred watch]
    (host : Host) : Nat → Interpreter :=
  notingInterpreter (Notes.counting watch) host

/-! ## Sessions -/

/-- What an execution can be asked for. -/
inductive Request where
  | start (members : List (String × Json))
  | execute (context : Context) (program : Program)
  | evaluate (context : Context) (expr : Expr)
  | call (function : Value) (arguments : List Value) (span : Span)
  | importLibrary (name : String) (span : Span)

/-- Do what is asked for. -/
def Request.perform (interpreter : Interpreter) : Request → Run Unit
  | .start members => do
    let _ ← Execution.start members
  | .execute context program => Evaluate.program interpreter context program.statements
  | .evaluate context expr => do
    let _ ← interpreter.evaluate context expr
  | .call function arguments span => do
    let _ ← interpreter.call function arguments span
  | .importLibrary name span => do
    let _ ← interpreter.importLibrary name span

/-- Answer requests one after the other, each with a budget of its own and whatever came of
those before. -/
def session (interpreters : Nat → Interpreter) : List (Nat × Request) → Store → Store
  | [], store => store
  | (budget, request) :: rest, store =>
    session interpreters rest (Run.finalStore (request.perform (interpreters budget) store))

/-- How often an event happens while requests are answered. -/
def occurrences (host : Host) (watch : Event → Prop) [DecidablePred watch]
    (requests : List (Nat × Request)) (store : Store) : Nat :=
  (session (watchedInterpreter watch host) requests store).log.size -
    (session (interpreter host) requests store).log.size

/-! ## The protocol of imports -/

/-- A library is begun to be loaded at most once at a time, and not any more when it is
loaded. -/
structure Store.Protocol (store : Store) : Prop where
  nodup : store.loading.Nodup
  disjoint : ∀ name ∈ store.loading, store.imports.get? name = none

theorem protocol_empty : Store.empty.Protocol := ⟨List.nodup_nil, nofun⟩

/-- How an import ends. -/
inductive Imports (name : String) (span : Span)
    (before : Store) : EStateM.Result Fault Store Value → Prop where
  | cached {ref : ObjectRef} :
    before.imports.get? name = some ref → Imports name span before (.ok (.object ref) before)
  | cyclic :
    before.imports.get? name = none → name ∈ before.loading →
    Imports name span before
      (.error (.error (.ofKindAt (.cyclicImport (before.loading ++ [name])) span)) before)
  | loaded {ref : ObjectRef} {after : Store} :
    name ∉ before.loading → after.Protocol → after.loading = before.loading →
    after.imports.get? name = some ref → Imports name span before (.ok (.object ref) after)
  | failed {fault : Fault} {after : Store} :
    name ∉ before.loading → after.Protocol → after.loading = before.loading →
    after.imports.get? name = none → Imports name span before (.error fault after)

theorem Imports.protocol {span : Span} {before : Store} {result : EStateM.Result Fault Store Value}
    (imports : Imports name span before result) (protocol : before.Protocol) :
    (Run.finalStore result).Protocol := by
  cases imports with
  | cached | cyclic => exact protocol
  | loaded _ after | failed _ after => exact after

/-! ## What notes keep to -/

/-- What holds of the libraries that are loaded, of the variables, and of the log of a run and
the log with notes, whatever the run does to variables and writes to the log. -/
structure Ledger where
  Holds : OrderedMap ObjectRef → Frames → Array LogEntry → Array LogEntry → Prop
  step {imports : OrderedMap ObjectRef} {frames after : Frames} {log log' : Array LogEntry} :
    frames.Step after → Holds imports frames log log' → Holds imports after log log'
  push {imports : OrderedMap ObjectRef} {frames : Frames} {log log' : Array LogEntry}
    (entry : LogEntry) :
    Holds imports frames log log' → Holds imports frames (log.push entry) (log'.push entry)

namespace Ledger

/-- What holds of a store with notes, given the log without them. -/
def At (ledger : Ledger) (log : Array LogEntry) (store : Store) : Prop :=
  ledger.Holds store.imports store.frames log store.log

/-- What holds when the program of a library has ended, so that its object can be kept. -/
def afterLibrary (ledger : Ledger) (name : String) : Ledger where
  Holds imports frames log log' := ∀ ref, ledger.Holds (imports.insert name ref) frames log log'
  step steps holds ref := ledger.step steps (holds ref)
  push entry holds ref := ledger.push entry (holds ref)

end Ledger

/-- The notes of every event keep to a ledger, as long as the events that happen are those
that the protocol admits. -/
structure Permits (notes : Notes) (ledger : Ledger) : Prop where
  grows {imports : OrderedMap ObjectRef} {frames : Frames} {log log' : Array LogEntry}
    {name : String} (ref : ObjectRef) :
    imports.get? name = none → ledger.Holds imports frames log log' →
    ledger.Holds (imports.insert name ref) frames log log'
  began {store : Store} {log : Array LogEntry} :
    store.Protocol → ledger.At log store → ledger.At log (store.note notes (.began store))
  ended {store : Store} {log : Array LogEntry} :
    store.Protocol → ledger.At log store → ledger.At log (store.note notes (.ended store))
  imported {name : String} {span : Span} {before : Store}
    {result : EStateM.Result Fault Store Value} {log : Array LogEntry} :
    before.Protocol → Imports name span before result → ledger.At log (Run.finalStore result) →
    ledger.At log ((Run.finalStore result).note notes (.imported name span before result))
  /-- The object of a library is kept when its program has ended. -/
  finished {name : String} {after : Store} {log : Array LogEntry} :
    after.Protocol → name ∈ after.loading → ledger.At log after →
    (ledger.afterLibrary name).At log (after.note notes (.ran name (.ok () after)))
  broken {name : String} {fault : Fault} {after : Store} {log : Array LogEntry} :
    after.Protocol → ledger.At log after →
    ledger.At log (after.note notes (.ran name (.error fault after)))

/-- Where a watched run is: which libraries it is loading, and which ledger it keeps to. -/
structure WatchPhase where
  loading : List String
  ledger : Ledger

/-- A store and the one of a watched run, which has notes in its log. -/
structure Watched (phase : WatchPhase) (store store' : Store) : Prop where
  protocol : store.Protocol
  loading : store.loading = phase.loading
  same : store' = { store with log := store'.log }
  holds : phase.ledger.At store.log store'

/-- The correspondence of a run with a watched one. -/
def Correspondence.watching : Correspondence :=
  reflexive Watched (fun _ => True) False True

variable {phase : WatchPhase}

section

variable (stores : Watched phase store store')
include stores

theorem Watched.protocol' : store'.Protocol := by
  rw [stores.same]
  exact ⟨stores.protocol.nodup, stores.protocol.disjoint⟩

theorem Watched.imports_eq : store'.imports = store.imports := by
  rw [stores.same]

theorem Watched.frames_eq : store'.frames = store.frames := by
  rw [stores.same]

theorem Watched.loading_eq : store'.loading = store.loading := by
  rw [stores.same]

end

instance lawful_watching : watching.Lawful := by
  refine Loose.lawful ⟨?_, ?_, ?_, ?_, ?_, ?_⟩
  · exact fun stores => stores.same
  · intro _ _ _ _ callable _ _
    cases callable <;> trivial
  · intro _ store store' objects arrays ⟨protocol, loading, same, holds⟩ _
    refine ⟨⟨protocol.nodup, protocol.disjoint⟩, loading, ?_, holds⟩
    rw [same]
  · intro phase store store' after stores steps
    have steps' : store'.frames.Step after := stores.frames_eq ▸ steps
    obtain ⟨protocol, loading, same, holds⟩ := stores
    refine ⟨⟨protocol.nodup, protocol.disjoint⟩, loading, ?_, phase.ledger.step steps' holds⟩
    rw [same]
  · intro _ store store' callable ⟨protocol, loading, same, holds⟩ _ _
    refine ⟨⟨protocol.nodup, protocol.disjoint⟩, loading, ?_, holds⟩
    rw [same]
    rfl
  · intro phase store store' entry ⟨protocol, loading, same, holds⟩
    refine ⟨⟨protocol.nodup, protocol.disjoint⟩, loading, ?_, phase.ledger.push entry holds⟩
    rw [same]

/-- An event may be noted where the notes keep to a ledger. -/
theorem Watched.note {notes : Notes} (stores : Watched phase store store') {event : Event}
    {ledger : Ledger} (noted : ledger.At store.log (store'.note notes event)) :
    Watched { phase with ledger := ledger } store (store'.note notes event) := by
  obtain ⟨protocol, loading, same, _⟩ := stores
  refine ⟨protocol, loading, ?_, noted⟩
  rw [same]
  rfl

/-- How a computation has ended may be noted where the notes keep to a ledger. -/
theorem outcomes_noteEnd {α β : Type} {notes : Notes} {errors : EvalError → EvalError → Prop}
    {values : α → β → Prop} {result : EStateM.Result Fault Store α}
    {result' : EStateM.Result Fault Store β} {event : EStateM.Result Fault Store β → Event}
    {finished : Ledger} (outcomes : watching.Outcomes phase phase errors values result result')
    (ok : ∀ {value before after}, result' = .ok value after → Watched phase before after →
      finished.At before.log (after.note notes (event (.ok value after))))
    (error : ∀ {fault before after}, result' = .error fault after → Watched phase before after →
      phase.ledger.At before.log (after.note notes (event (.error fault after)))) :
    watching.Outcomes { phase with ledger := finished } phase errors values result
      (Run.noteEnd notes event result') := by
  cases outcomes with
  | ok stores related => exact .ok (stores.note (ok rfl stores)) related
  | failed stores related => exact .failed (stores.note (error rfl stores)) related
  | exhausted stores exhausts => exact .exhausted (stores.note (error rfl stores)) exhausts
  | stopped _ guarded => exact False.elim guarded

/-! ## Watched operations -/

section Operations

variable {notes : Notes} {ledger : Ledger} (permits : Permits notes ledger) {loading : List String}
variable {below below' : Interpreter}

include permits

theorem Watched.begin (stores : Watched ⟨loading, ledger⟩ store store') :
    Watched ⟨loading, ledger⟩ store (store'.note notes (.began store')) :=
  stores.note (permits.began stores.protocol' stores.holds)

/-- A computation that is watched does what it does otherwise. -/
theorem corresponds_watched {α β : Type} {errors : EvalError → EvalError → Prop}
    {values : α → β → Prop} {first : Run α} {second : Run β}
    (corresponds : Corresponds watching ⟨loading, ledger⟩ errors values first second) :
    Corresponds watching ⟨loading, ledger⟩ errors values first
      (Run.watched notes (fun _ result => .ended (Run.finalStore result)) second) := by
  intro store store' stores
  simp only [Run.watched]
  refine outcomes_noteEnd (corresponds _ _ (stores.begin permits)) ?_ ?_
  all_goals exact fun _ stores => permits.ended stores.protocol' stores.holds

/-! ## Watched libraries -/

theorem outcomes_watched_library (inFlight : name ∈ loading) {errors : EvalError → EvalError → Prop}
    {values : Unit → Unit → Prop} {first second : Run Unit}
    (corresponds : Corresponds watching ⟨loading, ledger⟩ errors values first second)
    (stores : Watched ⟨loading, ledger⟩ store store') :
    watching.Outcomes ⟨loading, ledger.afterLibrary name⟩ ⟨loading, ledger⟩ errors values
      (first store) (Run.watched notes (fun _ => .ran name) second store') := by
  refine outcomes_noteEnd (corresponds _ _ (stores.begin permits)) (fun _ stores => ?_)
    fun _ stores => permits.broken stores.protocol' stores.holds
  have loads := stores.loading_eq.trans stores.loading
  exact permits.finished stores.protocol' (loads ▸ inFlight) stores.holds

/-- A watched run enters the loading of a library and leaves it by the protocol. -/
theorem loading_watching (stores : Watched ⟨loading, ledger⟩ store store')
    (absent : store.imports.get? name = none) (fresh : name ∉ store.loading) :
    watching.Loading name ⟨loading, ledger⟩ ⟨loading ++ [name], ledger⟩
      ⟨loading ++ [name], ledger.afterLibrary name⟩ store store' where
  enter := by
    obtain ⟨protocol, sameLoading, same, holds⟩ := stores
    refine ⟨⟨?_, ?_⟩, ?_, ?_, holds⟩
    · refine List.nodup_append.mpr ⟨protocol.nodup, by simp, fun other member _ last => ?_⟩
      rw [List.mem_singleton.mp last]
      exact fun same => fresh (same ▸ member)
    · intro other member
      obtain inner | last := List.mem_append.mp member
      · exact protocol.disjoint other inner
      · rw [List.mem_singleton.mp last]
        exact absent
    · simp only [Evaluate.beginLoading, sameLoading]
    · rw [same]
      rfl
  settle := by
    intro after after' stores
    have inFlight : name ∈ after'.loading := by simp [stores.loading_eq, stores.loading]
    exact ⟨stores.protocol, stores.loading, stores.same,
      fun ref => permits.grows ref (stores.protocol'.disjoint name inFlight) stores.holds⟩
  leave := by
    intro after after' ⟨protocol, sameLoading, same, holds⟩
    refine ⟨⟨protocol.nodup.sublist (List.dropLast_sublist _), ?_⟩, ?_, ?_, holds⟩
    · exact fun other member => protocol.disjoint other (List.dropLast_subset _ member)
    · simp [Evaluate.endLoading, sameLoading]
    · rw [same]
      rfl
  finish := by
    rintro after after' ref _ ⟨protocol, sameLoading, same, holds⟩ ⟨⟩
    have rest : after.loading.dropLast = loading := by simp [sameLoading]
    have others : name ∉ loading := by
      have distinct := protocol.nodup
      rw [sameLoading] at distinct
      exact fun member => (List.nodup_append.mp distinct).2.2 name member name (by simp) rfl
    refine ⟨⟨protocol.nodup.sublist (List.dropLast_sublist _), ?_⟩, rest, ?_, holds ref⟩
    · intro other member
      have differs : other ≠ name := fun same => others (rest ▸ same ▸ member)
      have absent := protocol.disjoint other (List.dropLast_subset _ member)
      simp only [Evaluate.cache, Evaluate.endLoading, OrderedMap.get?_insert]
      rw [if_neg differs]
      exact absent
    · rw [same]
      rfl

/-- Interpreters of which one is watched do the same, whatever is being loaded. -/
structure AlikeWhenWatched (ledger : Ledger) (below below' : Interpreter) : Prop where
  parts (loading : List String) : watching.Interpreters ⟨loading, ledger⟩ .same below below'
  libraries (loading : List String) (name : String) (library : Program) : name ∈ loading →
    watching.RunsLibrary ⟨loading, ledger.afterLibrary name⟩ ⟨loading, ledger⟩ name library below
      below'

section

variable (host : Host) (alike : AlikeWhenWatched ledger below below') (name : String) (span : Span)
include alike

/-- An import ends as the protocol admits, in a watched run as in any other. -/
theorem imports_importLibrary (stores : Watched ⟨loading, ledger⟩ store store') :
    watching.Outcomes ⟨loading, ledger⟩ ⟨loading, ledger⟩ watching.Errors watching.Values
        (Evaluate.importLibrary host below name span store)
        (Evaluate.importLibrary host below' name span store') ∧
      Imports name span store' (Evaluate.importLibrary host below' name span store') := by
  have loads (absent : store.imports.get? name = none) (fresh : name ∉ store.loading) :=
    Evaluate.loads_load host (loading_watching permits stores absent fresh)
      (fun library _ _ => alike.libraries (loading ++ [name]) name library (by simp))
      (rfl : watching.Spans span span)
  constructor
  · refine Evaluate.outcomes_importLibrary host ?_ stores.loading_eq.symm stores rfl
      fun absent fresh => ?_
    · rw [stores.imports_eq]
      exact optionRel_self fun _ _ => rfl
    · exact Evaluate.outcomes_of_loads (loading_watching permits stores absent fresh)
        (loads absent fresh)
  · cases found : store'.imports.get? name with
    | some ref =>
      rw [Evaluate.importLibrary_of_cached host below' span found]
      exact .cached found
    | none =>
      by_cases cyclic : name ∈ store'.loading
      · rw [Evaluate.importLibrary_of_loading host below' span found cyclic]
        exact .cyclic found cyclic
      · rw [Evaluate.importLibrary_of_absent host below' span found cyclic]
        have absent : store.imports.get? name = none := stores.imports_eq ▸ found
        have fresh : name ∉ store.loading := stores.loading_eq ▸ cyclic
        have protocol := loading_watching permits stores absent fresh
        have ended := loads absent fresh
        have loading' : store'.loading = loading := stores.loading_eq.trans stores.loading
        generalize Evaluate.load host below name span store = result,
          Evaluate.load host below' name span store' = result' at ended
        -- While the library is being loaded it is not yet kept.
        have unkept {after after' : Store}
            (inner : Watched ⟨loading ++ [name], ledger⟩ after after') :
            (Evaluate.endLoading after').imports.get? name = none := by
          have inFlight : name ∈ after.loading := by simp [inner.loading]
          exact inner.imports_eq ▸ inner.protocol.disjoint name inFlight
        cases ended with
        | @loaded _ after' _ ref' finished same =>
          have outer : Watched ⟨loading, ledger⟩ _ _ := protocol.finish finished same
          refine .loaded cyclic outer.protocol' ?_ ?_
          · rw [loading', outer.loading_eq, outer.loading]
          · simp only [Evaluate.cache, OrderedMap.get?_insert, if_pos]
        | failed inner | exhausted inner =>
          have outer : Watched ⟨loading, ledger⟩ _ _ := protocol.leave inner
          refine .failed cyclic outer.protocol' ?_ (unkept inner)
          rw [loading', outer.loading_eq, outer.loading]
        | stopped _ guarded => exact False.elim guarded

/-- A watched import does what it does otherwise. -/
theorem corresponds_watched_import :
    watching.Runs ⟨loading, ledger⟩ watching.Values
      (Evaluate.importLibrary host below name span)
      (Run.watched notes (.imported name span) (Evaluate.importLibrary host below' name span)) := by
  intro store store' stores
  have begun := stores.begin permits
  obtain ⟨outcomes, imports⟩ := imports_importLibrary permits host alike name span begun
  exact outcomes_noteEnd outcomes
    (fun same stores => permits.imported begun.protocol' (same ▸ imports) stores.holds)
    fun same stores => permits.imported begun.protocol' (same ▸ imports) stores.holds

end

/-! ## Watched interpreters -/

omit permits in
theorem alike_exhausted : AlikeWhenWatched ledger .exhausted .exhausted where
  parts _ := interpreters_exhausted trivial
  libraries _ _ _ _ _ _ _ _ _ stores := .exhausted stores trivial

omit permits in
theorem calling_watching (limit : Nat) :
    watching.Calling limit ⟨loading, ledger⟩ fun inner => inner = ⟨loading, ledger⟩ where
  depth stores := by rw [stores.same]
  enter := by
    intro store store' stores _
    have changed {after after' : Store} (stores : Watched ⟨loading, ledger⟩ after after')
        (depth : Nat) :
        Watched ⟨loading, ledger⟩ { after with callDepth := depth }
          { after' with callDepth := depth } := by
      obtain ⟨protocol, sameLoading, same, holds⟩ := stores
      refine ⟨⟨protocol.nodup, protocol.disjoint⟩, sameLoading, ?_, holds⟩
      rw [same]
    have depths {after after' : Store} (stores : Watched ⟨loading, ledger⟩ after after') :
        after'.callDepth = after.callDepth := by
      rw [stores.same]
    refine ⟨_, rfl, ?_, fun after after' inner => ?_⟩
    · rw [depths stores]
      exact changed stores _
    · simp only [Evaluate.leaveCall, depths inner]
      exact changed inner _

theorem AlikeWhenWatched.above (host : Host) (alike : AlikeWhenWatched ledger below below')
    (patience : Nat) :
    AlikeWhenWatched ledger (.above host below patience)
      ((Interpreter.above host below' patience).watched notes) where
  parts loading := by
    have throughout : watching.Throughout .same :=
      throughout_same (fun _ => rfl) (fun _ _ => and_iff_right trivial) id trivial
    have called (inner : WatchPhase) (same : inner = ⟨loading, ledger⟩) :
        watching.Interpreters inner .same below below' := same ▸ alike.parts loading
    have above : watching.Interpreters ⟨loading, ledger⟩ .same (.above host below patience)
        (.above host below' patience) := by
      refine .above (alike.parts loading) throughout.exprs throughout.statements
        (calling_watching host.maxCallDepth) id (fun inner same => ⟨called inner same, id⟩)
        throughout.made ?_ fun _ => .inl rfl
      rintro name span _ _ ⟨⟩ store store' stores
      exact (imports_importLibrary permits host alike name span stores).1
    exact {
      evaluate := fun contexts exprs => corresponds_watched permits (above.evaluate contexts exprs)
      execute := fun blocks statements =>
        corresponds_watched permits (above.execute blocks statements)
      call := fun functions values spans =>
        corresponds_watched permits (above.call functions values spans)
      importLibrary := by
        rintro name span _ _ ⟨⟩
        exact corresponds_watched_import permits host alike name span
      patience := fun _ => .inl rfl }
  libraries loading name library inFlight context context' blocks store store' stores := by
    refine outcomes_watched_library permits inFlight ?_ stores
    exact Evaluate.corresponds_program (alike.parts loading) blocks
      (fun _ _ same => congrArg Statement.span same) (forall₂_self fun _ _ => rfl)

/-- A watched interpreter does what the interpreter does, with every budget. -/
theorem alike_notingInterpreter (host : Host) (budget : Nat) :
    AlikeWhenWatched ledger (interpreter host budget) (notingInterpreter notes host budget) := by
  induction budget with
  | zero => exact alike_exhausted
  | succ budget ih =>
    rw [interpreter_succ]
    exact ih.above permits host budget

/-! ## Watched sessions -/

omit permits in
/-- What is asked for is done alike by interpreters that do all syntax alike. -/
theorem Request.corresponds_perform (request : Request) {Phase : Type}
    {Stores : Phase → Store → Store → Prop} {Guarded : Phase → Prop}
    (lawful : (reflexive Stores (fun _ => True) False True Guarded).Lawful) {phase : Phase}
    (parts : (reflexive Stores (fun _ => True) False True Guarded).Interpreters phase .same below
      below') :
    (reflexive Stores (fun _ => True) False True Guarded).Runs phase (fun _ _ => True)
      (request.perform below) (request.perform below') := by
  have values (arguments : List Value) : List.Forall₂
      (reflexive Stores (fun _ => True) False True Guarded).Values arguments arguments :=
    forall₂_self fun _ _ => identity_values_iff.mpr rfl
  cases request with
  | start members => exact (Execution.corresponds_start _ _ members).bind fun _ _ _ => .pure trivial
  | execute context program =>
    exact Evaluate.corresponds_program parts (identity_blocks context)
      (fun _ _ same => congrArg Statement.span same) (forall₂_self fun _ _ => rfl)
  | evaluate context expr =>
    exact (parts.evaluate (identity_contexts_iff.mpr rfl) rfl).bind fun _ _ _ => .pure trivial
  | call function arguments span =>
    exact (parts.call (identity_values_iff.mpr rfl) (values arguments) rfl).bind
      fun _ _ _ => .pure trivial
  | importLibrary name span =>
    exact (parts.importLibrary trivial rfl).bind fun _ _ _ => .pure trivial

/-- A watched session does what the session does. -/
theorem watched_session (host : Host) (requests : List (Nat × Request))
    (stores : Watched ⟨loading, ledger⟩ store store') :
    Watched ⟨loading, ledger⟩ (session (interpreter host) requests store)
      (session (notingInterpreter notes host) requests store') := by
  induction requests generalizing store store' with
  | nil => exact stores
  | cons first rest ih =>
    obtain ⟨budget, request⟩ := first
    have alike := alike_notingInterpreter permits host budget
    have performs := request.corresponds_perform lawful_watching (alike.parts loading)
    exact ih ((performs store store' stores).finalStores fun _ => id)

end Operations

/-- Nothing is asked of notes. -/
def Ledger.any : Ledger where
  Holds _ _ _ _ := True
  step _ _ := trivial
  push _ _ := trivial

theorem permits_any (notes : Notes) : Permits notes .any :=
  ⟨fun _ _ _ => trivial, fun _ _ => trivial, fun _ _ => trivial, fun _ _ _ => trivial,
    fun _ _ _ _ => trivial, fun _ _ => trivial⟩

/-- To take notes changes nothing but the log. -/
theorem session_notingInterpreter (host : Host) (notes : Notes) (requests : List (Nat × Request))
    (protocol : store.Protocol) (log : Array LogEntry) :
    session (notingInterpreter notes host) requests { store with log := log } =
      { session (interpreter host) requests store with
        log := (session (notingInterpreter notes host) requests { store with log := log }).log } := by
  have stores : Watched ⟨store.loading, .any⟩ store { store with log := log } :=
    ⟨protocol, rfl, rfl, trivial⟩
  exact (watched_session (permits_any notes) host requests stores).same

/-! ## Counting events -/

/-- What holds of the number of events, given the libraries that are loaded, as long as
the events that happen are those that the protocol admits. -/
structure Tolerates (watch : Event → Prop) (keeps : OrderedMap ObjectRef → Nat → Prop) : Prop where
  grows {imports : OrderedMap ObjectRef} {name : String} {count : Nat} (ref : ObjectRef) :
    imports.get? name = none → keeps imports count → keeps (imports.insert name ref) count
  began {store : Store} {count : Nat} :
    store.Protocol → watch (.began store) → keeps store.imports count →
    keeps store.imports (count + 1)
  ended {store : Store} {count : Nat} :
    store.Protocol → watch (.ended store) → keeps store.imports count →
    keeps store.imports (count + 1)
  imported {name : String} {span : Span} {before : Store}
    {result : EStateM.Result Fault Store Value} {count : Nat} :
    before.Protocol → Imports name span before result → watch (.imported name span before result) →
    keeps (Run.finalStore result).imports count → keeps (Run.finalStore result).imports (count + 1)
  /-- The object of a library is kept when its program has ended. -/
  finished {name : String} {after : Store} {count : Nat} (ref : ObjectRef) :
    after.Protocol → name ∈ after.loading → watch (.ran name (.ok () after)) →
    keeps after.imports count → keeps (after.imports.insert name ref) (count + 1)
  broken {name : String} {fault : Fault} {after : Store} {count : Nat} :
    after.Protocol → watch (.ran name (.error fault after)) → keeps after.imports count →
    keeps after.imports (count + 1)

/-- The log has as many lines more as there were events. -/
def Ledger.counting (keeps : OrderedMap ObjectRef → Nat → Prop) : Ledger where
  Holds imports _ log log' := ∃ count, log'.size = log.size + count ∧ keeps imports count
  step _ holds := holds
  push entry := by
    rintro ⟨count, counted, kept⟩
    refine ⟨count, ?_, kept⟩
    simp only [Array.size_push, counted]
    omega

section Counting

variable {watch : Event → Prop} [DecidablePred watch] {keeps : OrderedMap ObjectRef → Nat → Prop}

/-- An event is counted if it is looked for. -/
theorem Ledger.counting_note (keepsAfter : OrderedMap ObjectRef → Nat → Prop) {log : Array LogEntry}
    (holds : (counting keeps).At log store) {event : Event}
    (happens : ∀ count, watch event → keeps store.imports count →
      keepsAfter store.imports (count + 1))
    (ignored : ∀ count, keeps store.imports count → keepsAfter store.imports count) :
    (counting keepsAfter).At log (store.note (Notes.counting watch) event) := by
  obtain ⟨count, counted, kept⟩ := holds
  simp only [At, counting, Store.note, Notes.counting]
  split
  next seen =>
    refine ⟨count + 1, ?_, happens count seen kept⟩
    simp only [Array.size_push, counted]
    omega
  next => exact ⟨count, counted, ignored count kept⟩

theorem Tolerates.permits (tolerates : Tolerates watch keeps) :
    Permits (Notes.counting watch) (.counting keeps) where
  grows ref absent := by
    rintro ⟨count, counted, kept⟩
    exact ⟨count, counted, tolerates.grows ref absent kept⟩
  began protocol holds :=
    Ledger.counting_note keeps holds (fun _ happens => tolerates.began protocol happens) fun _ => id
  ended protocol holds :=
    Ledger.counting_note keeps holds (fun _ happens => tolerates.ended protocol happens) fun _ => id
  imported protocol imports holds :=
    Ledger.counting_note keeps holds (fun _ happens => tolerates.imported protocol imports happens)
      fun _ => id
  finished {name _ _} protocol inFlight holds ref :=
    have inserted := Ledger.counting_note (fun imports => keeps (imports.insert name ref)) holds
      (fun _ happens => tolerates.finished ref protocol inFlight happens)
      fun _ => tolerates.grows ref (protocol.disjoint name inFlight)
    inserted
  broken protocol holds :=
    Ledger.counting_note keeps holds (fun _ happens => tolerates.broken protocol happens) fun _ => id

/-- What events keep holds of their number in every session. -/
theorem keeps_occurrences (tolerates : Tolerates watch keeps) (host : Host)
    (requests : List (Nat × Request)) (protocol : store.Protocol)
    (initially : keeps store.imports 0) :
    (session (interpreter host) requests store).Protocol ∧
      keeps (session (interpreter host) requests store).imports
        (occurrences host watch requests store) := by
  have stores : Watched ⟨store.loading, .counting keeps⟩ store store :=
    ⟨protocol, rfl, rfl, 0, rfl, initially⟩
  have ended := watched_session tolerates.permits host requests stores
  obtain ⟨count, counted, kept⟩ := ended.holds
  have number : occurrences host watch requests store = count :=
    Nat.sub_eq_of_eq_add' counted
  rw [number]
  exact ⟨ended.protocol, ended.imports_eq ▸ kept⟩

end Counting

theorem tolerates_any (watch : Event → Prop) : Tolerates watch fun _ _ => True :=
  ⟨fun _ _ _ => trivial, fun _ _ _ => trivial, fun _ _ _ => trivial, fun _ _ _ _ => trivial,
    fun _ _ _ _ _ => trivial, fun _ _ _ => trivial⟩

/-- Watching changes nothing but the log, where it adds a line for each occurrence. -/
theorem session_watchedInterpreter (host : Host) (watch : Event → Prop) [DecidablePred watch]
    (requests : List (Nat × Request)) (protocol : store.Protocol) :
    session (watchedInterpreter watch host) requests store =
        { session (interpreter host) requests store with
          log := (session (watchedInterpreter watch host) requests store).log } ∧
      (session (watchedInterpreter watch host) requests store).log.size =
        (session (interpreter host) requests store).log.size +
          occurrences host watch requests store := by
  have stores : Watched ⟨store.loading, .counting fun _ _ => True⟩ store store :=
    ⟨protocol, rfl, rfl, 0, rfl, trivial⟩
  have ended := watched_session (tolerates_any watch).permits host requests stores
  obtain ⟨count, counted, _⟩ := ended.holds
  have number : occurrences host watch requests store = count := Nat.sub_eq_of_eq_add' counted
  exact ⟨ended.same, number ▸ counted⟩

end PatchScript
