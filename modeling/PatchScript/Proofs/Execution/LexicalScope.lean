import PatchScript.Proofs.Execution.LibraryIsolation

/-!
# Lexical scope

A function runs where it was made.  Where it is called from makes no difference: neither to the
function itself nor to the functions that native functions call back.  To say so, there is an
interpreter that hands every call the context of its caller, down to native functions and from
them to their callbacks.

Nor does it matter what the caller's root and variables hold.  A call reads and changes only what
can be reached from the function, its arguments and the loaded libraries, and what it adds
itself.
-/

namespace PatchScript

open Correspondence

/-! ## Callers -/

/-- The operations that evaluation rests on, where whoever calls a function or imports a library
says from which context. -/
structure CallingInterpreter where
  evaluate : Context → Expr → Run Value
  execute : Context → Statement → Run Signal
  call : Context → Value → List Value → Span → Run Value
  importLibrary : Context → String → Span → Run Value
  runLibrary : String → Context → Program → Run Unit
  patience : Nat

namespace CallingInterpreter

/-- What code in a context can do. -/
def seenFrom (run : CallingInterpreter) (caller : Context) : Interpreter where
  evaluate := run.evaluate
  execute := run.execute
  call := run.call caller
  importLibrary := run.importLibrary caller
  runLibrary := run.runLibrary
  patience := run.patience

/-- The surroundings of a native function that is called from a context: it calls back from
there. -/
def site (run : CallingInterpreter) (caller : Context) (span : Span) : CallSite where
  call function arguments := run.call caller function arguments span
  span := span

/-- The interpreter that has no budget left. -/
def exhausted : CallingInterpreter where
  evaluate _ _ := throw .outOfFuel
  execute _ _ := throw .outOfFuel
  call _ _ _ _ := throw .outOfFuel
  importLibrary _ _ _ := throw .outOfFuel
  runLibrary _ _ _ := throw .outOfFuel
  patience := 0

end CallingInterpreter

/-- The interpreter with a budget that hands every call the context of its caller. -/
def callingInterpreter (host : Host) : Nat → CallingInterpreter
  | 0 => .exhausted
  | budget + 1 =>
    let below := callingInterpreter host budget
    { evaluate := fun context expr => Evaluate.expression (below.seenFrom context) context expr
      execute := fun context statement =>
        Evaluate.statement (below.seenFrom context) context statement
      call := fun caller function arguments span =>
        Evaluate.call host.maxCallDepth (below.seenFrom caller) function arguments span
      importLibrary := fun caller name span =>
        Evaluate.importLibrary host (below.seenFrom caller) name span
      runLibrary := fun _ context library =>
        Evaluate.program (below.seenFrom context) context library.statements
      patience := budget }

/-- From every context, the interpreter is the one that is not told who calls. -/
theorem seenFrom_callingInterpreter (host : Host) (budget : Nat) (caller : Context) :
    (callingInterpreter host budget).seenFrom caller = interpreter host budget := by
  induction budget generalizing caller with
  | zero => rfl
  | succ budget ih =>
    rw [interpreter_succ]
    simp only [callingInterpreter, CallingInterpreter.seenFrom, Interpreter.above]
    simp only [CallingInterpreter.seenFrom] at ih
    simp only [ih]

/-! ## Regions of a store -/

/-- Some of the handles of a store. -/
structure Region where
  objects : ObjectRef → Prop
  arrays : ArrayRef → Prop
  functions : FunctionRef → Prop
  frames : FrameRef → Prop

/-- Stores that agree on what the handles of a region stand for. -/
structure Store.AgreeOn (region : Region) (store store' : Store) : Prop where
  object {ref : ObjectRef} : region.objects ref → store.object ref = store'.object ref
  array {ref : ArrayRef} : region.arrays ref → store.array ref = store'.array ref
  function {ref : FunctionRef} : region.functions ref → store.function ref = store'.function ref
  frame {ref : FrameRef} : region.frames ref → store.frames.get ref = store'.frames.get ref

namespace Region

/-- The handle that a value may be is in a region. -/
def Holds (region : Region) : Value → Prop
  | .array ref => region.arrays ref
  | .object ref => region.objects ref
  | .function ref => region.functions ref
  | _ => True

/-- All handles of a context are in a region. -/
structure HoldsContext (region : Region) (context : Context) : Prop where
  root : region.objects context.root
  chain : ∀ ref ∈ context.scope.chain, region.frames ref

/-- All handles that a function has are in a region. -/
def HoldsCallable (region : Region) : Callable → Prop
  | .script _ captured => ∀ context ∈ captured, region.HoldsContext context
  | .native _ => True
  | .bound receiver _ => region.Holds receiver

/-- What the handles of a region lead to is in the region, and so are the loaded libraries. -/
structure Closed (region : Region) (store : Store) : Prop where
  object {ref : ObjectRef} :
    region.objects ref → ∀ value ∈ (store.object ref).values, region.Holds value
  array {ref : ArrayRef} :
    region.arrays ref → ∀ value ∈ (store.array ref).toList, region.Holds value
  function {ref : FunctionRef} {callable : Callable} :
    region.functions ref → store.function ref = some callable → region.HoldsCallable callable
  mutables {ref : FrameRef} :
    region.frames ref → ∀ value ∈ (store.frames.get ref).mutables.values, region.Holds value
  constants {ref : FrameRef} :
    region.frames ref → ∀ value ∈ (store.frames.get ref).constants.values, region.Holds value
  imports : ∀ ref ∈ store.imports.values, region.objects ref

/-- Stores of as many handles and at the same point of an execution, that may differ in what
cannot be reached from a region. -/
structure Shared (region : Region) (store store' : Store) : Prop where
  agree : store.AgreeOn region store'
  closed : region.Closed store
  objects : store.objects.size = store'.objects.size
  arrays : store.arrays.size = store'.arrays.size
  functions : store.functions.size = store'.functions.size
  frames : store.frames.table.size = store'.frames.table.size
  imports : store.imports = store'.imports
  loading : store.loading = store'.loading
  depth : store.callDepth = store'.callDepth
  log : store.log = store'.log

/-- A region with all handles that were added since. -/
def grown (region : Region) (before : Store) : Region where
  objects ref := region.objects ref ∨ before.objects.size ≤ ref.index
  arrays ref := region.arrays ref ∨ before.arrays.size ≤ ref.index
  functions ref := region.functions ref ∨ before.functions.size ≤ ref.index
  frames ref := region.frames ref ∨ before.frames.table.size ≤ ref.index

/-- The handles that were there outside of a region. -/
def outside (region : Region) (before : Store) : Region where
  objects ref := ¬ region.objects ref ∧ ref.index < before.objects.size
  arrays ref := ¬ region.arrays ref ∧ ref.index < before.arrays.size
  functions ref := ¬ region.functions ref ∧ ref.index < before.functions.size
  frames ref := ¬ region.frames ref ∧ ref.index < before.frames.table.size

/-- Stores that have come from two that share a region: the region and what was added are alike,
and what is outside of the region is as it was. -/
structure Parted (region : Region) (before before' after after' : Store) : Prop where
  inside : after.AgreeOn (region.grown before) after'
  outside : after.AgreeOn (region.outside before) before
  outside' : after'.AgreeOn (region.outside before) before'
  imports : after.imports = after'.imports
  log : after.log = after'.log

/-! ## Runs that share a region -/

variable {region : Region} {before before' : Store}

/-- The handles of a shared region stand for themselves. -/
def links (shared : region.Shared before before') : Links before before' where
  objects := .sharing shared.objects fun index => region.objects { index := index }
  arrays := .sharing shared.arrays fun index => region.arrays { index := index }
  functions := .sharing shared.functions fun index => region.functions { index := index }
  frames := .sharing shared.frames fun index => region.frames { index := index }

variable (shared : region.Shared before before')

theorem linked_objects_iff {ref ref' : ObjectRef} :
    (linked (links shared)).Objects ref ref' ↔ (region.grown before).objects ref ∧ ref = ref' := by
  obtain ⟨index⟩ := ref
  obtain ⟨index'⟩ := ref'
  constructor
  · rintro ⟨⟨⟩, inside⟩
    exact ⟨inside, rfl⟩
  · rintro ⟨inside, ⟨⟩⟩
    exact ⟨rfl, inside⟩

theorem linked_objects_eq :
    (linked (links shared)).Objects =
      fun ref ref' => (region.grown before).objects ref ∧ ref = ref' :=
  funext₂ fun _ _ => propext (linked_objects_iff shared)

theorem linked_frames_iff {ref ref' : FrameRef} :
    (linked (links shared)).Frames ref ref' ↔ (region.grown before).frames ref ∧ ref = ref' := by
  obtain ⟨index⟩ := ref
  obtain ⟨index'⟩ := ref'
  constructor
  · rintro ⟨⟨⟩, inside⟩
    exact ⟨inside, rfl⟩
  · rintro ⟨inside, ⟨⟩⟩
    exact ⟨rfl, inside⟩

theorem linked_values_iff {value value' : Value} :
    (linked (links shared)).Values value value' ↔
      (region.grown before).Holds value ∧ value = value' := by
  constructor
  · intro values
    cases values with
    | null | boolean | number | string => exact ⟨trivial, rfl⟩
    | @array ref ref' arrays =>
      obtain ⟨same, inside⟩ := arrays
      exact ⟨inside, congrArg (fun index => Value.array { index := index }) same⟩
    | @object ref ref' objects =>
      obtain ⟨inside, rfl⟩ := (linked_objects_iff shared).mp objects
      exact ⟨inside, rfl⟩
    | @function ref ref' functions =>
      obtain ⟨same, inside⟩ := functions
      exact ⟨inside, congrArg (fun index => Value.function { index := index }) same⟩
  · rintro ⟨inside, rfl⟩
    cases value with
    | null => exact .null
    | boolean value => exact .boolean value
    | number value => exact .number value
    | string value => exact .string value
    | array ref => exact .array ⟨rfl, inside⟩
    | object ref => exact .object ⟨rfl, inside⟩
    | function ref => exact .function ⟨rfl, inside⟩

theorem linked_values_eq :
    (linked (links shared)).Values =
      fun value value' => (region.grown before).Holds value ∧ value = value' :=
  funext₂ fun _ _ => propext (linked_values_iff shared)

theorem linked_items_iff {items items' : Array Value} :
    (linked (links shared)).Items items items' ↔
      (∀ value ∈ items.toList, (region.grown before).Holds value) ∧ items = items' := by
  rw [Items, linked_values_eq, List.forall₂_and_left, List.forall₂_eq_eq_eq, Array.toList_inj]

theorem linked_members_iff {members members' : OrderedMap Value} :
    (linked (links shared)).Members members members' ↔
      (∀ value ∈ members.values, (region.grown before).Holds value) ∧ members = members' := by
  rw [Members, linked_values_eq, OrderedMap.matches_and_left, OrderedMap.matches_eq_iff]

theorem linked_bindings_iff {frame frame' : Frame} :
    (linked (links shared)).Bindings frame frame' ↔
      ((∀ value ∈ frame.mutables.values, (region.grown before).Holds value) ∧
        ∀ value ∈ frame.constants.values, (region.grown before).Holds value) ∧ frame = frame' := by
  obtain ⟨mutables, constants⟩ := frame
  obtain ⟨mutables', constants'⟩ := frame'
  constructor
  · rintro ⟨mutablesRelated, constantsRelated⟩
    obtain ⟨inside, rfl⟩ := (linked_members_iff shared).mp mutablesRelated
    obtain ⟨insideToo, rfl⟩ := (linked_members_iff shared).mp constantsRelated
    exact ⟨⟨inside, insideToo⟩, rfl⟩
  · rintro ⟨⟨inside, insideToo⟩, ⟨⟩⟩
    exact ⟨(linked_members_iff shared).mpr ⟨inside, rfl⟩,
      (linked_members_iff shared).mpr ⟨insideToo, rfl⟩⟩

theorem linked_contexts_iff {context context' : Context} :
    (linked (links shared)).Contexts context context' ↔
      (region.grown before).HoldsContext context ∧ context = context' := by
  have frames : (linked (links shared)).Frames =
      fun ref ref' => (region.grown before).frames ref ∧ ref = ref' :=
    funext₂ fun _ _ => propext (linked_frames_iff shared)
  obtain ⟨root, inner, outer⟩ := context
  obtain ⟨root', inner', outer'⟩ := context'
  constructor
  · rintro ⟨roots, chains⟩
    rw [frames, List.forall₂_and_left, List.forall₂_eq_eq_eq] at chains
    obtain ⟨inside, rfl⟩ := (linked_objects_iff shared).mp roots
    obtain ⟨chainInside, same⟩ := chains
    cases same
    exact ⟨⟨inside, chainInside⟩, rfl⟩
  · rintro ⟨⟨inside, chainInside⟩, ⟨⟩⟩
    refine ⟨(linked_objects_iff shared).mpr ⟨inside, rfl⟩, ?_⟩
    rw [frames, List.forall₂_and_left, List.forall₂_eq_eq_eq]
    exact ⟨chainInside, rfl⟩

theorem linked_callables_iff {callable callable' : Callable} :
    (linked (links shared)).Callables callable callable' ↔
      (region.grown before).HoldsCallable callable ∧ callable = callable' := by
  constructor
  · intro callables
    cases callables with
    | script definitions contexts =>
      cases definitions
      cases contexts with
      | none => exact ⟨fun _ captured => absurd captured (Option.not_mem_none _), rfl⟩
      | some contexts =>
        obtain ⟨inside, rfl⟩ := (linked_contexts_iff shared).mp contexts
        exact ⟨fun _ captured => Option.some.inj captured ▸ inside, rfl⟩
    | native function => exact ⟨trivial, rfl⟩
    | bound function receivers =>
      obtain ⟨inside, rfl⟩ := (linked_values_iff shared).mp receivers
      exact ⟨inside, rfl⟩
  · rintro ⟨inside, rfl⟩
    cases callable with
    | script definition captured =>
      refine .script rfl ?_
      cases captured with
      | none => exact .none
      | some context => exact .some ((linked_contexts_iff shared).mpr ⟨inside context rfl, rfl⟩)
    | native function => exact .native function
    | bound receiver function =>
      exact .bound function ((linked_values_iff shared).mpr ⟨inside, rfl⟩)

/-! ## What is in a region stays in it when the region grows -/

theorem Holds.grown {value : Value} (inside : region.Holds value) (before : Store) :
    (region.grown before).Holds value := by
  cases value with
  | null | boolean | number | string => trivial
  | array | object | function => exact .inl inside

theorem HoldsCallable.grown {callable : Callable} (inside : region.HoldsCallable callable)
    (before : Store) : (region.grown before).HoldsCallable callable := by
  cases callable with
  | script definition captured =>
    intro context present
    have held := inside context present
    exact ⟨.inl held.root, fun ref member => .inl (held.chain ref member)⟩
  | native => trivial
  | bound receiver function =>
    have held : region.Holds receiver := inside
    exact held.grown before

/-! ## The start and the end of runs that share a region -/

/-- Entries of tables of one size that read the same. -/
theorem rel_of_getD_eq {α : Type} {Related : α → α → Prop} {table table' : Array α}
    (sizes : table.size = table'.size) {index : Nat} {entry : α}
    (same : table.getD index entry = table'.getD index entry)
    (related : Related (table.getD index entry) (table.getD index entry)) :
    Option.Rel Related table[index]? table'[index]? := by
  by_cases present : index < table.size
  · have present' : index < table'.size := sizes ▸ present
    simp only [Array.getD_eq_getD_getElem?, Array.getElem?_eq_getElem present,
      Array.getElem?_eq_getElem present', Option.getD_some] at same related ⊢
    rw [← same]
    exact .some related
  · rw [Array.getElem?_eq_none (Nat.le_of_not_lt present),
      Array.getElem?_eq_none (sizes ▸ Nat.le_of_not_lt present)]
    exact .none

include shared

/-- Runs start from stores that share a region. -/
theorem Shared.growsAlong : GrowsAlong (links shared) before before' := by
  have agree := shared.agree
  have closed := shared.closed
  constructor
  case objects =>
    refine Grown.sharing_refl shared.objects fun index inside => ?_
    refine rel_of_getD_eq shared.objects (agree.object inside) ?_
    exact (linked_members_iff shared).mpr
      ⟨fun value member => (closed.object inside value member).grown before, rfl⟩
  case arrays =>
    refine Grown.sharing_refl shared.arrays fun index inside => ?_
    refine rel_of_getD_eq shared.arrays (agree.array inside) ?_
    exact (linked_items_iff shared).mpr
      ⟨fun value member => (closed.array inside value member).grown before, rfl⟩
  case functions =>
    refine Grown.sharing_refl shared.functions fun index inside => ?_
    have same : before.functions[index]? = before'.functions[index]? := agree.function inside
    rw [← same]
    cases found : before.functions[index]? with
    | none => exact .none
    | some callable =>
      exact .some ((linked_callables_iff shared).mpr
        ⟨(closed.function inside found).grown before, rfl⟩)
  case frames =>
    refine Grown.sharing_refl shared.frames fun index inside => ?_
    refine rel_of_getD_eq shared.frames (agree.frame inside) ?_
    exact (linked_bindings_iff shared).mpr
      ⟨⟨fun value member => (closed.mutables inside value member).grown before,
        fun value member => (closed.constants inside value member).grown before⟩, rfl⟩
  case imports =>
    rw [linked_objects_eq, OrderedMap.matches_and_left, OrderedMap.matches_eq_iff]
    exact ⟨fun ref member => .inl (closed.imports ref member), shared.imports⟩
  case loading => exact shared.loading
  case depth => exact shared.depth
  case log => exact ⟨#[], rfl, rfl⟩

omit shared in
theorem eq_of_rel {α : Type} {Related : α → α → Prop}
    (same : ∀ first second, Related first second → first = second) {first second : Option α}
    (related : Option.Rel Related first second) : first = second := by
  cases related with
  | none => rfl
  | some related => rw [same _ _ related]

/-- Runs end in stores that still share the region, and what they have added. -/
theorem Shared.parted {after after' : Store} (grows : GrowsAlong (links shared) after after') :
    region.Parted before before' after after' := by
  have contents := grows.contents
  constructor
  case inside =>
    constructor
    · intro ref inside
      exact ((linked_members_iff shared).mp (contents.object ⟨rfl, inside⟩)).2
    · intro ref inside
      exact ((linked_items_iff shared).mp (contents.array ⟨rfl, inside⟩)).2
    · intro ref inside
      refine eq_of_rel (fun _ _ callables => ?_) (contents.function ⟨rfl, inside⟩)
      exact ((linked_callables_iff shared).mp callables).2
    · intro ref inside
      exact ((linked_bindings_iff shared).mp (contents.frame ⟨rfl, inside⟩)).2
  case outside =>
    constructor
    · exact fun outside => grows.objects.getD_of_unlinked (Linking.sharing_unlinked shared.objects outside) _
    · exact fun outside => grows.arrays.getD_of_unlinked (Linking.sharing_unlinked shared.arrays outside) _
    · exact fun outside => grows.functions.kept (Linking.sharing_unlinked shared.functions outside)
    · exact fun outside => grows.frames.getD_of_unlinked (Linking.sharing_unlinked shared.frames outside) _
  case outside' =>
    constructor
    · exact fun outside => grows.objects.getD_of_unlinked' (Linking.sharing_unlinked' shared.objects outside) _
    · exact fun outside => grows.arrays.getD_of_unlinked' (Linking.sharing_unlinked' shared.arrays outside) _
    · exact fun outside => grows.functions.kept' (Linking.sharing_unlinked' shared.functions outside)
    · exact fun outside => grows.frames.getD_of_unlinked' (Linking.sharing_unlinked' shared.frames outside) _
  case imports =>
    have imports := grows.imports
    rw [linked_objects_eq, OrderedMap.matches_and_left, OrderedMap.matches_eq_iff] at imports
    exact imports.2
  case log =>
    obtain ⟨added, first, second⟩ := grows.log
    rw [first, second, shared.log]

end Region

/-- Two computations end with the same value or in the same fault. -/
inductive SameEnd
    {α : Type} : EStateM.Result Fault Store α → EStateM.Result Fault Store α → Prop where
  | ok (value : α) (after after' : Store) : SameEnd (.ok value after) (.ok value after')
  | error (fault : Fault) (after after' : Store) :
    SameEnd (.error fault after) (.error fault after')

namespace Region

variable {region : Region} {store store' : Store}

/-- Calls of a function of a shared region end alike. -/
theorem Shared.call (shared : region.Shared store store') (host : Host) (budget : Nat)
    {function : Value} {arguments : List Value} (functionInside : region.Holds function)
    (argumentsInside : ∀ value ∈ arguments, region.Holds value) (span : Span) :
    let result := (interpreter host budget).call function arguments span store
    let result' := (interpreter host budget).call function arguments span store'
    SameEnd result result' ∧
      region.Parted store store' (Run.finalStore result) (Run.finalStore result') := by
  intro result result'
  have alike : (growingAlong (links shared)).Alike () .same _ _ :=
    alike_interpreter uniform_growing throughout_growing trivial id host budget
  have values {value : Value} (inside : region.Holds value) :
      (growingAlong (links shared)).Values value value := by
    rw [growingAlong, between_values, linked_values_iff]
    exact ⟨inside.grown store, rfl⟩
  have outcomes := alike.parts.call (values functionInside)
    (List.forall₂_same.mpr fun value member => values (argumentsInside value member))
    (rfl : span = span) store store' shared.growsAlong
  refine ⟨?_, shared.parted (outcomes.finalStores fun _ => id)⟩
  change (growingAlong (links shared)).Outcomes () () _ _ result result' at outcomes
  generalize result = result, result' = result' at outcomes ⊢
  cases outcomes with
  | ok stores related =>
    rw [growingAlong, between_values, linked_values_iff] at related
    obtain ⟨_, rfl⟩ := related
    exact .ok _ _ _
  | failed stores errors =>
    cases errors.eq fun _ _ => id
    exact .error _ _ _
  | exhausted stores _ => exact .error _ _ _
  | stopped _ guarded => exact False.elim guarded

end Region

/-! ## Calls -/

/-- Evaluate a function and its arguments in a context. -/
def Interpreter.operands (run : Interpreter) (context : Context) (callee : Expr)
    (arguments : List Expr) : Run (Value × List Value) := do
  let function ← run.evaluate context callee
  let values ← Evaluate.expressions run context arguments
  return (function, values)

/-- Once the function and the arguments are known, a call does not look at its context. -/
theorem evaluate_call (host : Host) (budget : Nat) (context : Context) (span : Span) (callee : Expr)
    (arguments : List Expr) :
    (interpreter host (budget + 1)).evaluate context (.node span (.call callee arguments)) =
      (do
        let (function, values) ← (interpreter host budget).operands context callee arguments
        (interpreter host budget).call function values span) := by
  simp only [Interpreter.operands, bind_assoc, pure_bind]
  rfl

namespace Hiding

/-- A place in no file. -/
def place : Span :=
  { file := "", start := Position.start, stop := Position.start }

/-- `function () => $x` -/
def definition : FunctionDef :=
  .node none [] (.expression (.node place (.reference (.node place (.variable "x"))))) place

/-- Where the function is made. -/
def maker : Context :=
  { root := { index := 0 }, scope := { inner := { index := 0 }, outer := [] } }

/-- Where it is called. -/
def caller : Context :=
  { root := { index := 1 }, scope := { inner := { index := 1 }, outer := [] } }

/-- A frame with the function as `f` and a variable `x`. -/
def frame (value : Value) : Frame :=
  (Frame.empty.bind "f" (.function { index := 0 }) false).bind "x" value true

/-- The variable `x` is null where the function is made and something else where it is
called. -/
def store (hidden : Value) : Store :=
  { Store.empty with
    objects := #[OrderedMap.empty, OrderedMap.ofEntries [("x", hidden)]]
    functions := #[.script definition (some maker)]
    frames := { table := #[frame .null, frame hidden] } }

/-- `$f` -/
def callee : Expr :=
  .node place (.reference (.node place (.variable "f")))

/-- What the function can reach. -/
def region : Region where
  objects ref := ref = maker.root
  arrays _ := False
  functions ref := ref = { index := 0 }
  frames ref := ref = maker.scope.inner

theorem shared (hidden hidden' : Value) : region.Shared (store hidden) (store hidden') where
  agree := by
    constructor
    · rintro _ ⟨⟩
      rfl
    · rintro _ ⟨⟩
    · rintro _ ⟨⟩
      rfl
    · rintro _ ⟨⟩
      rfl
  closed := by
    constructor
    · rintro _ ⟨⟩ value member
      cases member
    · rintro _ ⟨⟩
    · rintro _ _ ⟨⟩ found
      cases found
      rintro _ ⟨⟩
      refine ⟨rfl, fun ref member => ?_⟩
      exact List.mem_singleton.mp member
    · rintro _ ⟨⟩ value member
      rw [List.mem_singleton.mp member]
      trivial
    · rintro _ ⟨⟩ value member
      rw [List.mem_singleton.mp member]
      rfl
    · intro ref member
      cases member
  objects := rfl
  arrays := rfl
  functions := rfl
  frames := rfl
  imports := rfl
  loading := rfl
  depth := rfl
  log := rfl

end Hiding

end PatchScript
