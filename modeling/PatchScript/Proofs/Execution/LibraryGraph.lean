import Mathlib.Logic.Relation
import PatchScript.Proofs.Execution.Termination
import PatchScript.Proofs.Execution.Watching
import PatchScript.Proofs.Run.Sparing

/-!
# Graphs of libraries

Script libraries that do nothing but import others make up a graph.  Importing one of them
walks through the graph, with the libraries that are loading as the path back to where the
walk began, and those that are loaded as the part of the graph that is done with.  So it
succeeds if there is no way to an unknown name nor to a cycle, loads what there is a way to,
and runs each library on the way once.

What is loaded can always be resolved and has nothing left to load (`Host.Closed`).
-/

namespace PatchScript

variable {context : Context} {library : Program} {store : Store} {name : String}

/-! ## The graph -/

/-- The library that a statement imports, and the name that it binds it to. -/
def Statement.import? : Statement → Option (String × String)
  | .node _ (.importLibrary library binding) => some (library, binding)
  | _ => none

/-- The imports among statements. -/
def Statement.imports (statements : List Statement) : List (String × String) :=
  statements.filterMap Statement.import?

/-- A program does nothing but import libraries, each under a name of its own. -/
structure Program.OnlyImports (program : Program) : Prop where
  isSome : ∀ statement ∈ program.statements, statement.import?.isSome = true
  distinct : ((Statement.imports program.statements).map Prod.snd).Nodup

namespace Host

variable (host : Host)

/-- The script library that a name stands for.  Native libraries come first. -/
def library? (name : String) : Option Program :=
  match NativeLibrary.ofName? name with
  | some _ => none
  | none => host.script? name

/-- There is a library of the name. -/
def Known (name : String) : Prop :=
  NativeLibrary.ofName? name ≠ none ∨ host.script? name ≠ none

/-- A script library imports another library. -/
def Edge (name other : String) : Prop :=
  ∃ library, host.library? name = some library ∧
    other ∈ (Statement.imports library.statements).map Prod.fst

/-- There is a way from a library to another one. -/
def Reachable : String → String → Prop :=
  Relation.ReflTransGen host.Edge

/-- There is no way from a library to an unknown name, nor to a cycle. -/
structure Resolvable (name : String) : Prop where
  known : ∀ other, host.Reachable name other → host.Known other
  acyclic : ∀ other, host.Reachable name other → ¬ Relation.TransGen host.Edge other other

variable {host}

theorem library?_eq_some_iff :
    host.library? name = some library ↔
      NativeLibrary.ofName? name = none ∧ host.script? name = some library := by
  unfold library?
  cases NativeLibrary.ofName? name <;> simp

theorem reachable_iff {name other : String} :
    host.Reachable name other ↔
      other = name ∨ ∃ next, host.Edge name next ∧ host.Reachable next other := by
  rw [Reachable, Relation.ReflTransGen.cases_head_iff, eq_comm]

theorem Resolvable.of_reachable {other : String} (resolvable : host.Resolvable name)
    (reachable : host.Reachable name other) : host.Resolvable other where
  known last later := resolvable.known last (reachable.trans later)
  acyclic last later := resolvable.acyclic last (reachable.trans later)

/-- There is no way back from what a library imports. -/
theorem Resolvable.not_reachable {next : String} (resolvable : host.Resolvable next)
    (edge : host.Edge name next) : ¬ host.Reachable next name :=
  fun back => resolvable.acyclic name back (.head' edge back)

/-- A library can be resolved if those can that it imports. -/
theorem resolvable_iff {name : String} :
    host.Resolvable name ↔
      host.Known name ∧ ∀ next, host.Edge name next → host.Resolvable next := by
  constructor
  · intro resolvable
    exact ⟨resolvable.known name .refl, fun next edge => resolvable.of_reachable (.single edge)⟩
  · rintro ⟨known, resolvable⟩
    constructor
    · intro other reachable
      obtain rfl | ⟨next, edge, later⟩ := reachable_iff.mp reachable
      · exact known
      · exact (resolvable next edge).known other later
    · intro other reachable cycle
      obtain rfl | ⟨next, edge, later⟩ := reachable_iff.mp reachable
      · obtain ⟨next, edge, back⟩ := Relation.TransGen.head'_iff.mp cycle
        exact (resolvable next edge).not_reachable edge back
      · exact (resolvable next edge).acyclic other later cycle

theorem Edge.height_pos {next : String} (edge : host.Edge name next) : 0 < host.height := by
  obtain ⟨library, isLibrary, member⟩ := edge
  obtain ⟨-, isScript⟩ := library?_eq_some_iff.mp isLibrary
  refine Nat.lt_of_lt_of_le ?_ (height_le isScript)
  rw [Program.height]
  revert member
  cases library.statements with
  | nil => exact fun member => absurd member List.not_mem_nil
  | cons statement rest =>
    intro
    rw [Statement.heightList, Statement.height_eq]
    exact lt_max_of_lt_left statement.form.height_pos

/-! ## What loading libraries comes to -/

/-- What is loaded can be resolved, and all that there is a way to is loaded. -/
def Closed (host : Host) (store : Store) : Prop :=
  ∀ name, store.imports.contains name = true → host.Resolvable name ∧
    ∀ other, host.Reachable name other → store.imports.contains other = true

end Host

/-- How many lines there are for a library, if there are some for each one that is loaded. -/
def Store.due (counted : String) (weight : Nat) (store : Store) : Nat :=
  if store.imports.contains counted then weight else 0

/-- Libraries were loaded with all that there is a way to.  The frames below a base were
left alone, and the log has grown by the lines that are due for a script library. -/
structure Loads (host : Host) (counted : String) (weight base : Nat) (names : List String)
    (before after : Store) : Prop where
  resolvable : ∀ name ∈ names, host.Resolvable name
  loaded : ∀ other, after.imports.contains other = true ↔
    before.imports.contains other = true ∨ ∃ name ∈ names, host.Reachable name other
  loading : after.loading = before.loading
  size_le : before.frames.table.size ≤ after.frames.table.size
  frames : ∀ ref : FrameRef, ref.index < base → after.frames.get ref = before.frames.get ref
  lines : NativeLibrary.ofName? counted = none →
    after.log.size + before.due counted weight = before.log.size + after.due counted weight

/-- How it ends to load libraries: they are loaded, or one of them cannot be resolved. -/
inductive Resolves {α : Type} (host : Host) (counted : String) (weight base : Nat)
    (names : List String) (before : Store) : EStateM.Result Fault Store α → Prop where
  | ok {value : α} {after : Store} :
    Loads host counted weight base names before after →
    Resolves host counted weight base names before (.ok value after)
  | error {error : EvalError} {after : Store} {name : String} :
    name ∈ names → ¬ host.Resolvable name →
    Resolves host counted weight base names before (.error (.error error) after)

namespace Loads

variable {host : Host} {counted : String} {weight base : Nat} {names others : List String}
variable {before middle after : Store}

/-- Nothing is loaded where only frames from the base on are changed. -/
theorem of_frames {frames : Frames} (size_le : before.frames.table.size ≤ frames.table.size)
    (kept : ∀ ref : FrameRef, ref.index < base → frames.get ref = before.frames.get ref) :
    Loads host counted weight base [] before { before with frames := frames } where
  resolvable := List.forall_mem_nil _
  loaded other := by simp
  loading := rfl
  size_le := size_le
  frames := kept
  lines _ := rfl

theorem trans (first : Loads host counted weight base names before middle)
    (second : Loads host counted weight base others middle after) :
    Loads host counted weight base (names ++ others) before after where
  resolvable := List.forall_mem_append.mpr ⟨first.resolvable, second.resolvable⟩
  loaded other := by
    rw [second.loaded, first.loaded, or_assoc]
    simp only [List.mem_append, or_and_right, exists_or]
  loading := second.loading.trans first.loading
  size_le := first.size_le.trans second.size_le
  frames ref below := (second.frames ref below).trans (first.frames ref below)
  lines notNative := by
    have := first.lines notNative
    have := second.lines notNative
    omega

theorem lower {lower : Nat} (loads : Loads host counted weight base names before after)
    (le : lower ≤ base) : Loads host counted weight lower names before after :=
  { loads with frames := fun ref below => loads.frames ref (below.trans_le le) }

theorem closed (loads : Loads host counted weight base names before after)
    (closed : host.Closed before) : host.Closed after := by
  intro name isLoaded
  obtain earlier | ⟨root, member, reachable⟩ := (loads.loaded name).mp isLoaded
  · refine ⟨(closed name earlier).1, fun other later => (loads.loaded other).mpr (.inl ?_)⟩
    exact (closed name earlier).2 other later
  · refine ⟨(loads.resolvable root member).of_reachable reachable, fun other later => ?_⟩
    exact (loads.loaded other).mpr (.inr ⟨root, member, reachable.trans later⟩)

/-- What is loaded already need not be loaded. -/
theorem of_closed (closed : host.Closed before) (isLoaded : before.imports.contains name = true) :
    Loads host counted weight base [name] before before where
  resolvable := List.forall_mem_singleton.mpr (closed name isLoaded).1
  loaded other := by
    refine ⟨.inl, ?_⟩
    rintro (earlier | ⟨root, member, reachable⟩)
    · exact earlier
    · rw [List.mem_singleton] at member
      exact (closed name isLoaded).2 other (member ▸ reachable)
  loading := rfl
  size_le := le_rfl
  frames _ _ := rfl
  lines _ := rfl

end Loads

/-! ## One library -/

namespace Evaluate

theorem exists_functionEntries (functions : List Native) (built : OrderedMap Value)
    (store : Store) :
    ∃ contents functions', functionEntries functions built store =
      .ok contents { store with functions := functions' } := by
  induction functions generalizing built store with
  | nil => exact ⟨built, store.functions, rfl⟩
  | cons function rest ih =>
    let added := store.addFunction (.native function)
    exact ih (built.insert function.name (.function added.1)) added.2

/-- A native library can always be loaded. -/
theorem exists_populate (library : NativeLibrary) (ref : ObjectRef) (store : Store) :
    ∃ objects functions, populate library ref store =
      .ok () { store with objects := objects, functions := functions } := by
  obtain ⟨contents, functions, entries⟩ := exists_functionEntries library.functions
    (OrderedMap.ofEntries (library.constants.map fun constant => (constant.1, .number constant.2)))
    store
  refine ⟨store.objects.modify ref.index fun _ => contents, functions, ?_⟩
  rw [populate, bind_of_ok entries]
  rfl

theorem exists_load_of_native (host : Host) (below : Interpreter) {library : NativeLibrary}
    (isNative : NativeLibrary.ofName? name = some library) (span : Span) (store : Store) :
    ∃ ref objects functions, load host below name span store =
      .ok (.object ref) (cache name ref (endLoading
        { store with objects := objects, functions := functions
                     loading := store.loading ++ [name] })) := by
  obtain ⟨objects, functions, populated⟩ := exists_populate library
    ((beginLoading name store).addObject OrderedMap.empty).1
    ((beginLoading name store).addObject OrderedMap.empty).2
  refine ⟨((beginLoading name store).addObject OrderedMap.empty).1, objects, functions, ?_⟩
  simp only [load, locate, isNative, Run.newObject, bind, EStateM.bind, modify,
    Run.modifyGet_apply, Run.ensuring, Run.wrapping, Run.mapError, populated]
  rfl

/-- Where the program of a library is run: on an empty object, without variables. -/
def libraryContext (store : Store) : Context :=
  { root := { index := store.objects.size }
    scope := { inner := store.frames.nextRef, outer := [] } }

/-- The store in which the program of a library is run. -/
def enterLibrary (name : String) (store : Store) : Store :=
  { store with
    objects := store.objects.push OrderedMap.empty
    frames := store.frames.push
    loading := store.loading ++ [name] }

theorem load_of_script {host : Host} (below : Interpreter)
    (found : host.library? name = some library) (span : Span) (store : Store) :
    load host below name span store =
      match below.runLibrary name (libraryContext store) library (enterLibrary name store) with
      | .ok _ after =>
        .ok (.object (libraryContext store).root)
          (cache name (libraryContext store).root (endLoading after))
      | .error (.error error) after =>
        .error (.error (error.wrap (.inLibrary name) span)) (endLoading after)
      | .error fault after => .error fault (endLoading after) := by
  obtain ⟨notNative, isScript⟩ := Host.library?_eq_some_iff.mp found
  simp only [load, locate, notNative, isScript, Run.newObject, bind, EStateM.bind, modify,
    Run.modifyGet_apply, Run.ensuring, Run.wrapping, Run.mapError, Run.isolated, beginLoading,
    Store.addObject, Store.addFrame, libraryContext, enterLibrary]
  generalize below.runLibrary name _ library _ = result
  cases result with
  | ok => rfl
  | error fault => cases fault <;> rfl

/-- A name can be declared where it is not bound, if there are no frames around. -/
theorem declare_of_unbound (isolated : context.scope.outer = [])
    (unbound : (store.frames.get context.scope.inner).get? name = none) (value : Value)
    (isMutable : Bool) :
    declare context name value isMutable store =
      .ok () (store.changeFrames (.bind context.scope.inner name value isMutable)) := by
  have invisible : store.frames.contains context.scope name = false := by
    simp [Frames.contains, Scope.chain, isolated, unbound]
  rw [declare, Run.changeFrames_apply, Frames.planDeclare, invisible]
  rfl

theorem statement_import (below : Interpreter) (context : Context) (span : Span)
    (library binding : String) :
    statement below context (.node span (.importLibrary library binding)) =
      (below.importLibrary library span >>= fun imported =>
        Run.orAt span (declare context binding imported false) >>= fun _ => pure .normal) :=
  rfl

theorem statement_import_of_unbound {below : Interpreter} (isolated : context.scope.outer = [])
    {span : Span} {library binding : String} {after : Store} {value : Value}
    (imported : below.importLibrary library span store = .ok value after)
    (unbound : (after.frames.get context.scope.inner).get? binding = none) :
    statement below context (.node span (.importLibrary library binding)) store =
      .ok .normal (after.changeFrames (.bind context.scope.inner binding value false)) := by
  have declared : Run.orAt span (declare context binding value false) after = .ok () _ :=
    Run.mapError_eq_ok_iff.mpr (declare_of_unbound isolated unbound value false)
  rw [statement_import, bind_of_ok imported, bind_of_ok declared]
  rfl

end Evaluate

theorem Frame.get?_bind_of_ne (frame : Frame) {other : String} (differs : other ≠ name)
    (value : Value) (isMutable : Bool) :
    (frame.bind name value isMutable).get? other = frame.get? other := by
  cases isMutable <;> simp [bind, get?, OrderedMap.get?_insert, differs]

theorem Statement.exists_of_import? {statement : Statement} {library binding : String}
    (isImport : statement.import? = some (library, binding)) :
    ∃ span, statement = .node span (.importLibrary library binding) := by
  unfold import? at isImport
  split at isImport
  · next span _ _ =>
    cases isImport
    exact ⟨span, rfl⟩
  · cases isImport

/-- A library is loaded once those are that it imports. -/
theorem Loads.cached {host : Host} {counted : String} {weight base : Nat} {children : List String}
    (known : host.Known name) (edges : ∀ next, host.Edge name next ↔ next ∈ children)
    {before after : Store} (absent : before.imports.contains name = false)
    {objects : Array (OrderedMap Value)} {functions : Array Callable} {frames : Frames}
    (size_le : before.frames.table.size ≤ frames.table.size)
    (kept : ∀ ref : FrameRef, ref.index < base → frames.get ref = before.frames.get ref)
    (loads : Loads host counted weight base children
      { before with objects := objects, functions := functions, frames := frames
                    loading := before.loading ++ [name] } after)
    {noted : Array LogEntry}
    (lines : NativeLibrary.ofName? counted = none →
      noted.size = after.log.size + if name = counted then weight else 0)
    (ref : ObjectRef) :
    Loads host counted weight base [name] before
      (Evaluate.cache name ref (Evaluate.endLoading { after with log := noted })) := by
  have contains (other : String) :
      (after.imports.insert name ref).contains other = true ↔
        other = name ∨ after.imports.contains other = true := by
    rw [OrderedMap.contains, OrderedMap.get?_insert]
    split
    next same => simp [same]
    next differs => simp [differs, OrderedMap.contains]
  have resolvable : host.Resolvable name := by
    rw [Host.resolvable_iff]
    exact ⟨known, fun next edge => loads.resolvable next ((edges next).mp edge)⟩
  -- The library is not loaded on the way, since there is no way back to it.
  have unloaded : after.imports.contains name = false := by
    rw [Bool.eq_false_iff, ne_eq, loads.loaded]
    rintro (earlier | ⟨next, member, back⟩)
    · rw [absent] at earlier
      cases earlier
    · exact (loads.resolvable next member).not_reachable ((edges next).mpr member) back
  refine ⟨List.forall_mem_singleton.mpr resolvable, fun other => ?_, ?_,
    size_le.trans loads.size_le, fun ref below => (loads.frames ref below).trans (kept ref below),
    fun notNative => ?_⟩
  · simp only [Evaluate.cache, Evaluate.endLoading, contains, loads.loaded, List.mem_singleton,
      exists_eq_left]
    rw [Host.reachable_iff, or_left_comm]
    simp only [edges]
  · simp only [Evaluate.cache, Evaluate.endLoading, loads.loading, List.dropLast_concat]
  · have lines := lines notNative
    have earlier := loads.lines notNative
    simp only [Store.due, Evaluate.cache, Evaluate.endLoading, contains] at earlier ⊢
    by_cases same : name = counted
    · subst same
      simp only [absent, unloaded, Bool.false_eq_true, if_false, true_or, if_true] at *
      omega
    · simp only [if_neg same, Ne.symm same, false_or] at *
      omega

/-! ## The walk -/

section Walk

variable {host : Host} {counted : String} {weight : Nat}

/-- A program of imports loads one library after the other, up to the first that cannot be
resolved.  Its bindings are never in the way. -/
theorem resolves_program {below inner : Interpreter}
    (executes : below.execute = Evaluate.statement inner) (isolated : context.scope.outer = [])
    {loading : List String} {statements : List Statement}
    (imports : ∀ name ∈ (Statement.imports statements).map Prod.fst, ∀ span store,
      store.loading = loading → host.Closed store →
      Resolves host counted weight store.frames.table.size [name] store
        (inner.importLibrary name span store))
    (isSome : ∀ statement ∈ statements, statement.import?.isSome = true)
    (distinct : ((Statement.imports statements).map Prod.snd).Nodup)
    (sameLoading : store.loading = loading)
    (closed : host.Closed store)
    (present : context.scope.inner.index < store.frames.table.size)
    (unbound : ∀ binding ∈ (Statement.imports statements).map Prod.snd,
      (store.frames.get context.scope.inner).get? binding = none) :
    Resolves host counted weight context.scope.inner.index
      ((Statement.imports statements).map Prod.fst) store
      (Evaluate.program below context statements store) := by
  induction statements generalizing store with
  | nil => exact .ok (.of_frames le_rfl fun _ _ => rfl)
  | cons statement rest ih =>
    obtain ⟨⟨library, binding⟩, isImport⟩ :=
      Option.isSome_iff_exists.mp (isSome statement List.mem_cons_self)
    have first : Statement.imports (statement :: rest) =
        (library, binding) :: Statement.imports rest :=
      List.filterMap_cons_some isImport
    obtain ⟨span, rfl⟩ := Statement.exists_of_import? isImport
    rw [first, List.map_cons] at imports distinct unbound ⊢
    obtain ⟨differs, distinct⟩ := List.nodup_cons.mp distinct
    have imported := imports library List.mem_cons_self span store sameLoading closed
    rw [Evaluate.program, executes]
    cases ran : inner.importLibrary library span store with
    | error fault after =>
      rw [ran] at imported
      cases imported with
      | error member unresolved =>
        simp only [Evaluate.statement_import, bind, EStateM.bind, ran]
        exact .error (List.mem_cons.mpr (.inl (List.mem_singleton.mp member))) unresolved
    | ok value middle =>
      rw [ran] at imported
      obtain ⟨loads⟩ | _ := imported
      have kept := loads.frames context.scope.inner present
      let change := FrameChange.bind context.scope.inner binding value false
      rw [bind_of_ok (Evaluate.statement_import_of_unbound isolated ran
        (kept ▸ unbound binding List.mem_cons_self))]
      have presentMiddle := present.trans_le loads.size_le
      have bound : Loads host counted weight context.scope.inner.index [] middle
          (middle.changeFrames change) := by
        refine .of_frames (Frames.size_commit _ change).ge fun ref below => ?_
        exact Frames.get_commit_of_ne _ fun same => below.ne (congrArg FrameRef.index same)
      have walked := (loads.lower present.le).trans bound
      have later := ih (fun name member => imports name (List.mem_cons_of_mem _ member))
        (fun other member => isSome other (List.mem_cons_of_mem _ member)) distinct
        (walked.loading.trans sameLoading) (walked.closed closed)
        (present.trans_le walked.size_le) fun other member => ?_
      · change Resolves _ _ _ _ _ _ (Evaluate.program below context rest _)
        generalize Evaluate.program below context rest _ = result at later
        cases later with
        | ok later => exact .ok (walked.trans later)
        | error member unresolved => exact .error (List.mem_cons_of_mem _ member) unresolved
      · have apart : other ≠ binding := fun same => differs (same ▸ member)
        have here : (middle.frames.commit change).get context.scope.inner = _ :=
          Frames.get_commit_self middle.frames change presentMiddle
        have earlier := unbound other (List.mem_cons_of_mem _ member)
        rw [← kept, ← Frame.get?_bind_of_ne _ apart value false] at earlier
        exact (congrArg (Frame.get? · other) here).trans earlier

/-- A native library has no ways on. -/
theorem resolves_load_of_native {native : NativeLibrary}
    (isNative : NativeLibrary.ofName? name = some native)
    (absent : store.imports.contains name = false) (below : Interpreter) (span : Span) :
    Resolves host counted weight store.frames.table.size [name] store
      (Evaluate.load host below name span store) := by
  obtain ⟨ref, objects, functions, loaded⟩ :=
    Evaluate.exists_load_of_native host below isNative span store
  have known : host.Known name := .inl (by simp [isNative])
  have edges (next : String) : host.Edge name next ↔ next ∈ [] := by
    simp [Host.Edge, Host.library?, isNative]
  rw [loaded]
  refine .ok (Loads.cached known edges absent le_rfl (fun _ _ => rfl)
    (.of_frames le_rfl fun _ _ => rfl) (fun notNative => ?_) ref)
  rw [if_neg fun same => by simp [← same, isNative] at notNative]
  rfl

theorem resolves_load_of_unknown (notNative : NativeLibrary.ofName? name = none)
    (notScript : host.script? name = none) (below : Interpreter) (span : Span) :
    Resolves host counted weight store.frames.table.size [name] store
      (Evaluate.load host below name span store) := by
  have unresolved : ¬ host.Resolvable name := fun resolvable =>
    (resolvable.known name .refl).elim (· notNative) (· notScript)
  simp only [Evaluate.load, Evaluate.locate, notNative, notScript]
  exact .error List.mem_cons_self unresolved

/-- Interpreters that rest on each other as those of an execution do, except that a note is
taken when the program of a library has ended. -/
structure Layered (host : Host) (notes : Notes) (counted : String) (weight : Nat)
    (levels : Nat → Interpreter) : Prop where
  execute : ∀ budget, (levels (budget + 1)).execute = Evaluate.statement (levels budget)
  importLibrary : ∀ budget,
    (levels (budget + 1)).importLibrary = Evaluate.importLibrary host (levels budget)
  runLibrary : ∀ budget name context library store,
    (levels (budget + 1)).runLibrary name context library store =
      Run.noteEnd notes (.ran name)
        (Evaluate.program (levels budget) context library.statements store)
  lines : ∀ name result log, (notes (.ran name result) log).size =
    log.size + if name = counted then weight else 0

variable {notes : Notes} {levels : Nat → Interpreter}
variable (layered : Layered host notes counted weight levels)

include layered

/-- A script library is loaded if those are that it imports. -/
theorem resolves_load_of_script {rest : Nat} (closed : host.Closed store)
    (absent : store.imports.contains name = false) (isLibrary : host.library? name = some library)
    (only : library.OnlyImports)
    (imports : ∀ next, host.Edge name next → ∀ span other,
      other.loading = store.loading ++ [name] → host.Closed other →
      Resolves host counted weight other.frames.table.size [next] other
        ((levels rest).importLibrary next span other))
    (span : Span) :
    Resolves host counted weight store.frames.table.size [name] store
      (Evaluate.load host (levels (rest + 1 + 1)) name span store) := by
  have edges (next : String) : host.Edge name next ↔
      next ∈ (Statement.imports library.statements).map Prod.fst := by
    simp only [Host.Edge, isLibrary, Option.some.injEq, exists_eq_left']
  have entered : host.Closed (Evaluate.enterLibrary name store) := closed
  have isolated : (Evaluate.libraryContext store).scope.outer = [] := rfl
  have walked : Resolves host counted weight store.frames.table.size
      ((Statement.imports library.statements).map Prod.fst) (Evaluate.enterLibrary name store)
      (Evaluate.program (levels (rest + 1)) (Evaluate.libraryContext store) library.statements
        (Evaluate.enterLibrary name store)) := by
    refine resolves_program (layered.execute rest) isolated
      (fun next member => imports next ((edges next).mpr member)) only.isSome only.distinct rfl
      entered ?_ fun binding _ => ?_
    · simp [Evaluate.libraryContext, Evaluate.enterLibrary, Frames.nextRef, Frames.push]
    · simp only [Evaluate.libraryContext, Evaluate.enterLibrary, Frames.get_push]
      simp [Frames.get, Frames.nextRef, Frame.get?, Frame.empty, OrderedMap.get?, OrderedMap.empty]
  have known : host.Known name := by
    obtain ⟨-, isScript⟩ := Host.library?_eq_some_iff.mp isLibrary
    exact .inr (by simp [isScript])
  rw [Evaluate.load_of_script _ isLibrary, layered.runLibrary]
  generalize Evaluate.program (levels (rest + 1)) _ library.statements _ = result at walked
  cases walked with
  | ok loads =>
    refine .ok (Loads.cached known edges absent ?_ (fun ref _ => store.frames.get_push ref)
      loads (fun _ => layered.lines ..) _)
    simp [Frames.push]
  | error member unresolved =>
    exact .error List.mem_cons_self fun resolvable => unresolved
      (resolvable.of_reachable (.single ((edges _).mpr member)))

variable (only : ∀ name library, host.script? name = some library → library.OnlyImports)

include only

/-- An import walks through the libraries that there is a way to.  Those that are loading
have a way to the library, so it is on a cycle if it is one of them. -/
theorem resolves_importLibrary {budget : Nat} (closed : host.Closed store)
    (path : ∀ other ∈ store.loading, Relation.TransGen host.Edge other name)
    (enough : host.unbegun store.loading * (host.height + 2) + 1 ≤ budget) (span : Span) :
    Resolves host counted weight store.frames.table.size [name] store
      ((levels budget).importLibrary name span store) := by
  induction budget using Nat.strong_induction_on generalizing name store span with
  | _ budget ih =>
    obtain ⟨budget, rfl⟩ := Nat.exists_eq_add_one.mpr (Nat.zero_lt_of_lt enough)
    rw [layered.importLibrary]
    cases found : store.imports.get? name with
    | some ref =>
      rw [Evaluate.importLibrary_of_cached host _ span found]
      exact .ok (.of_closed closed (Option.isSome_of_eq_some found))
    | none =>
      by_cases cyclic : name ∈ store.loading
      · rw [Evaluate.importLibrary_of_loading host _ span found cyclic]
        exact .error List.mem_cons_self fun resolvable =>
          resolvable.acyclic name .refl (path name cyclic)
      rw [Evaluate.importLibrary_of_absent host _ span found cyclic]
      have absent : store.imports.contains name = false := by
        rw [OrderedMap.contains, found]
        rfl
      cases isNative : NativeLibrary.ofName? name with
      | some native => exact resolves_load_of_native isNative absent _ span
      | none =>
        cases isScript : host.script? name with
        | none => exact resolves_load_of_unknown isNative isScript _ span
        | some library =>
          have isLibrary := Host.library?_eq_some_iff.mpr ⟨isNative, isScript⟩
          have fewer := Host.unbegun_lt (Host.mem_scriptNames isScript) cyclic
          have levels : _ ≤ host.unbegun store.loading * (host.height + 2) + 1 := level_le fewer
          obtain ⟨rest, rfl⟩ : ∃ rest, budget = rest + 1 + 1 := ⟨budget - 2, by omega⟩
          refine resolves_load_of_script layered closed absent isLibrary
            (only name library isScript) (fun next edge span other same closedOther => ?_)
            span
          refine ih rest (by omega) closedOther ?_ ?_ span
          · rw [same]
            refine List.forall_mem_append.mpr ⟨fun earlier member => ?_, ?_⟩
            · exact (path earlier member).tail edge
            · exact List.forall_mem_singleton.mpr (.single edge)
          · have := edge.height_pos
            rw [same]
            omega

end Walk

/-! ## Executions -/

/-- The program of a script library has ended. -/
def Event.Runs (name : String) : Event → Prop
  | .ran library _ => library = name
  | _ => False

instance (name : String) : DecidablePred (Event.Runs name)
  | .ran library _ => inferInstanceAs (Decidable (library = name))
  | .began _ | .ended _ | .imported _ _ _ _ => .isFalse id

theorem layered_interpreter (host : Host) (counted : String) :
    Layered host (fun _ log => log) counted 0 (interpreter host) where
  execute _ := rfl
  importLibrary _ := rfl
  runLibrary budget name context library store := by
    have same {result : EStateM.Result Fault Store Unit} :
        Run.noteEnd (fun _ log => log) (.ran name) result = result := by
      cases result <;> rfl
    rw [same]
    rfl
  lines name result log := by simp

/-- Nothing is noted of what is not looked for. -/
theorem watched_of_silent {α : Type} {watch : Event → Prop} [DecidablePred watch]
    {event : Store → EStateM.Result Fault Store α → Event} (began : ∀ store, ¬ watch (.began store))
    (silent : ∀ before result, ¬ watch (event before result)) (computation : Run α) :
    Run.watched (Notes.counting watch) event computation = computation := by
  have same {store : Store} {event : Event} (unseen : ¬ watch event) :
      store.note (Notes.counting watch) event = store := by
    rw [Store.note, Notes.counting, if_neg unseen]
  funext store
  simp only [Run.watched, same (began store)]
  cases computation store <;> simp only [Run.noteEnd, same (silent _ _)]

theorem layered_watchedInterpreter (host : Host) (counted : String) :
    Layered host (Notes.counting (Event.Runs counted)) counted 1
      (watchedInterpreter (Event.Runs counted) host) where
  execute budget := by
    funext context statement
    show Run.watched (Notes.counting (Event.Runs counted))
      (fun _ result => .ended (Run.finalStore result)) _ = _
    exact watched_of_silent (fun _ => id) (fun _ _ => id) _
  importLibrary budget := by
    funext name span
    show Run.watched (Notes.counting (Event.Runs counted)) _ _ = _
    exact watched_of_silent (fun _ => id) (fun _ _ => id) _
  runLibrary _ _ _ _ _ := rfl
  lines name result log := by
    by_cases same : name = counted
    · have seen : Event.Runs counted (.ran name result) := same
      rw [Notes.counting, if_pos seen, if_pos same, Array.size_push]
    · have unseen : ¬ Event.Runs counted (.ran name result) := same
      rw [Notes.counting, if_neg unseen, if_neg same, Nat.add_zero]

/-- An execution that has not imported anything. -/
structure Store.Fresh (store : Store) : Prop where
  imports : store.imports = OrderedMap.empty
  loading : store.loading = []

theorem Store.Fresh.not_contains (fresh : store.Fresh) (name : String) :
    store.imports.contains name = false := by
  rw [fresh.imports]
  rfl

section Fresh

variable {host : Host} {notes : Notes} {counted : String} {weight : Nat}
variable {levels : Nat → Interpreter} (layered : Layered host notes counted weight levels)
variable (only : ∀ name library, host.script? name = some library → library.OnlyImports)
variable (fresh : store.Fresh) (name : String) (span : Span)

include layered only fresh

/-- A fresh execution has budget enough to walk through all libraries. -/
theorem resolves_of_fresh :
    Resolves host counted weight store.frames.table.size [name] store
      ((levels (Execution.budget host 0)).importLibrary name span store) := by
  refine resolves_importLibrary layered only ?_ ?_ ?_ span
  · intro other isLoaded
    rw [fresh.not_contains] at isLoaded
    cases isLoaded
  · rw [fresh.loading]
    exact List.forall_mem_nil _
  · have all : host.unbegun store.loading = host.scriptCount := by
      rw [fresh.loading, ← host.length_scriptNames, Host.unbegun]
      simp
    rw [all, Execution.budget, Nat.zero_max]
    have levels := Nat.mul_le_mul_right (host.height + 2)
      (show host.scriptCount ≤ host.maxCallDepth + host.scriptCount + 1 by omega)
    have positive : 0 < Nat.pow 2 60 := Nat.pow_pos (Nat.zero_lt_succ 1)
    omega

theorem exists_loads_of_resolvable (resolvable : host.Resolvable name) :
    ∃ value after,
      (levels (Execution.budget host 0)).importLibrary name span store = .ok value after ∧
      Loads host counted weight store.frames.table.size [name] store after := by
  have resolves := resolves_of_fresh layered only fresh name span
  generalize (levels _).importLibrary name span store = result at resolves ⊢
  cases resolves with
  | ok loads => exact ⟨_, _, rfl, loads⟩
  | error member unresolved => exact absurd (List.mem_singleton.mp member ▸ resolvable) unresolved

theorem exists_error_of_not_resolvable (unresolved : ¬ host.Resolvable name) :
    ∃ error after,
      (levels (Execution.budget host 0)).importLibrary name span store =
        .error (.error error) after := by
  have resolves := resolves_of_fresh layered only fresh name span
  generalize (levels _).importLibrary name span store = result at resolves ⊢
  cases resolves with
  | ok loads => exact absurd (loads.resolvable name List.mem_cons_self) unresolved
  | error => exact ⟨_, _, rfl⟩

end Fresh

/-- Importing a library into a fresh execution succeeds if and only if there is no way from
it to an unknown name nor to a cycle; and otherwise it fails with an error.  When it has
succeeded, those libraries are loaded that there is a way to, and of the script libraries
these were run once and the others never.

The libraries do nothing but import others, each under a name of its own. -/
theorem library_graph_resolved {host : Host}
    (only : ∀ name library, host.script? name = some library → library.OnlyImports) {store : Store}
    (fresh : store.Fresh) (name : String) (span : Span) :
    ((∃ value after, Execution.importLibrary host name span store = .ok value after) ↔
        host.Resolvable name) ∧
      (¬ host.Resolvable name →
        ∃ error after, Execution.importLibrary host name span store = .error (.error error) after) ∧
      ∀ value after, Execution.importLibrary host name span store = .ok value after →
        (∀ other, after.imports.contains other = true ↔ host.Reachable name other) ∧
        ∀ other, NativeLibrary.ofName? other = none →
          (host.Reachable name other → occurrences host (Event.Runs other)
            [(Execution.budget host 0, .importLibrary name span)] store = 1) ∧
          (¬ host.Reachable name other → occurrences host (Event.Runs other)
            [(Execution.budget host 0, .importLibrary name span)] store = 0) := by
  have resolvable {value : Value} {after : Store}
      (imported : Execution.importLibrary host name span store = .ok value after) :
      host.Resolvable name := by
    by_contra unresolved
    obtain ⟨error, failed, same⟩ :=
      exists_error_of_not_resolvable (layered_interpreter host name) only fresh name span unresolved
    cases imported.symm.trans same
  have reached {counted : String} {weight : Nat} {after : Store}
      (loads : Loads host counted weight store.frames.table.size [name] store after)
      (other : String) :
      after.imports.contains other = true ↔ host.Reachable name other := by
    rw [loads.loaded, fresh.not_contains]
    simp
  have plain (other : String) :=
    exists_loads_of_resolvable (layered_interpreter host other) only fresh name span
  refine ⟨⟨fun ⟨_, _, imported⟩ => resolvable imported, fun resolvable => ?_⟩,
    exists_error_of_not_resolvable (layered_interpreter host name) only fresh name span,
    fun value after imported => ⟨?_, fun other notNative => ?_⟩⟩
  · obtain ⟨value, after, imported, -⟩ := plain name resolvable
    exact ⟨value, after, imported⟩
  · obtain ⟨_, _, same, loads⟩ := plain name (resolvable imported)
    cases imported.symm.trans same
    exact reached loads
  · obtain ⟨_, _, same, loads⟩ := plain other (resolvable imported)
    cases imported.symm.trans same
    obtain ⟨_, noted, watched, loadsNoted⟩ := exists_loads_of_resolvable
      (layered_watchedInterpreter host other) only fresh name span (resolvable imported)
    have count : occurrences host (Event.Runs other)
        [(Execution.budget host 0, .importLibrary name span)] store =
        noted.log.size - after.log.size := by
      simp only [occurrences, session, Request.perform, Run.finalStore_bind_pure, watched, same]
      rfl
    have lines := loads.lines notNative
    have linesNoted := loadsNoted.lines notNative
    simp only [Store.due, fresh.not_contains, Bool.false_eq_true, if_false, ite_self]
      at lines linesNoted
    rw [count]
    constructor
    · intro reachable
      rw [if_pos ((reached loadsNoted other).mpr reachable)] at linesNoted
      omega
    · intro unreachable
      rw [if_neg fun isLoaded => unreachable ((reached loadsNoted other).mp isLoaded)] at linesNoted
      omega

/-- Libraries `left` and `right`, which `top` imports and which both import `shared`; `right`
imports a native library too, and `loop` imports itself. -/
def diamondHost : Host :=
  let somewhere : Span := { file := "", start := Position.start, stop := Position.start }
  let importing (names : List String) : Program :=
    { metadata := OrderedMap.empty
      statements := names.map fun name => .node somewhere (.importLibrary name name) }
  { scripts := some (OrderedMap.ofEntries
      [("top", importing ["left", "right"]), ("left", importing ["shared"]),
        ("right", importing ["shared", "math"]), ("shared", importing []),
        ("loop", importing ["loop"])]) }

theorem library_graph_resolved_diamond :
    let span : Span := { file := "", start := Position.start, stop := Position.start }
    (∀ name library, diamondHost.script? name = some library → library.OnlyImports) ∧
      Store.empty.Fresh ∧
      (∃ value after,
        Execution.importLibrary diamondHost "top" span Store.empty = .ok value after ∧
        after.imports.contains "shared" = true) ∧
      occurrences diamondHost (Event.Runs "shared")
        [(Execution.budget diamondHost 0, .importLibrary "top" span)] Store.empty = 1 ∧
      ∃ error after,
        Execution.importLibrary diamondHost "loop" span Store.empty =
          .error (.error error) after := by
  intro span
  have only (name : String) (library : Program)
      (found : diamondHost.script? name = some library) : library.OnlyImports := by
    obtain ⟨scripts, given, present⟩ := Option.bind_eq_some_iff.mp found
    obtain ⟨before, after, entries, -⟩ := List.lookup_eq_some_iff.mp present
    have member : (name, library) ∈ scripts.entries := by simp [entries]
    have all : ∀ entry ∈ scripts.entries,
        (∀ statement ∈ entry.2.statements, statement.import?.isSome = true) ∧
          ((Statement.imports entry.2.statements).map Prod.snd).Nodup := by
      cases given
      decide
    exact ⟨(all _ member).1, (all _ member).2⟩
  have fresh : Store.empty.Fresh := ⟨rfl, rfl⟩
  have resolvable {name : String} (library : Program)
      (found : diamondHost.library? name = some library)
      (children : ∀ next ∈ (Statement.imports library.statements).map Prod.fst,
        diamondHost.Resolvable next) : diamondHost.Resolvable name := by
    rw [Host.resolvable_iff]
    refine ⟨.inr ?_, ?_⟩
    · simp [(Host.library?_eq_some_iff.mp found).2]
    · rintro next ⟨_, same, member⟩
      cases found.symm.trans same
      exact children next member
  have shared : diamondHost.Resolvable "shared" := resolvable _ rfl (List.forall_mem_nil _)
  have native : diamondHost.Resolvable "math" := by
    rw [Host.resolvable_iff]
    refine ⟨.inl (Option.some_ne_none _), ?_⟩
    rintro next ⟨_, ⟨⟩, _⟩
  have left : diamondHost.Resolvable "left" :=
    resolvable _ rfl (List.forall_mem_singleton.mpr shared)
  have right : diamondHost.Resolvable "right" := resolvable _ rfl
    (List.forall_mem_cons.mpr ⟨shared, List.forall_mem_singleton.mpr native⟩)
  have top : diamondHost.Resolvable "top" := resolvable _ rfl
    (List.forall_mem_cons.mpr ⟨left, List.forall_mem_singleton.mpr right⟩)
  have reachable : diamondHost.Reachable "top" "shared" :=
    .head ⟨_, rfl, List.mem_cons_self⟩ (.single (show diamondHost.Edge "left" "shared" from
      ⟨_, rfl, List.mem_cons_self⟩))
  have cycle : diamondHost.Edge "loop" "loop" := ⟨_, rfl, List.mem_cons_self⟩
  obtain ⟨succeeds, -, loads⟩ := library_graph_resolved only fresh "top" span
  obtain ⟨value, after, imported⟩ := succeeds.mpr top
  obtain ⟨loaded, counts⟩ := loads value after imported
  obtain ⟨-, fails, -⟩ := library_graph_resolved only fresh "loop" span
  exact ⟨only, fresh, ⟨value, after, imported, (loaded "shared").mpr reachable⟩,
    (counts "shared" rfl).1 reachable,
    fails fun resolvable => resolvable.acyclic "loop" .refl (.single cycle)⟩

end PatchScript
