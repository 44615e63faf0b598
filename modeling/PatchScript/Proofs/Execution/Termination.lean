import Mathlib.Data.List.MinMax
import Mathlib.Order.Nat
import PatchScript.Proofs.Evaluate.Budget
import PatchScript.Proofs.Execution.Guarantees
import PatchScript.Proofs.Syntax.Height
import PatchScript.Proofs.Syntax.Nodes

/-!
# Programs without loops end

A program in which no `while` and no `for` occurs, nor in a script library that it can
import, does not use up its budget, whatever it calls, iterates over and imports.  What
bounds its run is the height of its syntax, in each of the calls that can be active at once
and in each of the libraries that can be loading at once.

The budget is enough for the calls and libraries that are still to come and for the syntax that
is left.  A budget that is not used up may as well be greater.
-/

namespace PatchScript

open Correspondence
open Run (Corresponds)

variable {host : Host} {library : Program} {name : String}

/-! ## Programs without loops -/

namespace SyntaxNode

/-- Whether a node is a loop that goes on for as long as its condition holds. -/
def isLoop : SyntaxNode → Bool
  | .statement form => form.isLoop
  | .expr _ => false

/-- The library that a node imports. -/
def imported? : SyntaxNode → Option String
  | .expr (.library name) => some name
  | .statement (.importLibrary library _) => some library
  | _ => none

end SyntaxNode

/-- No `while` and no `for` occurs in a program. -/
def Program.LoopFree (program : Program) : Prop :=
  ∀ node ∈ program.nodes, node.isLoop = false

/-- A program can import a library: the import occurs in it, or in a script library that it
can import. -/
inductive Host.Importable (host : Host) (program : Program) : String → Prop where
  | direct {node : SyntaxNode} {name : String} :
    node ∈ program.nodes → node.imported? = some name → Importable host program name
  | through {name other : String} {library : Program} {node : SyntaxNode} :
    Importable host program name → NativeLibrary.ofName? name = none →
    host.script? name = some library → node ∈ library.nodes → node.imported? = some other →
    Importable host program other

/-- No loop occurs in a program, nor in a script library that it can import. -/
structure Host.LoopFree (host : Host) (program : Program) : Prop where
  own : program.LoopFree
  libraries {name : String} {library : Program} :
    host.Importable program name → NativeLibrary.ofName? name = none →
    host.script? name = some library → library.LoopFree

/-- A node that can be met while a program without loops is executed. -/
def Host.Admits (host : Host) (program : Program) (node : SyntaxNode) : Prop :=
  node.isLoop = false ∧ ∀ name, node.imported? = some name → host.Importable program name

section LoopFree

variable {program : Program} (loopFree : host.LoopFree program)

include loopFree

theorem Host.LoopFree.admits : ∀ node ∈ program.nodes, host.Admits program node :=
  fun node member => ⟨loopFree.own node member, fun _ found => .direct member found⟩

theorem Host.LoopFree.admits_library (importable : host.Importable program name)
    (notNative : NativeLibrary.ofName? name = none) (found : host.script? name = some library) :
    ∀ node ∈ library.nodes, host.Admits program node := by
  intro node member
  have free := loopFree.libraries importable notNative found node member
  exact ⟨free, fun _ imported => .through importable notNative found member imported⟩

end LoopFree

/-! ## Script libraries -/

/-- The names of the script libraries. -/
def Host.scriptNames (host : Host) : List String :=
  match host.scripts with
  | some scripts => scripts.keys
  | none => []

theorem Host.length_scriptNames (host : Host) : host.scriptNames.length = host.scriptCount := by
  unfold scriptNames scriptCount
  cases host.scripts with
  | none => rfl
  | some scripts => exact List.length_map ..

theorem Host.mem_scriptNames (found : host.script? name = some library) :
    name ∈ host.scriptNames := by
  obtain ⟨scripts, given, present⟩ := Option.bind_eq_some_iff.mp found
  rw [scriptNames, given]
  exact Entries.isSome_lookup.mp (Option.isSome_of_eq_some present)

theorem Host.height_le (found : host.script? name = some library) :
    library.height 1 ≤ host.height := by
  obtain ⟨scripts, given, present⟩ := Option.bind_eq_some_iff.mp found
  obtain ⟨before, after, entries, _⟩ := List.lookup_eq_some_iff.mp present
  have member : library ∈ scripts.values := by
    rw [OrderedMap.values, entries]
    simp
  rw [height, given]
  exact List.le_max_of_le (List.mem_map_of_mem member) (Nat.le_refl _)

/-! ## Phases and what they cost -/

/-- How many calls are active and which libraries are loading. -/
structure NestingPhase where
  depth : Nat
  loading : List String

/-- How many script libraries can still be begun. -/
def Host.unbegun (host : Host) (loading : List String) : Nat :=
  (host.scriptNames.filter fun name => !loading.contains name).length

theorem Host.unbegun_lt (isScript : name ∈ host.scriptNames) {loading : List String}
    (fresh : name ∉ loading) : host.unbegun (loading ++ [name]) < host.unbegun loading := by
  have fewer : (host.scriptNames.filter fun other => !(loading ++ [name]).contains other) =
      (host.scriptNames.filter fun other => !loading.contains other).filter fun other =>
        other != name := by
    rw [List.filter_filter]
    congr 1
    funext other
    by_cases same : other = name <;> simp [same]
  rw [unbegun, unbegun, fewer]
  refine List.length_filter_lt_length_iff_exists.mpr ⟨name, ?_, by simp⟩
  exact List.mem_filter.mpr ⟨isScript, by simpa using fresh⟩

/-- The height of the highest syntax that can be met. -/
def Host.ceiling (host : Host) (program : Program) : Nat :=
  max (program.height 1) host.height

/-- The budget for what can still be called and begun in a phase. -/
def Host.cost (host : Host) (program : Program) (phase : NestingPhase) : Nat :=
  (host.maxCallDepth - phase.depth + host.unbegun phase.loading) * (host.ceiling program + 2) + 1

section Costs

variable {program : Program} {phase : NestingPhase}

/-- What nests less deep by one costs less by a level. -/
theorem level_le {fewer more level : Nat} (less : fewer < more) :
    fewer * level + 1 + level ≤ more * level + 1 := by
  have levels : (fewer + 1) * level ≤ more * level := Nat.mul_le_mul_right level less
  rw [Nat.succ_mul] at levels
  omega

/-- A call leaves enough for the highest body. -/
theorem Host.cost_call (shallow : phase.depth < host.maxCallDepth) :
    host.cost program { phase with depth := phase.depth + 1 } + (host.ceiling program + 2) ≤
      host.cost program phase :=
  level_le (by simp only; omega)

/-- The loading of a library leaves enough for the highest program. -/
theorem Host.cost_load (isScript : name ∈ host.scriptNames) (fresh : name ∉ phase.loading) :
    host.cost program { phase with loading := phase.loading ++ [name] } +
        (host.ceiling program + 2) ≤
      host.cost program phase :=
  level_le (Nat.add_lt_add_left (unbegun_lt isScript fresh) _)

end Costs

/-! ## The correspondence -/

/-- A function that can be made while a program without loops is executed. -/
def Host.Makes (host : Host) (program : Program) (definition : FunctionDef) : Prop :=
  definition.height 1 ≤ host.ceiling program ∧ ∀ node ∈ definition.nodes, host.Admits program node

/-- The correspondence of a run with itself, whose budget is not used up. -/
def Correspondence.unexhausted (host : Host) (program : Program) : Correspondence :=
  reflexive
    (Identical (fun (phase : NestingPhase) store =>
        store.callDepth = phase.depth ∧ store.loading = phase.loading)
      (host.Makes program))
    (host.Makes program) False False

/-- Syntax of a height that can be met while a program without loops is executed. -/
def Correspondence.Parts.low (host : Host) (program : Program) (height : Nat) : Parts where
  Exprs expr expr' :=
    (expr.height 1 ≤ height ∧ ∀ node ∈ expr.nodes, host.Admits program node) ∧ expr = expr'
  Statements _ statement statement' :=
    (statement.height 1 ≤ height ∧ ∀ node ∈ statement.nodes, host.Admits program node) ∧
      statement = statement'
  Imports := host.Importable program

variable {program : Program} {phase : NestingPhase} {height : Nat}

instance : (unexhausted host program).Lawful :=
  (loose_identical fun _ _ _ _ _ _ _ => id).lawful

section

variable (bounded : height ≤ host.ceiling program)
include bounded

/-- The parts of syntax of a height are lower by one. -/
theorem mirrors_unexhausted :
    (unexhausted host program).Mirrors (.low host program height)
      ((PartRules.height 1 height).and (.everywhere (host.Admits program))) := by
  have chained (expr : Expr)
      (kept : ((PartRules.height 1 height).and (.everywhere (host.Admits program))).chained expr) :
      (Parts.low host program height).Exprs expr expr :=
    ⟨⟨by have := kept.1; simp only [PartRules.height] at this; omega, kept.2⟩, rfl⟩
  have reference (target : Reference)
      (kept : ((PartRules.height 1 height).and
        (.everywhere (host.Admits program))).reference target) :
      ReferenceForms (.low host program height) target.form target.form := by
    have low := kept.1
    have admitted := kept.2
    simp only [PartRules.height, PartRules.everywhere, Reference.height_eq, Reference.nodes_eq]
      at low admitted
    exact referenceForms_self chained (fun _ kept => ⟨kept, rfl⟩)
      (ReferenceForm.keeps_and (ReferenceForm.height_le_iff.mp low)
        (ReferenceForm.forall_nodes_iff.mp admitted))
  exact {
    spans := fun _ => rfl
    reference := reference
    deleted := reference
    chained := chained
    expr := fun _ kept => ⟨kept, rfl⟩
    statement := fun _ _ kept => ⟨kept, rfl⟩
    initial := fun _ _ kept =>
      ⟨⟨by have := kept.1; simp only [PartRules.height] at this; omega, kept.2⟩, rfl⟩
    function := fun _ kept => ⟨⟨kept.1.trans bounded, kept.2⟩, rfl⟩
    checked := fun unchecked => unchecked.elim }

theorem exprForms_unexhausted {expr : Expr} (low : expr.height 1 ≤ height + 1)
    (admitted : ∀ node ∈ expr.nodes, host.Admits program node) :
    (unexhausted host program).ExprForms (.low host program height) expr.form expr.form := by
  obtain ⟨self, inner⟩ := Expr.forall_nodes_iff.mp admitted
  rw [Expr.height_eq] at low
  refine exprForms_self (mirrors_unexhausted bounded) (ExprForm.keeps_and
    (ExprForm.height_le_iff.mp low) (ExprForm.forall_nodes_iff.mp inner)) fun name isImport => ?_
  exact self.2 name (by rw [isImport]; rfl)

theorem statementForms_unexhausted {inLoop : Bool} {statement : Statement}
    (low : statement.height 1 ≤ height + 1)
    (admitted : ∀ node ∈ statement.nodes, host.Admits program node) :
    (unexhausted host program).StatementForms (.low host program height) inLoop statement.form
      statement.form := by
  obtain ⟨self, inner⟩ := Statement.forall_nodes_iff.mp admitted
  rw [Statement.height_eq] at low
  refine statementForms_self (mirrors_unexhausted bounded) (StatementForm.keeps_and
    (StatementForm.height_le_iff.mp low) (StatementForm.forall_nodes_iff.mp inner))
    (fun isLoop => ?_) fun library binding isImport => ?_
  · have free : statement.form.isLoop = false := self.1
    rw [free] at isLoop
    cases isLoop
  · exact self.2 library (by rw [isImport]; rfl)

end

theorem statements_unexhausted {statements : List Statement}
    (low : Statement.heightList 1 statements ≤ height)
    (admitted : ∀ node ∈ Statement.nodesList statements, host.Admits program node) :
    List.Forall₂ ((Parts.low host program height).Statements false) statements statements := by
  refine forall₂_self fun statement member => ⟨⟨?_, ?_⟩, rfl⟩
  · exact Statement.heightList_le_iff.mp low statement member
  · exact Statement.forall_nodesList_iff.mp admitted statement member

theorem made_unexhausted (definition definition' : FunctionDef)
    (definitions : (unexhausted host program).Definitions definition definition') :
    Made (.low host program (host.ceiling program)) definition definition' := by
  obtain ⟨⟨low, admitted⟩, rfl⟩ := definitions
  rw [FunctionDef.height_eq] at low
  rw [FunctionDef.nodes_eq] at admitted
  refine ⟨rfl, rfl, ?_⟩
  cases body : definition.body with
  | block statements =>
    rw [body] at low admitted
    exact .block (statements_unexhausted low admitted)
  | expression value =>
    rw [body] at low admitted
    exact .expression ⟨⟨low, admitted⟩, rfl⟩

theorem calling_unexhausted :
    (unexhausted host program).Calling host.maxCallDepth phase fun inner =>
      inner = { phase with depth := phase.depth + 1 } ∧ phase.depth < host.maxCallDepth where
  depth stores := congrArg Store.callDepth stores.same
  enter := by
    rintro store _ ⟨rfl, defined, depth, loading⟩ shallow
    refine ⟨_, ⟨rfl, depth ▸ shallow⟩, ⟨rfl, defined, ?_, loading⟩, ?_⟩
    · simp only [depth]
    · rintro after _ ⟨rfl, defined, depth, loading⟩
      refine ⟨rfl, defined, ?_, loading⟩
      simp only [Evaluate.leaveCall, depth, Nat.add_sub_cancel]

theorem loading_unexhausted (name : String) {store : Store}
    (stores : (unexhausted host program).Stores phase store store) :
    (unexhausted host program).Loading name phase
      { phase with loading := phase.loading ++ [name] }
      { phase with loading := phase.loading ++ [name] } store store where
  enter := by
    obtain ⟨_, defined, depth, loading⟩ := stores
    exact ⟨rfl, defined, depth, congrArg (· ++ [name]) loading⟩
  settle := id
  leave := by
    rintro after _ ⟨rfl, defined, depth, loading⟩
    refine ⟨rfl, defined, depth, ?_⟩
    simp only [Evaluate.endLoading, loading, List.dropLast_concat]
  finish := by
    rintro after _ ref _ ⟨rfl, defined, depth, loading⟩ ⟨⟩
    refine ⟨rfl, defined, depth, ?_⟩
    simp only [Evaluate.cache, Evaluate.endLoading, loading, List.dropLast_concat]

/-! ## Budgets that suffice -/

/-- An interpreter does not use up its budget on what the budget is enough for. -/
structure Host.Suffices (host : Host) (program : Program) (budget : Nat) : Prop where
  parts {phase : NestingPhase} {height : Nat} :
    height ≤ host.ceiling program → host.cost program phase + height ≤ budget →
    (unexhausted host program).Interpreters phase (.low host program height)
      (interpreter host budget) (interpreter host budget)
  libraries {phase : NestingPhase} {name : String} {library : Program} :
    host.Importable program name → NativeLibrary.ofName? name = none →
    host.script? name = some library →
    host.cost program phase + host.ceiling program + 1 ≤ budget →
    (unexhausted host program).RunsLibrary phase phase name library (interpreter host budget)
      (interpreter host budget)

section Suffices

variable {budget : Nat} (below : host.Suffices program budget)

include below

/-- Parts are lower by one, and there is enough left for them. -/
theorem Host.Suffices.lower (bounded : height ≤ host.ceiling program)
    (enough : host.cost program phase + height ≤ budget + 1) (positive : 0 < height) :
    ∃ lower, height = lower + 1 ∧ lower ≤ host.ceiling program ∧
      (unexhausted host program).Interpreters phase (.low host program lower)
        (interpreter host budget) (interpreter host budget) := by
  obtain ⟨lower, rfl⟩ := Nat.exists_eq_add_one.mpr positive
  exact ⟨lower, rfl, by omega, below.parts (by omega) (by omega)⟩

theorem Host.Suffices.above (loopFree : host.LoopFree program) :
    host.Suffices program (budget + 1) where
  parts {phase height} bounded enough :=
    { evaluate := by
        rintro _ _ expr _ contexts ⟨⟨low, admitted⟩, rfl⟩
        have positive : 0 < expr.height 1 := Expr.height_eq .. ▸ expr.form.height_pos
        obtain ⟨lower, rfl, bounded, parts⟩ := below.lower bounded enough (positive.trans_le low)
        exact Evaluate.corresponds_expression parts contexts rfl
          (exprForms_unexhausted bounded low admitted)
      execute := by
        rintro _ _ _ statement _ blocks ⟨⟨low, admitted⟩, rfl⟩
        have positive : 0 < statement.height 1 := Statement.height_eq .. ▸ statement.form.height_pos
        obtain ⟨lower, rfl, bounded, parts⟩ := below.lower bounded enough (positive.trans_le low)
        exact Evaluate.corresponds_statement parts blocks rfl
          (statementForms_unexhausted bounded low admitted) fun _ _ => id
      call := by
        intro _ _ _ _ _ _ functions values spans _ _ stores
        refine Evaluate.outcomes_call calling_unexhausted ?_ made_unexhausted functions values
          spans stores fun _ _ _ _ => False.elim
        -- Inside of a call there is enough left for the highest body.
        rintro _ ⟨rfl, shallow⟩
        have costs : host.cost program { phase with depth := phase.depth + 1 } + _ ≤ _ :=
          Host.cost_call shallow
        exact below.parts (Nat.le_refl _) (by omega)
      importLibrary := by
        rintro name span _ importable ⟨⟩ store store' stores
        obtain rfl := stores.same
        refine Evaluate.outcomes_importLibrary host (optionRel_self fun _ _ => rfl) rfl stores rfl
          fun _ fresh => ?_
        have loading := loading_unexhausted name stores
        refine Evaluate.outcomes_of_loads loading (Evaluate.loads_load host loading
          (fun library notNative found => ?_) rfl)
        -- Inside of a library there is enough left for the highest program.
        have begun : name ∉ phase.loading := stores.place.2 ▸ fresh
        have costs : host.cost program { phase with loading := phase.loading ++ [name] } + _ ≤ _ :=
          Host.cost_load (Host.mem_scriptNames found) begun
        exact below.libraries importable notNative found (by omega)
      patience := False.elim }
  libraries importable notNative found enough context context' blocks := by
    refine Evaluate.corresponds_program (below.parts (Nat.le_refl (host.ceiling program)) (by omega))
      blocks (fun _ _ related => congrArg Statement.span related.2) (statements_unexhausted ?_ ?_)
    · exact (Host.height_le found).trans (Nat.le_max_right ..)
    · exact loopFree.admits_library importable notNative found

end Suffices

theorem Host.LoopFree.suffices (loopFree : host.LoopFree program) (budget : Nat) :
    host.Suffices program budget := by
  induction budget with
  | zero =>
    have positive (phase : NestingPhase) : 0 < host.cost program phase := Nat.succ_pos _
    refine ⟨fun {phase _} _ enough => ?_, fun {phase _ _} _ _ _ enough => ?_⟩
    all_goals
      have := positive phase
      omega
  | succ budget ih => exact ih.above loopFree

/-! ## Executions -/

namespace Execution

/-- Execute a program on a document with a budget. -/
def onDocumentWithin (host : Host) (budget : Nat) (members : List (String × Json))
    (program : Program) : EStateM.Result Fault Store Unit :=
  (start members >>= fun context =>
    Evaluate.program (interpreter host budget) context program.statements) Store.empty

theorem onDocument_eq (members : List (String × Json)) :
    onDocument host members program =
      onDocumentWithin host (budget host (program.height 1)) members program :=
  rfl

/-- The budget of an execution is enough for the program at the start. -/
theorem cost_le_budget :
    host.cost program ⟨0, []⟩ + host.ceiling program ≤ budget host (program.height 1) := by
  have all : host.unbegun [] = host.scriptCount := by
    rw [← host.length_scriptNames, Host.unbegun]
    simp
  have levels : (host.maxCallDepth + host.scriptCount + 1) * (host.ceiling program + 2) =
      (host.maxCallDepth + host.scriptCount) * (host.ceiling program + 2) +
        (host.ceiling program + 2) :=
    Nat.succ_mul ..
  simp only [Host.cost, budget, all, Nat.sub_zero]
  rw [← Host.ceiling, levels]
  omega

/-- A budget that is enough is not used up. -/
theorem outcomes_onDocument (loopFree : host.LoopFree program) (members : List (String × Json)) :
    (unexhausted host program).Outcomes ⟨0, []⟩ ⟨0, []⟩ (unexhausted host program).Errors
      (fun _ _ => True) (onDocument host members program) (onDocument host members program) := by
  have parts := (loopFree.suffices _).parts (Nat.le_refl _) cost_le_budget
  have empty : (unexhausted host program).Stores ⟨0, []⟩ Store.empty Store.empty :=
    ⟨rfl, nofun, rfl, rfl⟩
  refine ((corresponds_start _ _ members).bind fun context context' blocks => ?_) _ _ empty
  exact Evaluate.corresponds_program parts blocks
    (fun _ _ related => congrArg Statement.span related.2)
    (statements_unexhausted (Nat.le_max_left ..) loopFree.admits)

/-- `import "steps"; function again(items) { foreach (item in $items) { $again($items); } }`
followed by `$again([null]);`, where `steps` imports itself. -/
def runaway : Host × Program :=
  let somewhere : Span := { file := "", start := Position.start, stop := Position.start }
  let statement := Statement.node somewhere
  let placed := Expr.node somewhere
  let reading (name : String) := placed (.reference (.node somewhere (.variable name)))
  let again (argument : Expr) := statement (.expression (placed (.call (reading "again") [argument])))
  let importing := statement (.importLibrary "steps" "steps")
  let body := statement (.foreach "item" (reading "items") (again (reading "items")))
  ({ maxCallDepth := 3
     scripts := some (OrderedMap.ofEntries
       [("steps", { metadata := OrderedMap.empty, statements := [importing] })]) },
    { metadata := OrderedMap.empty
      statements :=
        [statement (.declareFunction (.node (some "again") [.named "items"] (.block [body]) somewhere)),
          again (placed (.array [placed (.literal .null)])), importing] })

end Execution
end PatchScript
