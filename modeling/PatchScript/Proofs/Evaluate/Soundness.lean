import PatchScript.Proofs.Evaluate.Boundaries
import PatchScript.Proofs.Run.Reflexive
import PatchScript.Proofs.Syntax.WellFormed

/-!
# Sound evaluation

Evaluation beside itself: errors are located, and if the syntax is checked then so are the
functions in the store, internal faults do not occur, and a statement outside of a loop
does not end in a jump.  The interpreter is sound with every budget.
-/

namespace PatchScript

open Correspondence
open Run (Corresponds Obeys)

/-- Whether a statement ended in a jump that is meant for a loop around it. -/
def Signal.isJump : Signal → Bool
  | .breakLoop | .continueLoop => true
  | .normal | .returned _ => false

/-- Whether the definition of a function is well formed. -/
def Callable.WellFormed : Callable → Prop
  | .script definition _ => definition.WellFormed
  | _ => True

/-- Whether every function in the store is well formed. -/
def Store.WellFormed (store : Store) : Prop :=
  ∀ ref callable, store.function ref = some callable → callable.WellFormed

/-- The discipline of evaluation: with checked syntax all functions are well formed. -/
def Discipline.evaluation (checked : Prop) : Discipline where
  Holds store := checked → store.WellFormed

/-- A computation keeps to the discipline of evaluation and fails only with located
errors. -/
abbrev Run.Sound {α : Type} (checked : Prop) (post : α → Prop) (computation : Run α) : Prop :=
  Obeys (.evaluation checked) (EvalError.Located checked) post computation

variable {checked : Prop}

theorem Store.defined_iff {store : Store} :
    store.Defined (fun definition => checked → definition.WellFormed) ↔
      (checked → store.WellFormed) := by
  have callables (callable : Callable) :
      callable.Defined (fun definition => checked → definition.WellFormed) ↔
        (checked → callable.WellFormed) := by
    cases callable <;> simp [Callable.Defined, Callable.WellFormed]
  simp only [Defined, WellFormed, callables]
  exact ⟨fun defined isChecked ref callable present => defined ref callable present isChecked,
    fun wellFormed ref callable present isChecked => wellFormed isChecked ref callable present⟩

/-! ## The correspondence -/

/-- The correspondence of sound evaluation with itself. -/
def Correspondence.soundness (checked : Prop) : Correspondence :=
  reflexive (Identical (fun (_ : Unit) _ => True) fun definition => checked → definition.WellFormed)
    (fun definition => checked → definition.WellFormed) checked True

instance : (soundness checked).Lawful :=
  (loose_identical fun _ _ _ _ _ _ _ => id).lawful

theorem calling_soundness (limit : Nat) : (soundness checked).Calling limit () fun _ => True where
  depth stores := congrArg Store.callDepth stores.same
  enter := by
    rintro store _ ⟨rfl, defined, _⟩ _
    refine ⟨(), trivial, ⟨rfl, defined, trivial⟩, ?_⟩
    rintro after _ ⟨rfl, defined, _⟩
    exact ⟨rfl, defined, trivial⟩

theorem loading_soundness (name : String) {store : Store}
    (stores : (soundness checked).Stores () store store) :
    (soundness checked).Loading name () () () store store where
  enter := ⟨rfl, stores.defined, trivial⟩
  settle := id
  leave := by
    rintro after _ ⟨rfl, defined, _⟩
    exact ⟨rfl, defined, trivial⟩
  finish := by
    rintro after _ ref _ ⟨rfl, defined, _⟩ ⟨⟩
    exact ⟨rfl, defined, trivial⟩

/-! ## Checked syntax -/

/-- Syntax that is well formed if it is checked. -/
def Correspondence.Parts.wellFormed (checked : Prop) : Parts where
  Exprs expr expr' := (checked → expr.WellFormed) ∧ expr = expr'
  Statements inLoop statement statement' :=
    (checked → statement.WellFormed inLoop) ∧ statement = statement'
  Imports _ := True

/-- Parts that are well formed if they are checked. -/
def PartRules.checkedWellFormed (checked : Prop) : PartRules where
  reference target := checked → target.WellFormed
  deleted target := checked → target.WellFormed
  chained expr := checked → expr.WellFormed
  expr expr := checked → expr.WellFormed
  statement inLoop statement := checked → statement.WellFormed inLoop
  initial inLoop statement := checked → statement.WellFormed inLoop
  function definition := checked → definition.WellFormed
  checked := checked

theorem PartRules.wellFormed_implies : PartRules.wellFormed.Implies (.checkedWellFormed checked) :=
  ⟨fun _ kept _ => kept, fun _ kept _ => kept, fun _ kept _ => kept, fun _ kept _ => kept,
    fun _ _ kept _ => kept, fun _ _ kept _ => kept, fun _ kept _ => kept, fun _ => trivial⟩

theorem PartRules.lax_implies (unchecked : ¬ checked) :
    PartRules.lax.Implies (.checkedWellFormed checked) :=
  ⟨fun _ _ isChecked => absurd isChecked unchecked, fun _ _ isChecked => absurd isChecked unchecked,
    fun _ _ isChecked => absurd isChecked unchecked, fun _ _ isChecked => absurd isChecked unchecked,
    fun _ _ _ isChecked => absurd isChecked unchecked,
    fun _ _ _ isChecked => absurd isChecked unchecked,
    fun _ _ isChecked => absurd isChecked unchecked, unchecked⟩

theorem ReferenceForm.keeps_checked {form : ReferenceForm}
    (wellFormed : checked → form.WellFormed) : form.Keeps (.checkedWellFormed checked) := by
  by_cases isChecked : checked
  · exact (ReferenceForm.wellFormed_iff.mp (wellFormed isChecked)).imp PartRules.wellFormed_implies
  · exact form.keeps_lax.imp (PartRules.lax_implies isChecked)

theorem ExprForm.keeps_checked {form : ExprForm} (wellFormed : checked → form.WellFormed) :
    form.Keeps (.checkedWellFormed checked) := by
  by_cases isChecked : checked
  · exact (ExprForm.wellFormed_iff.mp (wellFormed isChecked)).imp PartRules.wellFormed_implies
  · exact form.keeps_lax.imp (PartRules.lax_implies isChecked)

theorem StatementForm.keeps_checked {inLoop : Bool} {form : StatementForm}
    (wellFormed : checked → form.WellFormed inLoop) :
    form.Keeps (.checkedWellFormed checked) inLoop := by
  by_cases isChecked : checked
  · exact (StatementForm.wellFormed_iff.mp (wellFormed isChecked)).imp PartRules.wellFormed_implies
  · exact (form.keeps_lax inLoop).imp (PartRules.lax_implies isChecked)

theorem mirrors_soundness :
    (soundness checked).Mirrors (.wellFormed checked) (.checkedWellFormed checked) := by
  have reference (target : Reference) (wellFormed : checked → target.WellFormed) :
      ReferenceForms (.wellFormed checked) target.form target.form := by
    have keeps : target.form.Keeps (.checkedWellFormed checked) :=
      ReferenceForm.keeps_checked fun isChecked => Reference.wellFormed_iff.mp (wellFormed isChecked)
    refine referenceForms_self ?_ ?_ keeps
    · exact fun _ kept => ⟨kept, rfl⟩
    · exact fun _ kept => ⟨kept, rfl⟩
  exact {
    spans := fun _ => rfl
    reference := reference
    deleted := reference
    chained := fun _ kept => ⟨kept, rfl⟩
    expr := fun _ kept => ⟨kept, rfl⟩
    statement := fun _ _ kept => ⟨kept, rfl⟩
    initial := fun _ _ kept => ⟨kept, rfl⟩
    function := fun _ kept => ⟨kept, rfl⟩
    checked := id }

/-- A well-formed function is made of well-formed parts. -/
theorem made_soundness {definition : FunctionDef} (wellFormed : checked → definition.WellFormed) :
    Made (.wellFormed checked) definition definition := by
  obtain ⟨name, parameters, body, span⟩ := definition
  refine ⟨rfl, rfl, ?_⟩
  cases body with
  | block body =>
    refine .block (forall₂_self fun statement member => ⟨fun isChecked => ?_, rfl⟩)
    exact Statement.wellFormedList_iff.mp (wellFormed isChecked).2 statement member
  | expression value => exact .expression ⟨fun isChecked => (wellFormed isChecked).2, rfl⟩

theorem statements_soundness {inLoop : Bool} {body : List Statement}
    (wellFormed : checked → Statement.WellFormedList inLoop body) :
    List.Forall₂ ((Parts.wellFormed checked).Statements inLoop) body body :=
  forall₂_self fun statement member =>
    ⟨fun isChecked => Statement.wellFormedList_iff.mp (wellFormed isChecked) statement member, rfl⟩

/-! ## The interpreter -/

/-- An interpreter that is sound, also where it runs the libraries of a host. -/
structure Interpreter.Sound (checked : Prop) (host : Host) (below : Interpreter) : Prop where
  parts : (soundness checked).Interpreters () (.wellFormed checked) below below
  libraries : ∀ name library, host.script? name = some library →
    (soundness checked).RunsLibrary () () name library below below

theorem Interpreter.sound_exhausted (host : Host) : Interpreter.exhausted.Sound checked host where
  parts := interpreters_exhausted trivial
  libraries _ _ _ _ _ _ _ _ stores := .exhausted stores trivial

section

variable {host : Host}
variable (libraries : checked → ∀ name library, host.script? name = some library → library.WellFormed)
include libraries

theorem Interpreter.Sound.above {below : Interpreter} (sound : below.Sound checked host)
    (patience : Nat) : (Interpreter.above host below patience).Sound checked host where
  parts := by
    refine .above sound.parts ?_ ?_ (calling_soundness host.maxCallDepth) id
      (fun _ _ => ⟨sound.parts, id⟩) ?_ ?_ fun _ => .inl rfl
    · rintro expr _ ⟨wellFormed, rfl⟩
      refine ⟨rfl, exprForms_self mirrors_soundness (ExprForm.keeps_checked fun isChecked => ?_)
        fun _ _ => trivial⟩
      exact Expr.wellFormed_iff.mp (wellFormed isChecked)
    · rintro inLoop statement _ ⟨wellFormed, rfl⟩
      refine ⟨rfl, statementForms_self mirrors_soundness
        (StatementForm.keeps_checked fun isChecked => ?_) (fun _ => trivial) fun _ _ _ => trivial⟩
      exact Statement.wellFormed_iff.mp (wellFormed isChecked)
    · rintro definition _ ⟨wellFormed, rfl⟩
      exact made_soundness wellFormed
    · rintro name span _ _ ⟨⟩ store _ ⟨rfl, defined, _⟩
      have stores : (soundness checked).Stores () store store := ⟨rfl, defined, trivial⟩
      refine Evaluate.outcomes_importLibrary host (optionRel_self fun _ _ => rfl) rfl stores rfl
        fun _ _ => ?_
      have loading := loading_soundness name stores
      exact Evaluate.outcomes_of_loads loading (Evaluate.loads_load host loading
        (fun library _ => sound.libraries name library) rfl)
  libraries name library found context context' blocks :=
    Evaluate.corresponds_program sound.parts blocks
      (fun _ _ related => congrArg Statement.span related.2)
      (statements_soundness fun isChecked => libraries isChecked name library found)

/-- The interpreter is sound with every budget. -/
theorem interpreter_sound (budget : Nat) : (interpreter host budget).Sound checked host := by
  induction budget with
  | zero => exact Interpreter.sound_exhausted host
  | succ budget ih =>
    rw [interpreter_succ]
    exact ih.above libraries budget

end

/-- What corresponds to itself is sound. -/
theorem Run.Corresponds.sound {α : Type} {values : α → α → Prop} {post : α → Prop}
    {computation : Run α}
    (corresponds : (soundness checked).Runs () values computation computation)
    (allowed : ∀ value value', values value value' → post value) :
    Run.Sound checked post computation := by
  intro store holds
  have outcomes := corresponds store store ⟨rfl, Store.defined_iff.mpr holds, trivial⟩
  match computation store, outcomes with
  | .ok _ _, .ok stores related => exact ⟨Store.defined_iff.mp stores.defined, allowed _ _ related⟩
  | .error (.error _) _, .failed stores errors =>
    exact ⟨Store.defined_iff.mp stores.defined, errors.located⟩
  | .error .outOfFuel _, .exhausted stores _ => exact Store.defined_iff.mp stores.defined

end PatchScript
