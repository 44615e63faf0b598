import PatchScript.Proofs.Evaluate.Boundaries

/-!
# Runs in a single phase

Often it makes no difference to a correspondence how deep calls are nested and which
libraries are being loaded, as long as it is the same on both sides.  Then calls and
libraries stay in the phase they are entered from, and interpreters evaluate alike with
every budget.
-/

namespace PatchScript

open Correspondence
open Run (Corresponds)

namespace Correspondence

variable (rel : Correspondence) (phase : rel.Phase) (parts : Parts)

/-- A phase that is not left by calls and by the loading of libraries. -/
structure Uniform : Prop where
  depth {store store' : Store} : rel.Stores phase store store' → store.callDepth = store'.callDepth
  loading {store store' : Store} : rel.Stores phase store store' → store.loading = store'.loading
  imports {store store' : Store} :
    rel.Stores phase store store' → store.imports.Matches rel.Objects store'.imports
  /-- What is loaded and loading and how deep calls are can be anything. -/
  resume {store store' : Store} {imports imports' : OrderedMap ObjectRef}
    {loading loading' : List String} {depth depth' : Nat} :
    rel.Stores phase store store' → imports.Matches rel.Objects imports' →
    loading = loading' → depth = depth' →
    rel.Stores phase
      { store with imports := imports, loading := loading, callDepth := depth }
      { store' with imports := imports', loading := loading', callDepth := depth' }

/-- Parts whose own parts correspond in the same sense. -/
structure Throughout : Prop where
  exprs : ∀ expr expr', parts.Exprs expr expr' →
    rel.Spans expr.span expr'.span ∧ rel.ExprForms parts expr.form expr'.form
  statements : ∀ inLoop statement statement', parts.Statements inLoop statement statement' →
    rel.Spans statement.span statement'.span ∧
      rel.StatementForms parts inLoop statement.form statement'.form
  made : ∀ definition definition', rel.Definitions definition definition' →
    Made parts definition definition'
  self : ∀ statement, parts.Statements false statement statement

/-- Interpreters that evaluate alike what corresponds, and run libraries alike. -/
structure Alike (below below' : Interpreter) : Prop where
  parts : rel.Interpreters phase parts below below'
  libraries : ∀ name library, rel.RunsLibrary phase phase name library below below'

variable {rel phase parts}

namespace Uniform

variable (uniform : rel.Uniform phase)

include uniform

theorem calling (limit : Nat) : rel.Calling limit phase fun inner => inner = phase where
  depth stores := uniform.depth stores
  enter stores _ := by
    have resumed {store store' : Store} (stores : rel.Stores phase store store')
        {depth depth' : Nat} (same : depth = depth') :
        rel.Stores phase { store with callDepth := depth }
          { store' with callDepth := depth' } :=
      uniform.resume stores (uniform.imports stores) (uniform.loading stores) same
    refine ⟨phase, rfl, resumed stores ?_, fun after after' inner => resumed inner ?_⟩
    · rw [uniform.depth stores]
    · rw [uniform.depth inner]

theorem loadingPhases (name : String) {store store' : Store}
    (stores : rel.Stores phase store store') :
    rel.Loading name phase phase phase store store' where
  enter :=
    uniform.resume stores (uniform.imports stores) (congrArg (· ++ [name]) (uniform.loading stores))
      (uniform.depth stores)
  settle := id
  leave after :=
    uniform.resume after (uniform.imports after) (congrArg List.dropLast (uniform.loading after))
      (uniform.depth after)
  finish {after after' _ _} ended objects := by
    have resumed := uniform.resume ended ((uniform.imports ended).insert name objects)
      (congrArg List.dropLast (uniform.loading ended)) (uniform.depth ended)
    exact resumed

end Uniform

/-! ## Interpreters -/

variable [lawful : rel.Lawful] (uniform : rel.Uniform phase) (throughout : rel.Throughout parts)

include uniform

theorem Alike.importLibrary {below below' : Interpreter}
    (alike : rel.Alike phase parts below below') (host : Host) (name : String)
    {span span' : Span} (spans : rel.Spans span span') :
    rel.Runs phase rel.Values
      (Evaluate.importLibrary host below name span)
      (Evaluate.importLibrary host below' name span') := by
  intro store store' stores
  have phases := uniform.loadingPhases name stores
  refine Evaluate.outcomes_importLibrary host ((uniform.imports stores).get? name)
    (uniform.loading stores) stores spans fun _ _ => ?_
  exact Evaluate.outcomes_of_loads phases
    (Evaluate.loads_load host phases (fun library _ _ => alike.libraries name library) spans)

include throughout

/-- Interpreters above others that evaluate parts alike evaluate alike. -/
theorem Alike.above {below below' : Interpreter} (alike : rel.Alike phase parts below below')
    (unguarded : ¬ rel.Guarded phase) (host : Host) {patience patience' : Nat}
    (patient : rel.Patient patience patience') :
    rel.Alike phase parts (.above host below patience) (.above host below' patience') where
  parts := by
    refine .above alike.parts throughout.exprs throughout.statements
      (uniform.calling host.maxCallDepth) unguarded ?_ throughout.made ?_ fun _ => patient
    · rintro _ rfl
      exact ⟨alike.parts, unguarded⟩
    · exact fun name _ _ _ spans => alike.importLibrary uniform host name spans
  libraries _ library _ _ blocks :=
    Evaluate.corresponds_program alike.parts blocks
      (fun _ _ related => (throughout.statements false _ _ related).1)
      (forall₂_self fun statement _ => throughout.self statement)

/-- An interpreter evaluates alike what corresponds, with every budget. -/
theorem alike_interpreter (exhausts : rel.exhausts) (unguarded : ¬ rel.Guarded phase) (host : Host)
    (budget : Nat) :
    rel.Alike phase parts (interpreter host budget) (interpreter host budget) := by
  induction budget with
  | zero =>
    exact ⟨interpreters_exhausted exhausts, fun _ _ _ _ _ _ _ stores => .exhausted stores exhausts⟩
  | succ budget ih =>
    rw [interpreter_succ]
    exact ih.above uniform throughout unguarded host (.inl rfl)

omit lawful uniform throughout in
/-- Where every definition corresponds to itself, so does all syntax, throughout. -/
theorem throughout_same (spans : ∀ span, rel.Spans span span)
    (definitions : ∀ definition definition', rel.Definitions definition definition' ↔
      definition = definition')
    (unchecked : ¬ rel.checked)
    (exhausts : rel.exhausts) :
    rel.Throughout .same where
  exprs := by
    rintro expr _ ⟨⟩
    exact ⟨spans _, exprForms_self (mirrors_lax spans (fun _ => (definitions _ _).mpr rfl) unchecked)
      expr.form.keeps_lax fun _ _ => trivial⟩
  statements := by
    rintro inLoop statement _ ⟨⟩
    exact ⟨spans _,
      statementForms_self (mirrors_lax spans (fun _ => (definitions _ _).mpr rfl) unchecked)
        (statement.form.keeps_lax inLoop) (fun _ => exhausts) fun _ _ _ => trivial⟩
  made definition _ same := by
    rw [← (definitions _ _).mp same]
    exact made_same definition
  self _ := rfl

end Correspondence
end PatchScript
