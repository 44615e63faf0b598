import PatchScript.Proofs.Evaluate.Uniform
import PatchScript.Proofs.Grammar.Pairing
import PatchScript.Proofs.Run.Reflexive

/-!
# The same syntax at other places

Places in the syntax go into errors, into the log and into the definitions of functions,
and nothing that a program computes depends on them.  So two runs of the same syntax at
other places go side by side, handle by handle.
-/

namespace PatchScript

open Correspondence

/-- A function without the places in its definition. -/
def Callable.unplaced : Callable → Callable
  | .script definition captured => .script definition.unplaced captured
  | other => other

/-- Two stores are the same up to the places in functions and in the log. -/
structure Store.SameUpToPlaces (store store' : Store) : Prop where
  objects : store.objects = store'.objects
  arrays : store.arrays = store'.arrays
  functions : store.functions.map Callable.unplaced = store'.functions.map Callable.unplaced
  frames : store.frames = store'.frames
  imports : store.imports = store'.imports
  loading : store.loading = store'.loading
  callDepth : store.callDepth = store'.callDepth
  log : store.log.map LogEntry.text = store'.log.map LogEntry.text

namespace Correspondence

/-- Handles stand for themselves, places for any places. -/
def placeless : Correspondence :=
  identity (fun (_ : Unit) => Store.SameUpToPlaces)
    (fun definition definition' => definition.unplaced = definition'.unplaced) (fun _ _ => True)
    False True

/-- Parts that are the same up to places. -/
def Parts.unplaced : Parts where
  Exprs expr expr' := expr.unplaced = expr'.unplaced
  Statements _ := Statement.Same
  Imports _ := True

/-! ## Stores -/

theorem placeless_callables_iff {callable callable' : Callable} :
    placeless.Callables callable callable' ↔ callable.unplaced = callable'.unplaced := by
  constructor
  · rintro (⟨definitions, contexts⟩ | _ | ⟨_, receivers⟩)
    · change Callable.script _ _ = Callable.script _ _
      cases contexts with
      | none => rw [definitions]
      | some contexts => rw [definitions, identity_contexts_iff.mp contexts]
    · rfl
    · rw [identity_values_iff.mp receivers]
  · intro same
    match callable, callable', same with
    | .script _ captured, .script _ _, same =>
      injection same with definitions sameCaptured
      cases sameCaptured
      exact .script definitions (optionRel_self fun _ _ => identity_contexts_iff.mpr rfl)
    | .native function, .native _, rfl => exact .native function
    | .bound _ function, .bound _ _, rfl => exact .bound function (identity_values_iff.mpr rfl)

theorem contents_placeless {store store' : Store} (same : store.SameUpToPlaces store') :
    placeless.Contents store store' where
  object refs := by
    rw [refs, Store.object, Store.object, same.objects]
    exact identity_members_iff.mpr rfl
  array refs := by
    rw [refs, Store.array, Store.array, same.arrays]
    exact identity_items_iff.mpr rfl
  function {ref _} refs := by
    have found := congrArg (·[ref.index]?) same.functions
    simp only [Array.getElem?_map] at found
    rw [← refs, Store.function, Store.function]
    generalize store.functions[ref.index]? = callable,
      store'.functions[ref.index]? = callable' at found
    cases callable with
    | none =>
      cases Option.map_eq_none_iff.mp found.symm
      exact .none
    | some callable =>
      obtain ⟨_, rfl, unplaced⟩ := Option.map_eq_some_iff.mp found.symm
      exact .some (placeless_callables_iff.mpr unplaced.symm)
  frame refs := by
    rw [refs, same.frames]
    exact identity_bindings _

theorem FunctionDef.name_eq_of_unplaced {definition definition' : FunctionDef}
    (same : definition.unplaced = definition'.unplaced) : definition.name = definition'.name := by
  obtain ⟨_, _, _, _⟩ := definition
  obtain ⟨_, _, _, _⟩ := definition'
  injection same

instance : placeless.Lawful where
  object same := (contents_placeless same).object
  array same := (contents_placeless same).array
  function same := (contents_placeless same).function
  frame same := (contents_placeless same).frame
  equal same := (contents_placeless same).equal_eq oneToOne_identity
  displayText same :=
    (contents_placeless same).displayText_eq fun _ _ => FunctionDef.name_eq_of_unplaced
  toJson same := (contents_placeless same).toJson_eq fun _ _ => FunctionDef.name_eq_of_unplaced
  addObject {_ _ _ _ contents'} same members := by
    rw [identity_members_iff.mp members]
    exact ⟨congrArg ObjectRef.mk (congrArg Array.size same.objects),
      { same with objects := congrArg (·.push contents') same.objects }⟩
  addArray {_ _ _ _ contents'} same items := by
    rw [identity_items_iff.mp items]
    exact ⟨congrArg ArrayRef.mk (congrArg Array.size same.arrays),
      { same with arrays := congrArg (·.push contents') same.arrays }⟩
  addFunction {_ store store' _ _} same callables _ := by
    have size : store.functions.size = store'.functions.size := by
      simpa using congrArg Array.size same.functions
    refine ⟨congrArg FunctionRef.mk size, { same with functions := ?_ }⟩
    simp only [Store.addFunction, Array.map_push, same.functions,
      placeless_callables_iff.mp callables]
  addFrame same :=
    have refs := congrArg Frames.nextRef same.frames
    ⟨refs, refs, { same with frames := congrArg Frames.push same.frames }⟩
  modifyObject {_ _ _ _ ref' change change'} same refs changes _ := by
    have sameChange : change = change' :=
      funext fun _ => identity_members_iff.mp (changes _ _ (identity_members_iff.mpr rfl))
    rw [refs, sameChange]
    exact { same with objects := congrArg (·.modify ref'.index change') same.objects }
  modifyArray {_ _ _ _ ref' change change'} same refs changes := by
    have sameChange : change = change' :=
      funext fun _ => identity_items_iff.mp (changes _ _ (identity_items_iff.mpr rfl))
    rw [refs, sameChange]
    exact { same with arrays := congrArg (·.modify ref'.index change') same.arrays }
  changeFrames {_ _ _ _ change'} same changes := by
    rw [changes.eq]
    exact { same with frames := congrArg (·.commit change') same.frames }
  log text same _ := by
    refine { same with log := ?_ }
    simp only [Array.map_push, same.log]

theorem uniform_placeless : placeless.Uniform () where
  depth same := same.callDepth
  loading same := same.loading
  imports same := OrderedMap.matches_eq_iff.mpr same.imports
  resume same imports loading depth :=
    { same with
      imports := OrderedMap.matches_eq_iff.mp imports
      loading := loading
      callDepth := depth }

/-! ## Syntax -/

section Lists

variable {α β : Type} {observe : α → β}

theorem forall₂_of_map_eq {items items' : List α} (same : items.map observe = items'.map observe) :
    List.Forall₂ (fun item item' => observe item = observe item') items items' := by
  rw [← List.forall₂_eq_eq_eq, List.forall₂_map_left_iff, List.forall₂_map_right_iff] at same
  exact same

end Lists

theorem exprs_of_unplacedList {exprs exprs' : List Expr}
    (same : Expr.unplacedList exprs = Expr.unplacedList exprs') :
    List.Forall₂ Parts.unplaced.Exprs exprs exprs' := by
  rw [Expr.unplacedList_eq_map, Expr.unplacedList_eq_map] at same
  exact forall₂_of_map_eq same

theorem entries_of_unplacedEntries {entries entries' : List (String × Expr)}
    (same : Expr.unplacedEntries entries = Expr.unplacedEntries entries') :
    List.Forall₂ (fun entry entry' => entry.1 = entry'.1 ∧ Parts.unplaced.Exprs entry.2 entry'.2)
      entries entries' := by
  rw [Expr.unplacedEntries_eq_map, Expr.unplacedEntries_eq_map] at same
  exact List.Forall₂.imp (fun _ _ same => Prod.mk.inj same) (forall₂_of_map_eq same)

theorem option_of_unplacedOption {option option' : Option Expr}
    (same : Expr.unplacedOption option = Expr.unplacedOption option') :
    Option.Rel Parts.unplaced.Exprs option option' := by
  cases option <;> cases option' <;> simp only [Expr.unplacedOption] at same
  case none.none => exact .none
  case some.some => exact .some (Option.some.inj same)
  all_goals cases same

theorem statements_of_unplacedList {statements statements' : List Statement}
    (same : Statement.unplacedList statements = Statement.unplacedList statements')
    (inLoop : Bool) : List.Forall₂ (Parts.unplaced.Statements inLoop) statements statements' := by
  rw [Statement.unplacedList_eq_map, Statement.unplacedList_eq_map] at same
  exact forall₂_of_map_eq same

theorem option_of_unplacedStatement {option option' : Option Statement}
    (same : Statement.unplacedOption option = Statement.unplacedOption option') (inLoop : Bool) :
    Option.Rel (Parts.unplaced.Statements inLoop) option option' := by
  cases option <;> cases option' <;> simp only [Statement.unplacedOption] at same
  case none.none => exact .none
  case some.some => exact .some (Option.some.inj same)
  all_goals cases same

theorem referenceForms_of_unplaced {form form' : ReferenceForm}
    (same : form.unplaced = form'.unplaced) : ReferenceForms .unplaced form form' := by
  match form, form', same with
  | .variable name, .variable _, rfl => exact .named name
  | .bare name, .bare _, rfl => exact .bare name
  | .property _ name, .property _ _, same =>
    injection same with targets sameName
    cases sameName
    exact .property name targets
  | .index _ _, .index _ _, same =>
    injection same with targets keys
    exact .index targets keys

theorem references_of_unplaced {reference reference' : Reference}
    (same : reference.unplaced = reference'.unplaced) :
    placeless.References .unplaced reference reference' := by
  obtain ⟨span, form⟩ := reference
  obtain ⟨span', form'⟩ := reference'
  injection same with _ forms
  exact ⟨trivial, referenceForms_of_unplaced forms⟩

theorem exprForms_of_unplaced {form form' : ExprForm} (same : form.unplaced = form'.unplaced) :
    placeless.ExprForms .unplaced form form' := by
  match form, form', same with
  | .literal value, .literal _, rfl => exact .literal value
  | .reference _, .reference _, same =>
    injection same with targets
    exact .reference (references_of_unplaced targets)
  | .root, .root, _ => exact .root
  | .array _, .array _, same =>
    injection same with items
    exact .array (exprs_of_unplacedList items)
  | .object _, .object _, same =>
    injection same with entries
    exact .object (entries_of_unplacedEntries entries)
  | .unary op _, .unary _ _, same =>
    injection same with ops operands
    cases ops
    exact .unary op operands
  | .binary op _ _, .binary _ _ _, same =>
    injection same with ops lefts rights
    cases ops
    exact .binary op lefts rights
  | .logical op _ _, .logical _ _ _, same =>
    injection same with ops lefts rights
    cases ops
    exact .logical op lefts rights
  | .assign _ op _, .assign _ _ _, same =>
    injection same with targets ops values
    cases ops
    exact .assign op (references_of_unplaced targets) values
  | .update _ increment yieldsNew, .update _ _ _, same =>
    injection same with targets increments yields
    cases increments
    cases yields
    exact .update increment yieldsNew (references_of_unplaced targets)
  | .call _ _, .call _ _, same =>
    injection same with callees arguments
    exact .call callees (exprs_of_unplacedList arguments)
  | .function _, .function _, same =>
    injection same with definitions
    exact .function definitions
  | .hasKind _ kind, .hasKind _ _, same =>
    injection same with values kinds
    cases kinds
    exact .hasKind kind values
  | .library name, .library _, rfl => exact .library name trivial

theorem statementForms_of_unplaced {form form' : StatementForm}
    (same : form.unplaced = form'.unplaced) (inLoop : Bool) :
    placeless.StatementForms .unplaced inLoop form form' := by
  match form, form', same with
  | .block _, .block _, same =>
    injection same with bodies
    exact .block (statements_of_unplacedList bodies inLoop)
  | .expression _, .expression _, same =>
    injection same with values
    exact .expression values
  | .conditional _ _ _, .conditional _ _ _, same =>
    injection same with tests positives negatives
    exact .conditional tests positives (option_of_unplacedStatement negatives inLoop)
  | .whileLoop _ _, .whileLoop _ _, same =>
    injection same with tests bodies
    exact .whileLoop trivial tests bodies
  | .forLoop _ _ _ _, .forLoop _ _ _ _, same =>
    injection same with inits tests steps bodies
    exact .forLoop trivial (option_of_unplacedStatement inits inLoop)
      (option_of_unplacedOption tests) (option_of_unplacedOption steps) bodies
  | .foreach name _ _, .foreach _ _ _, same =>
    injection same with names iterables bodies
    cases names
    exact .foreach name iterables trivial bodies
  | .declare name isMutable _, .declare _ _ _, same =>
    injection same with names mutables values
    cases names
    cases mutables
    exact .declare name isMutable values
  | .delete _, .delete _, same =>
    injection same with targets
    exact .delete (references_of_unplaced targets)
  | .returnValue _, .returnValue _, same =>
    injection same with values
    exact .returnValue (option_of_unplacedOption values)
  | .breakLoop, .breakLoop, _ => exact .breakLoop False.elim
  | .continueLoop, .continueLoop, _ => exact .continueLoop False.elim
  | .declareFunction _, .declareFunction _, same =>
    injection same with definitions
    exact .declareFunction False.elim (FunctionDef.name_eq_of_unplaced definitions) definitions
  | .importLibrary library binding, .importLibrary _ _, rfl =>
    exact .importLibrary library binding trivial
  | .apply _ _, .apply _ _, same =>
    injection same with targets actions
    exact .apply targets trivial actions
  | .unparsed message, .unparsed _, rfl => exact .unparsed message id
  | .noOp, .noOp, _ => exact .noOp

theorem made_of_unplaced {definition definition' : FunctionDef}
    (same : definition.unplaced = definition'.unplaced) :
    Made .unplaced definition definition' := by
  obtain ⟨name, parameters, body, span⟩ := definition
  obtain ⟨_, _, body', span'⟩ := definition'
  injection same with names sameParameters bodies
  refine ⟨names, sameParameters, ?_⟩
  change Bodies _ body body'
  match body, body', bodies with
  | .block _, .block _, bodies =>
    injection bodies with bodies
    exact .block (statements_of_unplacedList bodies false)
  | .expression _, .expression _, bodies =>
    injection bodies with values
    exact .expression values

theorem throughout_placeless : placeless.Throughout .unplaced where
  exprs _ _ same := ⟨trivial, exprForms_of_unplaced (Expr.unplaced_eq_iff.mp same)⟩
  statements inLoop statement statement' same := by
    obtain ⟨span, form⟩ := statement
    obtain ⟨span', form'⟩ := statement'
    injection same with _ forms
    exact ⟨trivial, statementForms_of_unplaced forms inLoop⟩
  made _ _ := made_of_unplaced
  self _ := rfl

end Correspondence
end PatchScript
