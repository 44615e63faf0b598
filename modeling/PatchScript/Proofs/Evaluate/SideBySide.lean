import PatchScript.Proofs.Evaluate.Primitives
import PatchScript.Proofs.Evaluate.Related

/-!
# Expressions and statements side by side

The rules of the language, on corresponding syntax in corresponding contexts: if the
parts are evaluated alike, so is what they are parts of.
-/

namespace PatchScript

open Correspondence
open Run (Corresponds)

/-- How many turns loops may take: equally many, or fewer in a run that may be stopped. -/
def Correspondence.Patient (rel : Correspondence) (patience patience' : Nat) : Prop :=
  patience = patience' ∨ (∃ phase, rel.Guarded phase) ∧ patience ≤ patience'

/-- Interpreters that evaluate alike, in a phase, what corresponds. -/
structure Correspondence.Interpreters (rel : Correspondence) (phase : rel.Phase)
    (parts : Parts) (below below' : Interpreter) : Prop where
  evaluate {context context' : Context} {expr expr' : Expr} :
    rel.Contexts context context' → parts.Exprs expr expr' →
    rel.Runs phase rel.Values (below.evaluate context expr) (below'.evaluate context' expr')
  execute {inLoop : Bool} {context context' : Context} {statement statement' : Statement} :
    rel.Blocks context context' → parts.Statements inLoop statement statement' →
    rel.Runs phase (rel.Signals inLoop)
      (below.execute context statement) (below'.execute context' statement')
  call {function function' : Value} {arguments arguments' : List Value} {span span' : Span} :
    rel.Values function function' → List.Forall₂ rel.Values arguments arguments' →
    rel.Spans span span' →
    rel.Runs phase rel.Values (below.call function arguments span)
      (below'.call function' arguments' span')
  importLibrary {name : String} {span span' : Span} :
    parts.Imports name → rel.Spans span span' →
    rel.Runs phase rel.Values (below.importLibrary name span) (below'.importLibrary name span')
  patience : rel.exhausts → rel.Patient below.patience below'.patience

variable {rel : Correspondence} {phase : rel.Phase} {parts : Parts} {below below' : Interpreter}

theorem Correspondence.interpreters_exhausted (exhausts : rel.exhausts) :
    rel.Interpreters phase parts .exhausted .exhausted where
  evaluate _ _ := .outOfFuel exhausts
  execute _ _ := .outOfFuel exhausts
  call _ _ _ := .outOfFuel exhausts
  importLibrary _ _ := .outOfFuel exhausts
  patience _ := .inl rfl

variable (alike : rel.Interpreters phase parts below below')

include alike

/-- The parts of corresponding references are evaluated alike. -/
theorem Place.corresponds_resolve {context context' : Context}
    (contexts : rel.Contexts context context') {reference reference' : Reference}
    (references : rel.References parts reference reference') :
    rel.Runs phase rel.Places
      (resolve below context reference) (resolve below' context' reference') := by
  have forms := references.form
  unfold resolve
  generalize reference.form = form, reference'.form = form' at forms
  cases forms with
  | named name => exact .pure (.named name)
  | bare name => exact .pure (.bare name)
  | property name targets =>
    exact (alike.evaluate contexts targets).bind fun _ _ containers =>
      .pure (.property name containers)
  | index targets keys =>
    refine (alike.evaluate contexts targets).bind fun _ _ containers => ?_
    exact (alike.evaluate contexts keys).bind fun _ _ keys => .pure (.index containers keys)

namespace Evaluate

variable {inLoop : Bool} {span span' : Span}

/-! ## Expressions -/

section Expressions

variable {context context' : Context} (contexts : rel.Contexts context context')
variable {expr expr' : Expr} {target target' : Reference}

include contexts

theorem corresponds_expressions {exprs exprs' : List Expr}
    (related : List.Forall₂ parts.Exprs exprs exprs') :
    rel.Runs phase (List.Forall₂ rel.Values)
      (expressions below context exprs) (expressions below' context' exprs') :=
  Corresponds.mapM related fun _ _ => alike.evaluate contexts

theorem corresponds_entries {exprs exprs' : List (String × Expr)}
    (related : List.Forall₂ (fun entry entry' =>
      entry.1 = entry'.1 ∧ parts.Exprs entry.2 entry'.2) exprs exprs')
    {built built' : OrderedMap Value}
    (members : rel.Members built built') :
    rel.Runs phase rel.Members
      (entries below context exprs built) (entries below' context' exprs' built') := by
  induction related generalizing built built' with
  | nil => exact .pure members
  | @cons entry entry' _ _ first _ ih =>
    obtain ⟨key, expr⟩ := entry
    obtain ⟨key', expr'⟩ := entry'
    obtain ⟨same, exprs⟩ := first
    cases same
    exact (alike.evaluate contexts exprs).bind fun _ _ values => ih (members.insert key values)

variable [lawful : rel.Lawful]

theorem corresponds_condition (exprs : parts.Exprs expr expr') :
    rel.Runs phase Eq (condition below context expr) (condition below' context' expr') :=
  (alike.evaluate contexts exprs).bind fun _ _ values => corresponds_isTruthy values

omit alike in
theorem corresponds_closure {errors : EvalError → EvalError → Prop}
    {definition definition' : FunctionDef}
    (definitions : rel.Definitions definition definition') :
    Corresponds rel phase errors rel.Values (closure context definition)
      (closure context' definition') :=
  corresponds_newFunction (.script definitions (.some contexts)) rfl

theorem corresponds_assignedValue {place place' : Place} (places : rel.Places place place')
    (targets : rel.Spans target.span target'.span) (op : Option BinaryOp)
    (exprs : parts.Exprs expr expr') (spans : rel.Spans span span') :
    rel.Runs phase rel.Values
      (assignedValue below context place target op expr span)
      (assignedValue below' context' place' target' op expr' span') := by
  cases op with
  | none => exact alike.evaluate contexts exprs
  | some op =>
    refine (Place.corresponds_get places contexts).orAt targets |>.bind fun _ _ olds => ?_
    refine (alike.evaluate contexts exprs).bind fun _ _ operands => ?_
    exact (Operator.corresponds_binary olds operands op).orAt spans

theorem corresponds_assign (targets : rel.References parts target target')
    (op : Option BinaryOp) (exprs : parts.Exprs expr expr') (spans : rel.Spans span span') :
    rel.Runs phase rel.Values
      (assign below context target op expr span)
      (assign below' context' target' op expr' span') := by
  refine (Place.corresponds_resolve alike contexts targets).bind fun _ _ places => ?_
  refine (corresponds_assignedValue alike contexts places targets.span op exprs spans).bind
    fun _ _ values => ?_
  refine (Place.corresponds_set places contexts values).orAt targets.span |>.bind fun _ _ _ => ?_
  exact .pure values

omit alike in
theorem corresponds_numberAt {place place' : Place} (places : rel.Places place place') :
    Corresponds rel phase rel.BareErrors Eq (numberAt context place)
      (numberAt context' place') := by
  refine (Place.corresponds_get places contexts).bind fun _ value' values => ?_
  rw [values.asNumber_eq]
  exact .lift (reports_asNumber value').results

theorem corresponds_update (targets : rel.References parts target target')
    (increment yieldsNew : Bool) :
    rel.Runs phase rel.Values
      (update below context target increment yieldsNew)
      (update below' context' target' increment yieldsNew) := by
  refine (Place.corresponds_resolve alike contexts targets).bind fun _ _ places => ?_
  refine (corresponds_numberAt contexts places).orAt targets.span |>.bind fun old _ same => ?_
  subst same
  refine (Place.corresponds_set places contexts (.number _)).orAt targets.span |>.bind
    fun _ _ _ => ?_
  exact .pure (.number _)

/-- Corresponding expressions are evaluated alike. -/
theorem corresponds_expression (spans : rel.Spans expr.span expr'.span)
    (forms : rel.ExprForms parts expr.form expr'.form) :
    rel.Runs phase rel.Values (expression below context expr)
      (expression below' context' expr') := by
  unfold expression
  generalize expr.form = form, expr'.form = form' at forms
  cases forms with
  | literal value => exact .pure (values_ofLiteral value)
  | reference targets =>
    refine (Place.corresponds_resolve alike contexts targets).bind fun _ _ places => ?_
    exact (Place.corresponds_get places contexts).orAt targets.span
  | root => exact .pure (.object contexts.root)
  | array items =>
    exact (corresponds_expressions alike contexts items).bind fun _ _ values =>
      corresponds_newArray (items_toArray values)
  | object members =>
    refine (corresponds_entries alike contexts members OrderedMap.matches_empty).bind
      fun _ _ built => ?_
    exact (corresponds_newObject built).bind fun _ _ objects => .pure (.object objects)
  | unary op operands =>
    refine (alike.evaluate contexts operands).bind fun _ _ values => ?_
    refine Corresponds.read.bind fun _ _ stores => ?_
    exact (Corresponds.lift (Operator.results_unary stores op values)).orAt spans
  | binary op lefts rights =>
    refine (alike.evaluate contexts lefts).bind fun _ _ first => ?_
    refine (alike.evaluate contexts rights).bind fun _ _ second => ?_
    exact (Operator.corresponds_binary first second op).orAt spans
  | logical op lefts rights =>
    have left := corresponds_condition alike contexts lefts
    have right := corresponds_condition alike contexts rights
    cases op with
    | and | or =>
      refine left.bindSame fun holds => ?_
      refine .ite Iff.rfl (fun _ => ?_) fun _ => ?_
      all_goals
        first
        | exact .pure (.boolean _)
        | exact right.bind fun _ _ same => .pure (same ▸ .boolean _)
  | assign op targets values => exact corresponds_assign alike contexts targets op values spans
  | update increment yieldsNew targets =>
    exact corresponds_update alike contexts targets increment yieldsNew
  | call callees arguments =>
    refine (alike.evaluate contexts callees).bind fun _ _ functions => ?_
    refine (corresponds_expressions alike contexts arguments).bind fun _ _ values => ?_
    exact alike.call functions values spans
  | function definitions => exact corresponds_closure contexts definitions
  | hasKind kind values =>
    refine (alike.evaluate contexts values).bind fun _ _ found => ?_
    rw [found.kind_eq]
    exact .pure (.boolean _)
  | library name imports => exact alike.importLibrary imports spans

end Expressions

/-! ## Loops -/

omit alike in
theorem corresponds_turns {turn turn' : Run (Option Signal)} (exhausts : rel.exhausts)
    (each : rel.Runs phase (Option.Rel (rel.Signals inLoop)) turn turn')
    {patience patience' : Nat} (patient : rel.Patient patience patience') :
    rel.Runs phase (rel.Signals inLoop) (turns turn patience) (turns turn' patience') := by
  induction patience generalizing patience' with
  | zero =>
    obtain rfl | ⟨⟨_, guarded⟩, _⟩ := patient
    · exact .outOfFuel exhausts
    · exact fun _ _ stores => .stopped stores guarded
  | succ patience ih =>
    have more : patience + 1 ≤ patience' := patient.elim Eq.le And.right
    obtain ⟨fewer, rfl⟩ := Nat.exists_eq_add_one.mpr (Nat.zero_lt_of_lt more)
    refine each.bind fun _ _ ended => ?_
    cases ended with
    | some signals => exact .pure signals
    | none => exact ih (patient.imp Nat.succ.inj (And.imp_right Nat.le_of_succ_le_succ))

section Blocks

variable {context context' : Context} (blocks : rel.Blocks context context')
variable {step step' : Option Expr} {body body' : Statement}

include blocks

theorem corresponds_statements {body body' : List Statement}
    (related : List.Forall₂ (parts.Statements inLoop) body body') :
    rel.Runs phase (rel.Signals inLoop)
      (statements below context body) (statements below' context' body') := by
  induction related with
  | nil => exact .pure .normal
  | cons first _ ih =>
    refine (alike.execute blocks first).bind fun _ _ signals => ?_
    cases signals with
    | normal => exact ih
    | breakLoop inside => exact .pure (.breakLoop inside)
    | continueLoop inside => exact .pure (.continueLoop inside)
    | returned values => exact .pure (.returned values)

theorem corresponds_optionally {expr expr' : Option Expr}
    (exprs : Option.Rel parts.Exprs expr expr') :
    rel.Runs phase (fun _ _ => True)
      (optionally below context expr) (optionally below' context' expr') := by
  cases exprs with
  | none => exact .pure trivial
  | some exprs => exact (alike.evaluate blocks.toContexts exprs).bind fun _ _ _ => .pure trivial

/-- A turn of a counting loop after its test. -/
theorem corresponds_testedTurn (inLoop holds : Bool) (steps : Option.Rel parts.Exprs step step')
    (bodies : parts.Statements true body body') :
    rel.Runs phase (Option.Rel (rel.Signals inLoop))
      (if holds then do
        match (← below.execute context body).afterBody with
        | some signal => return some signal
        | none =>
          optionally below context step
          return none
      else return some .normal)
      (if holds then do
        match (← below'.execute context' body').afterBody with
        | some signal => return some signal
        | none =>
          optionally below' context' step'
          return none
      else return some .normal) := by
  refine .ite Iff.rfl (fun _ => ?_) fun _ => .pure (.some .normal)
  refine (alike.execute blocks bodies).bind fun signal signal' signals => ?_
  have ended := signals.afterBody inLoop
  generalize signal.afterBody = after, signal'.afterBody = after' at ended
  cases ended with
  | some signals => exact .pure (.some signals)
  | none => exact (corresponds_optionally alike blocks steps).bind fun _ _ _ => .pure .none

variable [lawful : rel.Lawful]

theorem corresponds_whileTurn (inLoop : Bool) {test test' : Expr} (tests : parts.Exprs test test')
    (bodies : parts.Statements true body body') :
    rel.Runs phase (Option.Rel (rel.Signals inLoop))
      (whileTurn below context test body) (whileTurn below' context' test' body') := by
  refine (corresponds_condition alike blocks.toContexts tests).bindSame fun holds => ?_
  refine .ite Iff.rfl (fun _ => ?_) fun _ => ?_
  · exact (alike.execute blocks bodies).bind fun _ _ signals => .pure (signals.afterBody inLoop)
  · exact .pure (.some .normal)

theorem corresponds_forTurn (inLoop : Bool) {test test' : Option Expr}
    (tests : Option.Rel parts.Exprs test test') (steps : Option.Rel parts.Exprs step step')
    (bodies : parts.Statements true body body') :
    rel.Runs phase (Option.Rel (rel.Signals inLoop))
      (forTurn below context test step body) (forTurn below' context' test' step' body') := by
  cases tests with
  | some tests =>
    refine (corresponds_condition alike blocks.toContexts tests).bindSame fun holds => ?_
    exact corresponds_testedTurn alike blocks inLoop holds steps bodies
  | none => exact corresponds_testedTurn alike blocks inLoop true steps bodies

omit blocks in
theorem corresponds_forLoop (contexts : rel.Contexts context context')
    (exhausts : rel.exhausts) {init init' : Option Statement}
    (inits : Option.Rel (parts.Statements inLoop) init init') {test test' : Option Expr}
    (tests : Option.Rel parts.Exprs test test') (steps : Option.Rel parts.Exprs step step')
    (bodies : parts.Statements true body body') :
    rel.Runs phase (rel.Signals inLoop)
      (forLoop below context init test step body)
      (forLoop below' context' init' test' step' body') := by
  refine (corresponds_newScope contexts).bind fun scope scope' scopes => ?_
  have counted : rel.Runs phase (rel.Signals inLoop)
      (turns (forTurn below scope test step body) below.patience)
      (turns (forTurn below' scope' test' step' body') below'.patience) := by
    exact corresponds_turns exhausts
      (corresponds_forTurn alike scopes inLoop tests steps bodies) (alike.patience exhausts)
  cases inits with
  | some inits => exact (alike.execute scopes inits).bind fun _ _ _ => counted
  | none => exact counted

omit blocks in
theorem corresponds_foreachValue (contexts : rel.Contexts context context') (inLoop : Bool)
    (name : String) (spans : rel.Spans span span') (bodies : parts.Statements true body body')
    {values values' : List Value} (related : List.Forall₂ rel.Values values values') :
    rel.Runs phase (rel.Signals inLoop)
      (foreachValue below context name span body values)
      (foreachValue below' context' name span' body' values') := by
  induction related with
  | nil => exact .pure .normal
  | cons first _ ih =>
    refine (corresponds_newScope contexts).bind fun _ _ scopes => ?_
    refine (corresponds_declare scopes name first false).orAt spans |>.bind fun _ _ _ => ?_
    refine (alike.execute scopes bodies).bind fun signal signal' signals => ?_
    have ended := signals.afterBody inLoop
    generalize signal.afterBody = after, signal'.afterBody = after' at ended
    cases ended with
    | some signals => exact .pure signals
    | none => exact ih

/-! ## Statements -/

omit alike blocks in
theorem results_iterated {store store' : Store} (stores : rel.Stores phase store store')
    {value value' : Value} (values : rel.Values value value') :
    rel.Results (List.Forall₂ rel.Values) (iterated store value) (iterated store' value') := by
  have mismatch (expected : String) : rel.Results (List.Forall₂ rel.Values)
      (.error (value.mismatch expected)) (.error (value'.mismatch expected)) := by
    rw [values.mismatch_eq]
    exact .error (.of_plain rfl)
  cases values with
  | array arrays => exact .ok (lawful.array stores arrays)
  | object objects =>
    refine .ok ?_
    rw [(lawful.object stores objects).keys_eq]
    exact List.forall₂_map_left_iff.mpr (List.forall₂_map_right_iff.mpr
      (List.forall₂_same.mpr fun key _ => .string key))
  | _ => exact mismatch _

omit blocks in
/-- A statement with scopes of its own is executed alike in corresponding contexts, also where
names cannot be declared. -/
theorem corresponds_scopedStatement (contexts : rel.Contexts context context')
    {node node' : Statement} (ownScopes : node.form.isScoped = true)
    (forms : rel.StatementForms parts inLoop node.form node'.form) :
    rel.Runs phase (rel.Signals inLoop)
      (statement below context node) (statement below' context' node') := by
  unfold statement
  generalize node.form = form, node'.form = form' at ownScopes forms
  cases forms with
  | block bodies =>
    exact (corresponds_newScope contexts).bind fun _ _ scopes =>
      corresponds_statements alike scopes bodies
  | forLoop exhausts inits tests steps bodies =>
    exact corresponds_forLoop alike contexts exhausts inits tests steps bodies
  | foreach name iterables places bodies =>
    refine (alike.evaluate contexts iterables).bind fun _ _ values => ?_
    refine Corresponds.read.bind fun _ _ stores => ?_
    refine (Corresponds.lift (results_iterated stores values)).orAt places |>.bind
      fun _ _ items => ?_
    exact corresponds_foreachValue alike contexts inLoop name places bodies items
  | _ => cases ownScopes

/-- Corresponding statements are executed alike. -/
theorem corresponds_statement {node node' : Statement} (spans : rel.Spans node.span node'.span)
    (forms : rel.StatementForms parts inLoop node.form node'.form)
    (erases : ∀ target, node.form = .delete target → ¬ rel.Guarded phase) :
    rel.Runs phase (rel.Signals inLoop)
      (statement below context node) (statement below' context' node') := by
  have contexts := blocks.toContexts
  by_cases ownScopes : node.form.isScoped = true
  · exact corresponds_scopedStatement alike contexts ownScopes forms
  unfold statement
  generalize node.form = form, node'.form = form' at ownScopes forms erases
  cases forms with
  | block | forLoop | foreach => exact absurd rfl ownScopes
  | expression values => exact (alike.evaluate contexts values).bind fun _ _ _ => .pure .normal
  | conditional tests positives negatives =>
    refine (corresponds_condition alike contexts tests).bindSame fun holds => ?_
    refine .ite Iff.rfl (fun _ => alike.execute blocks positives) fun _ => ?_
    cases negatives with
    | some negatives => exact alike.execute blocks negatives
    | none => exact .pure .normal
  | whileLoop exhausts tests bodies =>
    exact corresponds_turns exhausts
      (corresponds_whileTurn alike blocks inLoop tests bodies) (alike.patience exhausts)
  | declare name isMutable values =>
    refine (alike.evaluate contexts values).bind fun _ _ found => ?_
    refine (corresponds_declare blocks name found isMutable).orAt spans |>.bind fun _ _ _ => ?_
    exact .pure .normal
  | delete targets =>
    refine (Place.corresponds_resolve alike contexts targets).bind fun _ _ places => ?_
    refine (Place.corresponds_delete places (erases _ rfl) contexts).orAt targets.span |>.bind
      fun _ _ _ => ?_
    exact .pure .normal
  | returnValue values =>
    cases values with
    | none => exact .pure (.returned .null)
    | some values =>
      exact (alike.evaluate contexts values).bind fun _ _ found => .pure (.returned found)
  | breakLoop inside => exact .pure (.breakLoop inside)
  | continueLoop inside => exact .pure (.continueLoop inside)
  | @declareFunction definition definition' named same definitions =>
    dsimp only
    rw [← same]
    cases found : definition.name with
    | none =>
      refine .failAt ⟨rfl, fun isChecked => ?_⟩ spans
      have isNamed := named isChecked
      rw [found] at isNamed
      cases isNamed
    | some name =>
      refine (corresponds_closure contexts definitions).bind fun _ _ values => ?_
      refine (corresponds_declare blocks name values false).orAt spans |>.bind fun _ _ _ => ?_
      exact .pure .normal
  | importLibrary library binding imports =>
    refine (alike.importLibrary imports spans).bind fun _ _ values => ?_
    refine (corresponds_declare blocks binding values false).orAt spans |>.bind fun _ _ _ => ?_
    exact .pure .normal
  | apply targets places actions =>
    refine (alike.evaluate contexts targets).bind fun value value' values => ?_
    have mismatch := values.mismatch_eq "object for apply"
    cases values with
    | object objects => exact alike.execute ⟨⟨objects, blocks.chain⟩, blocks.inner⟩ actions
    | _ => exact .failAt (.of_plain rfl) places
  | unparsed message unchecked =>
    exact .failAt ⟨rfl, fun isChecked => absurd isChecked unchecked⟩ spans
  | noOp => exact .pure .normal

omit lawful in
/-- Corresponding programs are executed alike. -/
theorem corresponds_program
    (placed : ∀ node node', parts.Statements false node node' → rel.Spans node.span node'.span)
    {nodes nodes' : List Statement}
    (related : List.Forall₂ (parts.Statements false) nodes nodes') :
    rel.Runs phase (fun _ _ => True) (program below context nodes)
      (program below' context' nodes') := by
  induction related with
  | nil => exact .pure trivial
  | cons first _ ih =>
    refine (alike.execute blocks first).bind fun _ _ signals => ?_
    -- A jump of a checked program would be meant for a loop that there is not.
    have outside {kind : ErrorKind} (cause : kind.isWrapper = false)
        (inside : rel.checked → false = true) : kind.Reportable rel.checked :=
      ⟨cause, fun isChecked => nomatch inside isChecked⟩
    cases signals with
    | normal => exact ih
    | returned values => exact .pure trivial
    | breakLoop inside | continueLoop inside =>
      exact .failAt (outside rfl inside) (placed _ _ first)

end Blocks

end Evaluate
end PatchScript
