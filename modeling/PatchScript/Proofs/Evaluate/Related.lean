import PatchScript.Evaluate.Interpreter
import PatchScript.Proofs.Run.Correspondence
import PatchScript.Proofs.Syntax.Parts

/-!
# Corresponding syntax

Two syntax trees correspond, one node at a time: they have the same form, and their parts
correspond in whatever sense is asked of parts.
-/

namespace PatchScript

/-- Whether a statement is a loop that goes on for as long as its condition holds. -/
def StatementForm.isLoop : StatementForm → Bool
  | .whileLoop _ _ | .forLoop _ _ _ _ => true
  | _ => false

/-- Whether all that a statement declares is declared in scopes of its own. -/
def StatementForm.isScoped : StatementForm → Bool
  | .block _ | .forLoop _ _ _ _ | .foreach _ _ _ => true
  | _ => false

namespace Correspondence

/-- What is asked of the parts of corresponding nodes. -/
structure Parts where
  /-- The expressions that may stand for each other. -/
  Exprs : Expr → Expr → Prop
  /-- The statements, inside or outside of a loop, that may stand for each other. -/
  Statements : Bool → Statement → Statement → Prop
  /-- The libraries that may be imported. -/
  Imports : String → Prop

/-- Parts that are the same. -/
def Parts.same : Parts where
  Exprs := Eq
  Statements _ := Eq
  Imports _ := True

variable (rel : Correspondence) (parts : Parts)

/-- Corresponding forms of references. -/
inductive ReferenceForms : ReferenceForm → ReferenceForm → Prop where
  | named (name : String) : ReferenceForms (.variable name) (.variable name)
  | bare (name : String) : ReferenceForms (.bare name) (.bare name)
  | property {target target' : Expr} (name : String) :
    parts.Exprs target target' → ReferenceForms (.property target name) (.property target' name)
  | index {target target' key key' : Expr} :
    parts.Exprs target target' → parts.Exprs key key' →
    ReferenceForms (.index target key) (.index target' key')

/-- Corresponding references. -/
structure References (reference reference' : Reference) : Prop where
  span : rel.Spans reference.span reference'.span
  form : ReferenceForms parts reference.form reference'.form

/-- Corresponding forms of expressions. -/
inductive ExprForms : ExprForm → ExprForm → Prop where
  | literal (value : Literal) : ExprForms (.literal value) (.literal value)
  | reference {target target' : Reference} :
    rel.References parts target target' → ExprForms (.reference target) (.reference target')
  | root : ExprForms .root .root
  | array {items items' : List Expr} :
    List.Forall₂ parts.Exprs items items' → ExprForms (.array items) (.array items')
  | object {entries entries' : List (String × Expr)} :
    List.Forall₂ (fun entry entry' => entry.1 = entry'.1 ∧ parts.Exprs entry.2 entry'.2)
      entries entries' →
    ExprForms (.object entries) (.object entries')
  | unary (op : UnaryOp) {operand operand' : Expr} :
    parts.Exprs operand operand' → ExprForms (.unary op operand) (.unary op operand')
  | binary (op : BinaryOp) {left left' right right' : Expr} :
    parts.Exprs left left' → parts.Exprs right right' →
    ExprForms (.binary op left right) (.binary op left' right')
  | logical (op : LogicalOp) {left left' right right' : Expr} :
    parts.Exprs left left' → parts.Exprs right right' →
    ExprForms (.logical op left right) (.logical op left' right')
  | assign {target target' : Reference} (op : Option BinaryOp) {value value' : Expr} :
    rel.References parts target target' → parts.Exprs value value' →
    ExprForms (.assign target op value) (.assign target' op value')
  | update {target target' : Reference} (increment yieldsNew : Bool) :
    rel.References parts target target' →
    ExprForms (.update target increment yieldsNew) (.update target' increment yieldsNew)
  | call {callee callee' : Expr} {arguments arguments' : List Expr} :
    parts.Exprs callee callee' → List.Forall₂ parts.Exprs arguments arguments' →
    ExprForms (.call callee arguments) (.call callee' arguments')
  | function {definition definition' : FunctionDef} :
    rel.Definitions definition definition' →
    ExprForms (.function definition) (.function definition')
  | hasKind {value value' : Expr} (kind : ValueKind) :
    parts.Exprs value value' → ExprForms (.hasKind value kind) (.hasKind value' kind)
  | library (name : String) : parts.Imports name → ExprForms (.library name) (.library name)

/-- Corresponding forms of statements inside or outside of a loop.  Loops with a condition
are only there if a run may use up its budget. -/
inductive StatementForms (inLoop : Bool) : StatementForm → StatementForm → Prop where
  | block {body body' : List Statement} :
    List.Forall₂ (parts.Statements inLoop) body body' →
    StatementForms inLoop (.block body) (.block body')
  | expression {value value' : Expr} :
    parts.Exprs value value' → StatementForms inLoop (.expression value) (.expression value')
  | conditional {test test' : Expr} {positive positive' : Statement}
    {negative negative' : Option Statement} :
    parts.Exprs test test' → parts.Statements inLoop positive positive' →
    Option.Rel (parts.Statements inLoop) negative negative' →
    StatementForms inLoop (.conditional test positive negative)
      (.conditional test' positive' negative')
  | whileLoop {test test' : Expr} {body body' : Statement} :
    rel.exhausts → parts.Exprs test test' → parts.Statements true body body' →
    StatementForms inLoop (.whileLoop test body) (.whileLoop test' body')
  | forLoop {init init' : Option Statement} {test test' step step' : Option Expr}
    {body body' : Statement} :
    rel.exhausts → Option.Rel (parts.Statements inLoop) init init' →
    Option.Rel parts.Exprs test test' → Option.Rel parts.Exprs step step' →
    parts.Statements true body body' →
    StatementForms inLoop (.forLoop init test step body) (.forLoop init' test' step' body')
  | foreach (name : String) {iterable iterable' : Expr} {body body' : Statement} :
    parts.Exprs iterable iterable' → rel.Spans iterable.span iterable'.span →
    parts.Statements true body body' →
    StatementForms inLoop (.foreach name iterable body) (.foreach name iterable' body')
  | declare (name : String) (isMutable : Bool) {value value' : Expr} :
    parts.Exprs value value' →
    StatementForms inLoop (.declare name isMutable value) (.declare name isMutable value')
  | delete {target target' : Reference} :
    rel.References parts target target' →
    StatementForms inLoop (.delete target) (.delete target')
  | returnValue {value value' : Option Expr} :
    Option.Rel parts.Exprs value value' →
    StatementForms inLoop (.returnValue value) (.returnValue value')
  | breakLoop : (rel.checked → inLoop = true) → StatementForms inLoop .breakLoop .breakLoop
  | continueLoop : (rel.checked → inLoop = true) → StatementForms inLoop .continueLoop .continueLoop
  | declareFunction {definition definition' : FunctionDef} :
    (rel.checked → definition.name.isSome) → definition.name = definition'.name →
    rel.Definitions definition definition' →
    StatementForms inLoop (.declareFunction definition) (.declareFunction definition')
  | importLibrary (library binding : String) :
    parts.Imports library →
    StatementForms inLoop (.importLibrary library binding) (.importLibrary library binding)
  | apply {target target' : Expr} {action action' : Statement} :
    parts.Exprs target target' → rel.Spans target.span target'.span →
    parts.Statements inLoop action action' →
    StatementForms inLoop (.apply target action) (.apply target' action')
  | unparsed (message : String) :
    ¬ rel.checked → StatementForms inLoop (.unparsed message) (.unparsed message)
  | noOp : StatementForms inLoop .noOp .noOp

/-- Corresponding bodies of functions. -/
inductive Bodies : FunctionBody → FunctionBody → Prop where
  | block {body body' : List Statement} :
    List.Forall₂ (parts.Statements false) body body' → Bodies (.block body) (.block body')
  | expression {value value' : Expr} :
    parts.Exprs value value' → Bodies (.expression value) (.expression value')

/-- Function definitions that correspond part by part. -/
structure Made (definition definition' : FunctionDef) : Prop where
  name : definition.name = definition'.name
  parameters : definition.parameters = definition'.parameters
  body : Bodies parts definition.body definition'.body

/-- Corresponding ways for a statement to end.  A jump is meant for a loop around it. -/
inductive Signals (inLoop : Bool) : Signal → Signal → Prop where
  | normal : Signals inLoop .normal .normal
  | breakLoop : (rel.checked → inLoop = true) → Signals inLoop .breakLoop .breakLoop
  | continueLoop : (rel.checked → inLoop = true) → Signals inLoop .continueLoop .continueLoop
  | returned {value value' : Value} :
    rel.Values value value' → Signals inLoop (.returned value) (.returned value')

/-- A loop takes the jumps of its body upon itself. -/
theorem Signals.afterBody {rel : Correspondence} {signal signal' : Signal}
    (signals : rel.Signals true signal signal') (inLoop : Bool) :
    Option.Rel (rel.Signals inLoop) signal.afterBody signal'.afterBody := by
  cases signals with
  | normal | continueLoop => exact .none
  | breakLoop => exact .some .normal
  | returned values => exact .some (.returned values)

/-! ## Syntax that corresponds to itself -/

/-- Parts that keep certain rules correspond to themselves. -/
structure Mirrors (rel : Correspondence) (parts : Parts) (rules : PartRules) : Prop where
  spans : ∀ span, rel.Spans span span
  reference : ∀ target, rules.reference target → ReferenceForms parts target.form target.form
  deleted : ∀ target, rules.deleted target → ReferenceForms parts target.form target.form
  chained : ∀ expr, rules.chained expr → parts.Exprs expr expr
  expr : ∀ expr, rules.expr expr → parts.Exprs expr expr
  statement : ∀ inLoop statement, rules.statement inLoop statement →
    parts.Statements inLoop statement statement
  initial : ∀ inLoop statement, rules.initial inLoop statement →
    parts.Statements inLoop statement statement
  function : ∀ definition, rules.function definition → rel.Definitions definition definition
  checked : rel.checked → rules.checked

section Mirrors

variable {rel : Correspondence} {parts : Parts} {rules : PartRules}

theorem forall₂_self {α : Type} {Related : α → α → Prop} {items : List α}
    (each : ∀ item ∈ items, Related item item) : List.Forall₂ Related items items :=
  List.forall₂_same.mpr each

theorem optionRel_self {α : Type} {Related : α → α → Prop} {option : Option α}
    (each : ∀ item ∈ option, Related item item) : Option.Rel Related option option := by
  cases option with
  | none => exact .none
  | some item => exact .some (each item rfl)

theorem referenceForms_self (chained : ∀ expr, rules.chained expr → parts.Exprs expr expr)
    (plain : ∀ expr, rules.expr expr → parts.Exprs expr expr) {form : ReferenceForm}
    (keeps : form.Keeps rules) : ReferenceForms parts form form :=
  match form, keeps with
  | .variable name, _ => .named name
  | .bare name, _ => .bare name
  | .property target name, kept => .property name (chained target kept)
  | .index target key, kept => .index (chained target kept.1) (plain key kept.2)

variable (mirrors : rel.Mirrors parts rules)

include mirrors

theorem exprForms_self {form : ExprForm} (keeps : form.Keeps rules)
    (imports : ∀ name, form = .library name → parts.Imports name) :
    rel.ExprForms parts form form := by
  have reference (target : Reference) (kept : rules.reference target) :
      rel.References parts target target :=
    ⟨mirrors.spans _, mirrors.reference target kept⟩
  cases form with
  | literal value => exact .literal value
  | reference target => exact .reference (reference target keeps)
  | root => exact .root
  | array items => exact .array (forall₂_self fun item member => mirrors.expr item (keeps item member))
  | object entries =>
    exact .object (forall₂_self fun entry member =>
      ⟨rfl, mirrors.expr entry.2 (keeps.2 entry member)⟩)
  | unary op operand => exact .unary op (mirrors.expr operand keeps)
  | binary op left right =>
    exact .binary op (mirrors.chained left keeps.1) (mirrors.expr right keeps.2)
  | logical op left right =>
    exact .logical op (mirrors.chained left keeps.1) (mirrors.expr right keeps.2)
  | assign target op value =>
    exact .assign op (reference target keeps.1) (mirrors.expr value keeps.2)
  | update target increment yieldsNew => exact .update increment yieldsNew (reference target keeps)
  | call callee arguments =>
    exact .call (mirrors.chained callee keeps.1)
      (forall₂_self fun argument member => mirrors.expr argument (keeps.2 argument member))
  | function definition => exact .function (mirrors.function definition keeps)
  | hasKind value kind => exact .hasKind kind (mirrors.chained value keeps)
  | library name => exact .library name (imports name rfl)

theorem statementForms_self {inLoop : Bool} {form : StatementForm} (keeps : form.Keeps rules inLoop)
    (loops : form.isLoop = true → rel.exhausts)
    (imports : ∀ library binding, form = .importLibrary library binding → parts.Imports library) :
    rel.StatementForms parts inLoop form form := by
  cases form with
  | block body =>
    exact .block (forall₂_self fun statement member =>
      mirrors.statement inLoop statement (keeps statement member))
  | expression value => exact .expression (mirrors.expr value keeps)
  | conditional test positive negative =>
    obtain ⟨keptTest, keptPositive, keptNegative⟩ := keeps
    exact .conditional (mirrors.expr test keptTest) (mirrors.statement inLoop positive keptPositive)
      (optionRel_self fun statement member =>
        mirrors.statement inLoop statement (keptNegative statement member))
  | whileLoop test body =>
    exact .whileLoop (loops rfl) (mirrors.expr test keeps.1) (mirrors.statement true body keeps.2)
  | forLoop init test step body =>
    obtain ⟨keptInit, keptTest, keptStep, keptBody⟩ := keeps
    exact .forLoop (loops rfl)
      (optionRel_self fun statement member =>
        mirrors.initial inLoop statement (keptInit statement member))
      (optionRel_self fun expr member => mirrors.expr expr (keptTest expr member))
      (optionRel_self fun expr member => mirrors.expr expr (keptStep expr member))
      (mirrors.statement true body keptBody)
  | foreach name iterable body =>
    exact .foreach name (mirrors.expr iterable keeps.1) (mirrors.spans _)
      (mirrors.statement true body keeps.2)
  | declare name isMutable value => exact .declare name isMutable (mirrors.expr value keeps)
  | delete target => exact .delete ⟨mirrors.spans _, mirrors.deleted target keeps⟩
  | returnValue value =>
    exact .returnValue (optionRel_self fun expr member => mirrors.expr expr (keeps expr member))
  | breakLoop => exact .breakLoop fun isChecked => keeps (mirrors.checked isChecked)
  | continueLoop => exact .continueLoop fun isChecked => keeps (mirrors.checked isChecked)
  | declareFunction definition =>
    exact .declareFunction (fun isChecked => keeps.1 (mirrors.checked isChecked)) rfl
      (mirrors.function definition keeps.2)
  | importLibrary library binding => exact .importLibrary library binding (imports library binding rfl)
  | apply target action =>
    exact .apply (mirrors.expr target keeps.1) (mirrors.spans _)
      (mirrors.statement inLoop action keeps.2)
  | unparsed message => exact .unparsed message fun isChecked => keeps (mirrors.checked isChecked)
  | noOp => exact .noOp

end Mirrors

/-- Where every definition corresponds to itself, so does all syntax. -/
theorem mirrors_lax {rel : Correspondence} (spans : ∀ span, rel.Spans span span)
    (definitions : ∀ definition, rel.Definitions definition definition)
    (unchecked : ¬ rel.checked) : rel.Mirrors .same .lax where
  spans := spans
  reference target _ := referenceForms_self (fun _ _ => rfl) (fun _ _ => rfl) target.form.keeps_lax
  deleted target _ := referenceForms_self (fun _ _ => rfl) (fun _ _ => rfl) target.form.keeps_lax
  chained _ _ := rfl
  expr _ _ := rfl
  statement _ _ _ := rfl
  initial _ _ _ := rfl
  function definition _ := definitions definition
  checked := unchecked

/-- Every definition is made of the same parts as itself. -/
theorem made_same (definition : FunctionDef) : Made .same definition definition where
  name := rfl
  parameters := rfl
  body := by
    cases definition.body with
    | block body => exact .block (forall₂_self fun _ _ => rfl)
    | expression value => exact .expression rfl

end Correspondence
end PatchScript
