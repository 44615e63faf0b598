import PatchScript.Syntax

/-!
# The parts of a syntax tree

What holds of the parts that a node is made of, stated for one node at a time.  Rules
about all of a tree are proved from it, by the readers that put nodes together and by
the evaluation that takes them apart.

A part that stands before an operator is told apart from the others, since the operator
takes it in where it stands.
-/

namespace PatchScript

/-- What is required of the parts of a node. -/
structure PartRules where
  /-- What is required of the target of an access, an assignment or a step. -/
  reference : Reference → Prop
  /-- What is required of the target of a deletion. -/
  deleted : Reference → Prop
  /-- What is required of an expression before an operator. -/
  chained : Expr → Prop
  /-- What is required of any other expression. -/
  expr : Expr → Prop
  /-- What is required of a statement inside or outside of a loop. -/
  statement : Bool → Statement → Prop
  /-- What is required of the first clause of a loop. -/
  initial : Bool → Statement → Prop
  /-- What is required of a function. -/
  function : FunctionDef → Prop
  /-- Whether what readers check is required as well: distinct keys, jumps in loops and
  names of declared functions. -/
  checked : Prop

/-- The parts of a reference keep the rules. -/
def ReferenceForm.Keeps (rules : PartRules) : ReferenceForm → Prop
  | .variable _ | .bare _ => True
  | .property target _ => rules.chained target
  | .index target key => rules.chained target ∧ rules.expr key

/-- The parts of an expression keep the rules. -/
def ExprForm.Keeps (rules : PartRules) : ExprForm → Prop
  | .literal _ | .root | .library _ => True
  | .reference target => rules.reference target
  | .array items => ∀ item ∈ items, rules.expr item
  | .object entries =>
    (rules.checked → (Entries.keys entries).Nodup) ∧ ∀ entry ∈ entries, rules.expr entry.2
  | .unary _ operand => rules.expr operand
  | .binary _ left right => rules.chained left ∧ rules.expr right
  | .logical _ left right => rules.chained left ∧ rules.expr right
  | .assign target _ value => rules.reference target ∧ rules.expr value
  | .update target _ _ => rules.reference target
  | .call callee arguments => rules.chained callee ∧ ∀ argument ∈ arguments, rules.expr argument
  | .function definition => rules.function definition
  | .hasKind value _ => rules.chained value

/-- The parts of a statement inside or outside of a loop keep the rules. -/
def StatementForm.Keeps (rules : PartRules) (inLoop : Bool) : StatementForm → Prop
  | .block body => ∀ statement ∈ body, rules.statement inLoop statement
  | .expression value => rules.expr value
  | .conditional condition thenBranch elseBranch =>
    rules.expr condition ∧ rules.statement inLoop thenBranch ∧
      ∀ statement ∈ elseBranch, rules.statement inLoop statement
  | .whileLoop condition body => rules.expr condition ∧ rules.statement true body
  | .forLoop init condition update body =>
    (∀ statement ∈ init, rules.initial inLoop statement) ∧
      (∀ expr ∈ condition, rules.expr expr) ∧
      (∀ expr ∈ update, rules.expr expr) ∧ rules.statement true body
  | .foreach _ iterable body => rules.expr iterable ∧ rules.statement true body
  | .declare _ _ value => rules.expr value
  | .delete target => rules.deleted target
  | .returnValue value => ∀ expr ∈ value, rules.expr expr
  | .breakLoop | .continueLoop => rules.checked → inLoop = true
  | .declareFunction definition =>
    (rules.checked → definition.name.isSome) ∧ rules.function definition
  | .importLibrary _ _ | .noOp => True
  | .apply target action => rules.expr target ∧ rules.statement inLoop action
  | .unparsed _ => ¬ rules.checked

/-! ## Stricter and weaker rules -/

/-- Whatever keeps the first rules keeps the second ones. -/
structure PartRules.Implies (first second : PartRules) : Prop where
  reference : ∀ target, first.reference target → second.reference target
  deleted : ∀ target, first.deleted target → second.deleted target
  chained : ∀ expr, first.chained expr → second.chained expr
  expr : ∀ expr, first.expr expr → second.expr expr
  statement : ∀ inLoop statement,
    first.statement inLoop statement → second.statement inLoop statement
  initial : ∀ inLoop statement, first.initial inLoop statement → second.initial inLoop statement
  function : ∀ definition, first.function definition → second.function definition
  checked : second.checked → first.checked

section Implies

variable {first second : PartRules} (implies : first.Implies second)

include implies

theorem ReferenceForm.Keeps.imp {form : ReferenceForm} (keeps : form.Keeps first) :
    form.Keeps second := by
  cases form with
  | property target => exact implies.chained target keeps
  | index target key => exact And.imp (implies.chained target) (implies.expr key) keeps
  | _ => trivial

theorem ExprForm.Keeps.imp {form : ExprForm} (keeps : form.Keeps first) : form.Keeps second := by
  cases form with
  | literal | root | library => trivial
  | reference target => exact implies.reference target keeps
  | array items => exact fun item member => implies.expr item (keeps item member)
  | object entries =>
    exact ⟨fun isChecked => keeps.1 (implies.checked isChecked),
      fun entry member => implies.expr entry.2 (keeps.2 entry member)⟩
  | unary op operand => exact implies.expr operand keeps
  | binary op left right | logical op left right =>
    exact And.imp (implies.chained left) (implies.expr right) keeps
  | assign target op value => exact And.imp (implies.reference target) (implies.expr value) keeps
  | update target => exact implies.reference target keeps
  | call callee arguments =>
    exact ⟨implies.chained callee keeps.1,
      fun argument member => implies.expr argument (keeps.2 argument member)⟩
  | function definition => exact implies.function definition keeps
  | hasKind value => exact implies.chained value keeps

theorem StatementForm.Keeps.imp {inLoop : Bool} {form : StatementForm}
    (keeps : form.Keeps first inLoop) : form.Keeps second inLoop := by
  cases form with
  | block body =>
    exact fun statement member => implies.statement _ statement (keeps statement member)
  | expression value | declare name isMutable value => exact implies.expr value keeps
  | conditional condition thenBranch elseBranch =>
    obtain ⟨test, positive, negative⟩ := keeps
    exact ⟨implies.expr _ test, implies.statement _ _ positive,
      fun statement member => implies.statement _ statement (negative statement member)⟩
  | whileLoop condition body | foreach name condition body | apply condition body =>
    exact And.imp (implies.expr condition) (implies.statement _ body) keeps
  | forLoop init condition update body =>
    obtain ⟨start, test, step, turn⟩ := keeps
    exact ⟨fun statement member => implies.initial _ statement (start statement member),
      fun expr member => implies.expr expr (test expr member),
      fun expr member => implies.expr expr (step expr member),
      implies.statement _ body turn⟩
  | delete target => exact implies.deleted target keeps
  | returnValue value => exact fun expr member => implies.expr expr (keeps expr member)
  | breakLoop | continueLoop => exact fun isChecked => keeps (implies.checked isChecked)
  | declareFunction definition =>
    exact ⟨fun isChecked => keeps.1 (implies.checked isChecked),
      implies.function definition keeps.2⟩
  | importLibrary | noOp => trivial
  | unparsed => exact fun isChecked => keeps (implies.checked isChecked)

end Implies

/-! ## Rules together -/

/-- What two rules require. -/
def PartRules.and (first second : PartRules) : PartRules where
  reference target := first.reference target ∧ second.reference target
  deleted target := first.deleted target ∧ second.deleted target
  chained expr := first.chained expr ∧ second.chained expr
  expr expr := first.expr expr ∧ second.expr expr
  statement inLoop statement := first.statement inLoop statement ∧ second.statement inLoop statement
  initial inLoop statement := first.initial inLoop statement ∧ second.initial inLoop statement
  function definition := first.function definition ∧ second.function definition
  checked := first.checked ∨ second.checked

section Together

variable {first second : PartRules}

theorem ReferenceForm.keeps_and {form : ReferenceForm} (one : form.Keeps first)
    (other : form.Keeps second) : form.Keeps (first.and second) := by
  cases form <;> simp_all [Keeps, PartRules.and]

theorem ExprForm.keeps_and {form : ExprForm} (one : form.Keeps first) (other : form.Keeps second) :
    form.Keeps (first.and second) := by
  cases form with
  | object entries =>
    exact ⟨fun isChecked => isChecked.elim one.1 other.1,
      fun entry member => ⟨one.2 entry member, other.2 entry member⟩⟩
  | _ => simp_all [Keeps, PartRules.and]

theorem StatementForm.keeps_and {inLoop : Bool} {form : StatementForm}
    (one : form.Keeps first inLoop) (other : form.Keeps second inLoop) :
    form.Keeps (first.and second) inLoop := by
  cases form <;> simp_all [Keeps, PartRules.and, or_imp]

end Together

/-! ## No rules at all -/

/-- Nothing is required. -/
def PartRules.lax : PartRules where
  reference _ := True
  deleted _ := True
  chained _ := True
  expr _ := True
  statement _ _ := True
  initial _ _ := True
  function _ := True
  checked := False

theorem ReferenceForm.keeps_lax (form : ReferenceForm) : form.Keeps .lax := by
  cases form <;> simp [Keeps, PartRules.lax]

theorem ExprForm.keeps_lax (form : ExprForm) : form.Keeps .lax := by
  cases form <;> simp [Keeps, PartRules.lax]

theorem StatementForm.keeps_lax (inLoop : Bool) (form : StatementForm) :
    form.Keeps .lax inLoop := by
  cases form <;> simp [Keeps, PartRules.lax]

end PatchScript
