import PatchScript.Proofs.Syntax.Parts

/-!
# Rules about syntax trees

A rule about syntax trees holds of all that is accepted if it holds of a node whenever it
holds of the parts that the node is made of.  Nested parts may have to keep a stricter
rule than the node they are nested in.
-/

namespace PatchScript
namespace Grammar

/-- What is required of expressions, references and statements, by their form. -/
structure TreeRule where
  /-- What is required of an expression. -/
  expr : ExprForm → Prop
  /-- What is required of a reference. -/
  reference : ReferenceForm → Prop
  /-- What is required of a statement inside or outside of a loop. -/
  statement : Bool → StatementForm → Prop

namespace TreeRule

/-- What is required of the body of a function. -/
def body (rule : TreeRule) : FunctionBody → Prop
  | .block statements => ∀ statement ∈ statements, rule.statement false statement.form
  | .expression value => rule.expr value.form

/-- What is required of the first clause of a loop. -/
def clause (rule : TreeRule) : StatementForm → Prop
  | .expression value | .declare _ _ value => rule.expr value.form
  | _ => False

/-- What is required of the parts of a node that is to keep the outer rule, if nested
syntax keeps the inner one. -/
def parts (outer inner : TreeRule) : PartRules where
  reference target := outer.reference target.form
  deleted target := inner.expr (.reference target)
  chained expr := outer.expr expr.form
  expr expr := inner.expr expr.form
  statement inLoop statement := inner.statement inLoop statement.form
  initial _ statement := inner.clause statement.form
  function definition := definition.parameters.Nodup ∧ inner.body definition.body
  checked := True

/-- A node keeps the outer rule if its parts keep what is required of them. -/
structure Encloses (outer inner : TreeRule) : Prop where
  expr : ∀ {form : ExprForm}, form.Keeps (outer.parts inner) → outer.expr form
  reference : ∀ {form : ReferenceForm}, form.Keeps (outer.parts inner) → outer.reference form
  statement : ∀ {inLoop : Bool} {form : StatementForm},
    form.Keeps (outer.parts inner) inLoop → outer.statement inLoop form
  /-- Parentheses do not show in the tree. -/
  unwrap : ∀ {form : ExprForm}, inner.expr form → outer.expr form
  /-- An expression that is a reference can be used as a target. -/
  target : ∀ {target : Reference}, outer.expr (.reference target) → outer.reference target.form

/-- A first clause of a loop is a statement as well. -/
theorem Encloses.statement_of_clause {outer inner : TreeRule} (encloses : outer.Encloses inner)
    {inLoop : Bool} {form : StatementForm} (isClause : inner.clause form) :
    outer.statement inLoop form := by
  cases form with
  | expression value => exact encloses.statement isClause
  | declare name isMutable value => exact encloses.statement isClause
  | _ => exact isClause.elim

/-- What is required of several expressions. -/
def exprs (rule : TreeRule) (found : List Expr) : Prop :=
  ∀ expr ∈ found, rule.expr expr.form

/-- What is required of the entries of an object: their keys are distinct. -/
def entries (rule : TreeRule) (found : List (String × Expr)) : Prop :=
  (Entries.keys found).Nodup ∧ ∀ entry ∈ found, rule.expr entry.2.form

/-- What is required of several statements. -/
def statements (rule : TreeRule) (inLoop : Bool) (found : List Statement) : Prop :=
  ∀ statement ∈ found, rule.statement inLoop statement.form

/-- Nothing is required of syntax trees. -/
def any : TreeRule where
  expr _ := True
  reference _ := True
  statement _ _ := True

theorem encloses_any : any.Encloses .any :=
  ⟨fun _ => trivial, fun _ => trivial, fun _ => trivial, fun _ => trivial, fun _ => trivial⟩

end TreeRule
end Grammar
end PatchScript
