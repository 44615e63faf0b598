import PatchScript.Proofs.Syntax.Parts

/-!
# The nodes of syntax trees

Everything that occurs in a program: all its statements and expressions, down to the
bodies of the functions in it.
-/

namespace PatchScript

/-- An expression or a statement that occurs in a syntax tree. -/
inductive SyntaxNode where
  | expr (form : ExprForm)
  | statement (form : StatementForm)

mutual

/-- The nodes of an expression. -/
def Expr.nodes : Expr → List SyntaxNode
  | .node _ form => .expr form :: form.nodes

/-- The nodes inside of an expression of a given form. -/
def ExprForm.nodes : ExprForm → List SyntaxNode
  | .literal _ | .root | .library _ => []
  | .reference target => target.nodes
  | .array items => Expr.nodesList items
  | .object entries => Expr.nodesEntries entries
  | .unary _ operand => operand.nodes
  | .binary _ left right => left.nodes ++ right.nodes
  | .logical _ left right => left.nodes ++ right.nodes
  | .assign target _ value => target.nodes ++ value.nodes
  | .update target _ _ => target.nodes
  | .call callee arguments => callee.nodes ++ Expr.nodesList arguments
  | .function definition => definition.nodes
  | .hasKind value _ => value.nodes

/-- The nodes inside of a reference. -/
def Reference.nodes : Reference → List SyntaxNode
  | .node _ form => form.nodes

/-- The nodes inside of a reference of a given form. -/
def ReferenceForm.nodes : ReferenceForm → List SyntaxNode
  | .variable _ | .bare _ => []
  | .property target _ => target.nodes
  | .index target index => target.nodes ++ index.nodes

def Expr.nodesList : List Expr → List SyntaxNode
  | [] => []
  | expr :: rest => expr.nodes ++ Expr.nodesList rest

def Expr.nodesEntry : String × Expr → List SyntaxNode
  | (_, expr) => expr.nodes

def Expr.nodesEntries : List (String × Expr) → List SyntaxNode
  | [] => []
  | entry :: rest => Expr.nodesEntry entry ++ Expr.nodesEntries rest

def Expr.nodesOption : Option Expr → List SyntaxNode
  | none => []
  | some expr => expr.nodes

/-- The nodes of a statement. -/
def Statement.nodes : Statement → List SyntaxNode
  | .node _ form => .statement form :: form.nodes

/-- The nodes inside of a statement of a given form. -/
def StatementForm.nodes : StatementForm → List SyntaxNode
  | .block body => Statement.nodesList body
  | .expression value => value.nodes
  | .conditional condition thenBranch elseBranch =>
    condition.nodes ++ (thenBranch.nodes ++ Statement.nodesOption elseBranch)
  | .whileLoop condition body => condition.nodes ++ body.nodes
  | .forLoop init condition update body =>
    Statement.nodesOption init ++
      (Expr.nodesOption condition ++ (Expr.nodesOption update ++ body.nodes))
  | .foreach _ iterable body => iterable.nodes ++ body.nodes
  | .declare _ _ value => value.nodes
  | .delete target => target.nodes
  | .returnValue value => Expr.nodesOption value
  | .declareFunction definition => definition.nodes
  | .apply target action => target.nodes ++ action.nodes
  | .breakLoop | .continueLoop | .importLibrary _ _ | .unparsed _ | .noOp => []

def Statement.nodesList : List Statement → List SyntaxNode
  | [] => []
  | statement :: rest => statement.nodes ++ Statement.nodesList rest

def Statement.nodesOption : Option Statement → List SyntaxNode
  | none => []
  | some statement => statement.nodes

/-- The nodes inside of a function. -/
def FunctionDef.nodes : FunctionDef → List SyntaxNode
  | .node _ _ body _ => body.nodes

/-- The nodes inside of the body of a function. -/
def FunctionBody.nodes : FunctionBody → List SyntaxNode
  | .block body => Statement.nodesList body
  | .expression value => value.nodes

end

/-- The nodes of a program. -/
def Program.nodes (program : Program) : List SyntaxNode :=
  Statement.nodesList program.statements

/-! ## What holds of all nodes, one node at a time -/

section Everywhere

variable {allowed : SyntaxNode → Prop}

theorem Expr.forall_nodes_iff {expr : Expr} :
    (∀ node ∈ expr.nodes, allowed node) ↔
      allowed (.expr expr.form) ∧ ∀ node ∈ expr.form.nodes, allowed node := by
  cases expr
  exact List.forall_mem_cons

theorem Reference.nodes_eq (reference : Reference) : reference.nodes = reference.form.nodes := by
  cases reference
  rfl

theorem Statement.forall_nodes_iff {statement : Statement} :
    (∀ node ∈ statement.nodes, allowed node) ↔
      allowed (.statement statement.form) ∧ ∀ node ∈ statement.form.nodes, allowed node := by
  cases statement
  exact List.forall_mem_cons

theorem FunctionDef.nodes_eq (definition : FunctionDef) :
    definition.nodes = definition.body.nodes := by
  cases definition
  rfl

theorem Expr.forall_nodesList_iff {exprs : List Expr} :
    (∀ node ∈ Expr.nodesList exprs, allowed node) ↔
      ∀ expr ∈ exprs, ∀ node ∈ expr.nodes, allowed node := by
  induction exprs with
  | nil => simp [nodesList]
  | cons expr rest ih => simp only [nodesList, List.forall_mem_append, ih, List.forall_mem_cons]

theorem Expr.forall_nodesEntries_iff {entries : List (String × Expr)} :
    (∀ node ∈ Expr.nodesEntries entries, allowed node) ↔
      ∀ entry ∈ entries, ∀ node ∈ entry.2.nodes, allowed node := by
  induction entries with
  | nil => simp [nodesEntries]
  | cons entry rest ih =>
    obtain ⟨key, expr⟩ := entry
    simp only [nodesEntries, nodesEntry, List.forall_mem_append, ih, List.forall_mem_cons]

theorem Expr.forall_nodesOption_iff {option : Option Expr} :
    (∀ node ∈ Expr.nodesOption option, allowed node) ↔
      ∀ expr ∈ option, ∀ node ∈ expr.nodes, allowed node := by
  cases option <;> simp [nodesOption]

theorem Statement.forall_nodesList_iff {statements : List Statement} :
    (∀ node ∈ Statement.nodesList statements, allowed node) ↔
      ∀ statement ∈ statements, ∀ node ∈ statement.nodes, allowed node := by
  induction statements with
  | nil => simp [nodesList]
  | cons statement rest ih =>
    simp only [nodesList, List.forall_mem_append, ih, List.forall_mem_cons]

theorem Statement.forall_nodesOption_iff {option : Option Statement} :
    (∀ node ∈ Statement.nodesOption option, allowed node) ↔
      ∀ statement ∈ option, ∀ node ∈ statement.nodes, allowed node := by
  cases option <;> simp [nodesOption]

/-- Something is required of all nodes of the parts. -/
def PartRules.everywhere (allowed : SyntaxNode → Prop) : PartRules where
  reference target := ∀ node ∈ target.nodes, allowed node
  deleted target := ∀ node ∈ target.nodes, allowed node
  chained expr := ∀ node ∈ expr.nodes, allowed node
  expr expr := ∀ node ∈ expr.nodes, allowed node
  statement _ statement := ∀ node ∈ statement.nodes, allowed node
  initial _ statement := ∀ node ∈ statement.nodes, allowed node
  function definition := ∀ node ∈ definition.nodes, allowed node
  checked := False

theorem ReferenceForm.forall_nodes_iff {form : ReferenceForm} :
    (∀ node ∈ form.nodes, allowed node) ↔ form.Keeps (.everywhere allowed) := by
  cases form <;> simp [nodes, Keeps, PartRules.everywhere, or_imp, forall_and]

theorem ExprForm.forall_nodes_iff {form : ExprForm} :
    (∀ node ∈ form.nodes, allowed node) ↔ form.Keeps (.everywhere allowed) := by
  cases form <;>
    simp only [nodes, Keeps, PartRules.everywhere, List.forall_mem_append, List.not_mem_nil,
      Expr.forall_nodesList_iff, Expr.forall_nodesEntries_iff, false_implies, implies_true, true_and]

theorem StatementForm.forall_nodes_iff {inLoop : Bool} {form : StatementForm} :
    (∀ node ∈ form.nodes, allowed node) ↔ form.Keeps (.everywhere allowed) inLoop := by
  cases form <;>
    simp only [nodes, Keeps, PartRules.everywhere, List.forall_mem_append, List.not_mem_nil,
      Expr.forall_nodesOption_iff, Statement.forall_nodesList_iff,
      Statement.forall_nodesOption_iff, false_implies, implies_true, true_and, not_false_eq_true]

end Everywhere

end PatchScript
