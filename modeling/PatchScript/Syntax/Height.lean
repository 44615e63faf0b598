import PatchScript.Syntax

/-!
# The height of syntax trees

The height of a tree is the greatest number of statements and expressions on a path
from its root to a leaf.  A node that the operator after it takes in, and the first
clause of a loop, are made without going a level deeper; `chained` says how much such a
node counts.  With 1 every node counts.  With 0 only the levels do that are written one
inside the other.
-/

namespace PatchScript

mutual

def Expr.height (chained : Nat) : Expr → Nat
  | .node _ form => form.height chained

/-- The height of an expression with a given form. -/
def ExprForm.height (chained : Nat) : ExprForm → Nat
  | .literal _ | .root | .library _ => 1
  | .reference target => target.height chained
  | .array items => 1 + Expr.heightList chained items
  | .object entries => 1 + Expr.heightEntries chained entries
  | .unary _ operand => 1 + operand.height chained
  | .binary _ left right => max (chained + left.height chained) (1 + right.height chained)
  | .logical _ left right => max (chained + left.height chained) (1 + right.height chained)
  | .assign target _ value => max (target.height chained) (1 + value.height chained)
  | .update target _ _ => target.height chained
  | .call callee arguments =>
    max (chained + callee.height chained) (1 + Expr.heightList chained arguments)
  | .function definition => 1 + definition.height chained
  | .hasKind value _ => chained + value.height chained

/-- The height of an expression that is a given reference. -/
def Reference.height (chained : Nat) : Reference → Nat
  | .node _ form => form.height chained

/-- The height of an expression that is a reference of a given form. -/
def ReferenceForm.height (chained : Nat) : ReferenceForm → Nat
  | .variable _ | .bare _ => 1
  | .property target _ => chained + target.height chained
  | .index target index => max (chained + target.height chained) (1 + index.height chained)

def Expr.heightList (chained : Nat) : List Expr → Nat
  | [] => 0
  | expr :: rest => max (expr.height chained) (Expr.heightList chained rest)

def Expr.heightEntry (chained : Nat) : String × Expr → Nat
  | (_, expr) => expr.height chained

def Expr.heightEntries (chained : Nat) : List (String × Expr) → Nat
  | [] => 0
  | entry :: rest => max (Expr.heightEntry chained entry) (Expr.heightEntries chained rest)

def Expr.heightOption (chained : Nat) : Option Expr → Nat
  | none => 0
  | some expr => expr.height chained

def Statement.height (chained : Nat) : Statement → Nat
  | .node _ form => form.height chained

/-- The height of a statement with a given form. -/
def StatementForm.height (chained : Nat) : StatementForm → Nat
  | .block body => 1 + Statement.heightList chained body
  | .expression value => 1 + value.height chained
  | .conditional condition thenBranch elseBranch =>
    1 + max (condition.height chained)
      (max (thenBranch.height chained) (Statement.heightOption chained 0 elseBranch))
  | .whileLoop condition body => 1 + max (condition.height chained) (body.height chained)
  | .forLoop init condition update body =>
    max (Statement.heightOption chained chained init)
      (1 + max (Expr.heightOption chained condition)
        (max (Expr.heightOption chained update) (body.height chained)))
  | .foreach _ iterable body => 1 + max (iterable.height chained) (body.height chained)
  | .declare _ _ value => 1 + value.height chained
  | .delete target => target.height chained
  | .returnValue value => 1 + Expr.heightOption chained value
  | .declareFunction definition => 1 + definition.height chained
  | .apply target action => 1 + max (target.height chained) (action.height chained)
  | .breakLoop | .continueLoop | .importLibrary _ _ | .unparsed _ | .noOp => 1

def Statement.heightList (chained : Nat) : List Statement → Nat
  | [] => 0
  | statement :: rest =>
    max (statement.height chained) (Statement.heightList chained rest)

def Statement.heightOption (chained above : Nat) : Option Statement → Nat
  | none => 0
  | some statement => above + statement.height chained

/-- The height of the body of a function. -/
def FunctionDef.height (chained : Nat) : FunctionDef → Nat
  | .node _ _ body _ => body.height chained

def FunctionBody.height (chained : Nat) : FunctionBody → Nat
  | .block body => Statement.heightList chained body
  | .expression value => value.height chained

end

/-- The height of the highest statement of a program. -/
def Program.height (chained : Nat) (program : Program) : Nat :=
  Statement.heightList chained program.statements

end PatchScript
