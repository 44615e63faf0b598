import PatchScript.Syntax.Height

/-!
# Syntax without places

Two pieces of syntax are the same up to the places they were read from when they
have the same unplaced form.  Unplacing replaces every span by one fixed span and
leaves everything else as it is.
-/

namespace PatchScript

/-- The span that stands for no place. -/
def Span.nowhere : Span :=
  { file := "", start := Position.start, stop := Position.start }

mutual

/-- An expression without its places. -/
def Expr.unplaced : Expr → Expr
  | .node _ form => .node Span.nowhere form.unplaced

/-- The form of an expression without its places. -/
def ExprForm.unplaced : ExprForm → ExprForm
  | .literal value => .literal value
  | .reference target => .reference target.unplaced
  | .root => .root
  | .array items => .array (Expr.unplacedList items)
  | .object entries => .object (Expr.unplacedEntries entries)
  | .unary op operand => .unary op operand.unplaced
  | .binary op left right => .binary op left.unplaced right.unplaced
  | .logical op left right => .logical op left.unplaced right.unplaced
  | .assign target op value => .assign target.unplaced op value.unplaced
  | .update target increment yieldsNew => .update target.unplaced increment yieldsNew
  | .call callee arguments => .call callee.unplaced (Expr.unplacedList arguments)
  | .function definition => .function definition.unplaced
  | .hasKind value kind => .hasKind value.unplaced kind
  | .library name => .library name

/-- A reference without its places. -/
def Reference.unplaced : Reference → Reference
  | .node _ form => .node Span.nowhere form.unplaced

/-- The form of a reference without its places. -/
def ReferenceForm.unplaced : ReferenceForm → ReferenceForm
  | .variable name => .variable name
  | .bare name => .bare name
  | .property target name => .property target.unplaced name
  | .index target index => .index target.unplaced index.unplaced

def Expr.unplacedList : List Expr → List Expr
  | [] => []
  | expr :: rest => expr.unplaced :: Expr.unplacedList rest

def Expr.unplacedEntry : String × Expr → String × Expr
  | (key, expr) => (key, expr.unplaced)

def Expr.unplacedEntries : List (String × Expr) → List (String × Expr)
  | [] => []
  | entry :: rest => Expr.unplacedEntry entry :: Expr.unplacedEntries rest

def Expr.unplacedOption : Option Expr → Option Expr
  | none => none
  | some expr => some expr.unplaced

/-- A statement without its places. -/
def Statement.unplaced : Statement → Statement
  | .node _ form => .node Span.nowhere form.unplaced

/-- The form of a statement without its places. -/
def StatementForm.unplaced : StatementForm → StatementForm
  | .block body => .block (Statement.unplacedList body)
  | .expression value => .expression value.unplaced
  | .conditional condition thenBranch elseBranch =>
    .conditional condition.unplaced thenBranch.unplaced (Statement.unplacedOption elseBranch)
  | .whileLoop condition body => .whileLoop condition.unplaced body.unplaced
  | .forLoop init condition update body =>
    .forLoop (Statement.unplacedOption init) (Expr.unplacedOption condition)
      (Expr.unplacedOption update) body.unplaced
  | .foreach variableName iterable body => .foreach variableName iterable.unplaced body.unplaced
  | .declare name isMutable value => .declare name isMutable value.unplaced
  | .delete target => .delete target.unplaced
  | .returnValue value => .returnValue (Expr.unplacedOption value)
  | .breakLoop => .breakLoop
  | .continueLoop => .continueLoop
  | .declareFunction definition => .declareFunction definition.unplaced
  | .importLibrary library binding => .importLibrary library binding
  | .apply target action => .apply target.unplaced action.unplaced
  | .unparsed message => .unparsed message
  | .noOp => .noOp

def Statement.unplacedList : List Statement → List Statement
  | [] => []
  | statement :: rest => statement.unplaced :: Statement.unplacedList rest

def Statement.unplacedOption : Option Statement → Option Statement
  | none => none
  | some statement => some statement.unplaced

/-- A function without its places. -/
def FunctionDef.unplaced : FunctionDef → FunctionDef
  | .node name parameters body _ => .node name parameters body.unplaced Span.nowhere

/-- The body of a function without its places. -/
def FunctionBody.unplaced : FunctionBody → FunctionBody
  | .block body => .block (Statement.unplacedList body)
  | .expression value => .expression value.unplaced

end

attribute [simp] ExprForm.unplaced Reference.unplaced ReferenceForm.unplaced FunctionDef.unplaced
  FunctionBody.unplaced

namespace Expr

/-- Only the form of an expression counts for its unplaced form. -/
theorem unplaced_eq_iff {left right : Expr} :
    left.unplaced = right.unplaced ↔ left.form.unplaced = right.form.unplaced := by
  cases left
  cases right
  simp [unplaced, form]

theorem unplacedList_eq_map (exprs : List Expr) : unplacedList exprs = exprs.map unplaced := by
  induction exprs with
  | nil => rfl
  | cons expr rest ih => simp [unplacedList, ih]

theorem unplacedEntries_eq_map (entries : List (String × Expr)) :
    unplacedEntries entries = entries.map fun entry => (entry.1, entry.2.unplaced) := by
  induction entries with
  | nil => rfl
  | cons entry rest ih =>
    obtain ⟨key, expr⟩ := entry
    simp [unplacedEntries, unplacedEntry, ih]

end Expr

/-! ## Height -/

section Height

variable (chained : Nat)

mutual

theorem Expr.height_unplaced : ∀ expr : Expr, expr.unplaced.height chained = expr.height chained
  | .node _ form => form.height_unplaced

theorem ExprForm.height_unplaced (form : ExprForm) :
    form.unplaced.height chained = form.height chained := by
  cases form <;>
    simp only [ExprForm.unplaced, ExprForm.height, Expr.height_unplaced, Reference.height_unplaced,
      Expr.heightList_unplaced, Expr.heightEntries_unplaced, FunctionDef.height_unplaced]

theorem Reference.height_unplaced :
    ∀ reference : Reference, reference.unplaced.height chained = reference.height chained
  | .node _ form => form.height_unplaced

theorem ReferenceForm.height_unplaced (form : ReferenceForm) :
    form.unplaced.height chained = form.height chained := by
  cases form <;> simp only [ReferenceForm.unplaced, ReferenceForm.height, Expr.height_unplaced]

theorem Expr.heightList_unplaced :
    ∀ exprs : List Expr,
      Expr.heightList chained (Expr.unplacedList exprs) = Expr.heightList chained exprs
  | [] => rfl
  | expr :: rest => by
      simp only [Expr.unplacedList, Expr.heightList, expr.height_unplaced,
        Expr.heightList_unplaced rest]

theorem Expr.heightEntry_unplaced :
    ∀ entry : String × Expr,
      Expr.heightEntry chained (Expr.unplacedEntry entry) = Expr.heightEntry chained entry
  | (_, expr) => expr.height_unplaced

theorem Expr.heightEntries_unplaced :
    ∀ entries : List (String × Expr),
      Expr.heightEntries chained (Expr.unplacedEntries entries) = Expr.heightEntries chained entries
  | [] => rfl
  | entry :: rest => by
      simp only [Expr.unplacedEntries, Expr.heightEntries, Expr.heightEntry_unplaced entry,
        Expr.heightEntries_unplaced rest]

theorem Expr.heightOption_unplaced :
    ∀ option : Option Expr,
      Expr.heightOption chained (Expr.unplacedOption option) = Expr.heightOption chained option
  | none => rfl
  | some expr => expr.height_unplaced

theorem Statement.height_unplaced :
    ∀ statement : Statement, statement.unplaced.height chained = statement.height chained
  | .node _ form => form.height_unplaced

theorem StatementForm.height_unplaced (form : StatementForm) :
    form.unplaced.height chained = form.height chained := by
  cases form <;>
    simp only [StatementForm.unplaced, StatementForm.height, Expr.height_unplaced,
      Reference.height_unplaced, Expr.heightOption_unplaced, Statement.height_unplaced,
      Statement.heightList_unplaced, Statement.heightOption_unplaced, FunctionDef.height_unplaced]

theorem Statement.heightList_unplaced :
    ∀ statements : List Statement,
      Statement.heightList chained (Statement.unplacedList statements) =
        Statement.heightList chained statements
  | [] => rfl
  | statement :: rest => by
      simp only [Statement.unplacedList, Statement.heightList, statement.height_unplaced,
        Statement.heightList_unplaced rest]

theorem Statement.heightOption_unplaced (above : Nat) :
    ∀ option : Option Statement,
      Statement.heightOption chained above (Statement.unplacedOption option) =
        Statement.heightOption chained above option
  | none => rfl
  | some statement => congrArg (above + ·) statement.height_unplaced

theorem FunctionDef.height_unplaced :
    ∀ definition : FunctionDef, definition.unplaced.height chained = definition.height chained
  | .node _ _ body _ => body.height_unplaced

theorem FunctionBody.height_unplaced :
    ∀ body : FunctionBody, body.unplaced.height chained = body.height chained
  | .block body => Statement.heightList_unplaced body
  | .expression value => value.height_unplaced

end

end Height

end PatchScript
