import PatchScript.Proofs.Syntax.Parts

/-!
# Well-formed syntax

What the readers guarantee beyond the shape of a syntax tree, everywhere in it: every
statement could be read, a jump stands in a loop of its own function, a declared
function has a name, and neither parameters nor the keys of an object are repeated.
-/

namespace PatchScript

mutual

/-- Whether an expression is well formed. -/
def Expr.WellFormed : Expr → Prop
  | .node _ form => form.WellFormed

/-- Whether the form of an expression is well formed: the keys of an object are
distinct. -/
def ExprForm.WellFormed : ExprForm → Prop
  | .literal _ | .root | .library _ => True
  | .reference target => target.WellFormed
  | .array items => Expr.WellFormedList items
  | .object entries => (Entries.keys entries).Nodup ∧ Expr.WellFormedEntries entries
  | .unary _ operand => operand.WellFormed
  | .binary _ left right => left.WellFormed ∧ right.WellFormed
  | .logical _ left right => left.WellFormed ∧ right.WellFormed
  | .assign target _ value => target.WellFormed ∧ value.WellFormed
  | .update target _ _ => target.WellFormed
  | .call callee arguments => callee.WellFormed ∧ Expr.WellFormedList arguments
  | .function definition => definition.WellFormed
  | .hasKind value _ => value.WellFormed

/-- Whether a reference is well formed. -/
def Reference.WellFormed : Reference → Prop
  | .node _ form => form.WellFormed

/-- Whether the form of a reference is well formed. -/
def ReferenceForm.WellFormed : ReferenceForm → Prop
  | .variable _ | .bare _ => True
  | .property target _ => target.WellFormed
  | .index target index => target.WellFormed ∧ index.WellFormed

def Expr.WellFormedList : List Expr → Prop
  | [] => True
  | expr :: rest => expr.WellFormed ∧ Expr.WellFormedList rest

def Expr.WellFormedEntry : String × Expr → Prop
  | (_, expr) => expr.WellFormed

def Expr.WellFormedEntries : List (String × Expr) → Prop
  | [] => True
  | entry :: rest => Expr.WellFormedEntry entry ∧ Expr.WellFormedEntries rest

def Expr.WellFormedOption : Option Expr → Prop
  | none => True
  | some expr => expr.WellFormed

/-- Whether a statement is well formed inside or outside of a loop. -/
def Statement.WellFormed (inLoop : Bool) : Statement → Prop
  | .node _ form => form.WellFormed inLoop

/-- Whether the form of a statement is well formed: jumps stand in loops, declared
functions have names, and nothing is left unread. -/
def StatementForm.WellFormed (inLoop : Bool) : StatementForm → Prop
  | .block body => Statement.WellFormedList inLoop body
  | .expression value => value.WellFormed
  | .conditional condition thenBranch elseBranch =>
    condition.WellFormed ∧ thenBranch.WellFormed inLoop ∧
      Statement.WellFormedOption inLoop elseBranch
  | .whileLoop condition body => condition.WellFormed ∧ body.WellFormed true
  | .forLoop init condition update body =>
    Statement.WellFormedOption inLoop init ∧ Expr.WellFormedOption condition ∧
      Expr.WellFormedOption update ∧ body.WellFormed true
  | .foreach _ iterable body => iterable.WellFormed ∧ body.WellFormed true
  | .declare _ _ value => value.WellFormed
  | .delete target => target.WellFormed
  | .returnValue value => Expr.WellFormedOption value
  | .breakLoop | .continueLoop => inLoop = true
  | .declareFunction definition => definition.name.isSome ∧ definition.WellFormed
  | .importLibrary _ _ | .noOp => True
  | .apply target action => target.WellFormed ∧ action.WellFormed inLoop
  | .unparsed _ => False

def Statement.WellFormedList (inLoop : Bool) : List Statement → Prop
  | [] => True
  | statement :: rest => statement.WellFormed inLoop ∧ Statement.WellFormedList inLoop rest

def Statement.WellFormedOption (inLoop : Bool) : Option Statement → Prop
  | none => True
  | some statement => statement.WellFormed inLoop

/-- Whether a function is well formed: its parameters are distinct. -/
def FunctionDef.WellFormed : FunctionDef → Prop
  | .node _ parameters body _ => parameters.Nodup ∧ body.WellFormed

/-- Whether the body of a function is well formed.  No loop around the function
counts. -/
def FunctionBody.WellFormed : FunctionBody → Prop
  | .block body => Statement.WellFormedList false body
  | .expression value => value.WellFormed

end

/-- Whether a program is well formed. -/
def Program.WellFormed (program : Program) : Prop :=
  Statement.WellFormedList false program.statements

/-! ## Well-formedness, one node at a time -/

theorem Expr.wellFormed_iff {expr : Expr} : expr.WellFormed ↔ expr.form.WellFormed := by
  cases expr
  rfl

theorem Reference.wellFormed_iff {reference : Reference} :
    reference.WellFormed ↔ reference.form.WellFormed := by
  cases reference
  rfl

theorem Statement.wellFormed_iff {inLoop : Bool} {statement : Statement} :
    statement.WellFormed inLoop ↔ statement.form.WellFormed inLoop := by
  cases statement
  rfl

theorem Expr.wellFormedList_iff {exprs : List Expr} :
    Expr.WellFormedList exprs ↔ ∀ expr ∈ exprs, expr.WellFormed := by
  induction exprs with
  | nil => simp [WellFormedList]
  | cons expr rest ih => simp [WellFormedList, ih]

theorem Expr.wellFormedEntries_iff {entries : List (String × Expr)} :
    Expr.WellFormedEntries entries ↔ ∀ entry ∈ entries, entry.2.WellFormed := by
  induction entries with
  | nil => simp [WellFormedEntries]
  | cons entry rest ih =>
    obtain ⟨key, expr⟩ := entry
    simp [WellFormedEntries, WellFormedEntry, ih]

theorem Expr.wellFormedOption_iff {option : Option Expr} :
    Expr.WellFormedOption option ↔ ∀ expr ∈ option, expr.WellFormed := by
  cases option <;> simp [WellFormedOption]

theorem Statement.wellFormedList_iff {inLoop : Bool} {statements : List Statement} :
    Statement.WellFormedList inLoop statements ↔
      ∀ statement ∈ statements, statement.WellFormed inLoop := by
  induction statements with
  | nil => simp [WellFormedList]
  | cons statement rest ih => simp [WellFormedList, ih]

theorem Statement.wellFormedOption_iff {inLoop : Bool} {option : Option Statement} :
    Statement.WellFormedOption inLoop option ↔
      ∀ statement ∈ option, statement.WellFormed inLoop := by
  cases option <;> simp [WellFormedOption]

/-- What well-formedness requires of the parts of a node. -/
def PartRules.wellFormed : PartRules where
  reference := Reference.WellFormed
  deleted := Reference.WellFormed
  chained := Expr.WellFormed
  expr := Expr.WellFormed
  statement := Statement.WellFormed
  initial := Statement.WellFormed
  function := FunctionDef.WellFormed
  checked := True

theorem ReferenceForm.wellFormed_iff {form : ReferenceForm} :
    form.WellFormed ↔ form.Keeps .wellFormed := by
  cases form <;> rfl

theorem ExprForm.wellFormed_iff {form : ExprForm} : form.WellFormed ↔ form.Keeps .wellFormed := by
  cases form with
  | array items => exact Expr.wellFormedList_iff
  | object entries => exact and_congr (forall_const True).symm Expr.wellFormedEntries_iff
  | call callee arguments => exact and_congr_right' Expr.wellFormedList_iff
  | _ => rfl

theorem StatementForm.wellFormed_iff {inLoop : Bool} {form : StatementForm} :
    form.WellFormed inLoop ↔ form.Keeps .wellFormed inLoop := by
  cases form with
  | block body => exact Statement.wellFormedList_iff
  | conditional condition thenBranch elseBranch =>
    exact and_congr_right' (and_congr_right' Statement.wellFormedOption_iff)
  | forLoop init condition update body =>
    exact and_congr Statement.wellFormedOption_iff
      (and_congr Expr.wellFormedOption_iff (and_congr_left' Expr.wellFormedOption_iff))
  | returnValue value => exact Expr.wellFormedOption_iff
  | breakLoop | continueLoop => exact (forall_const True).symm
  | declareFunction definition => exact and_congr_left' (forall_const True).symm
  | unparsed => exact not_true.symm
  | _ => rfl

end PatchScript
