import PatchScript.Proofs.Syntax.Parts
import PatchScript.Syntax.Height

/-!
# Bounds on the height of syntax trees

A bound on the height of a node is a bound on the heights of its parts.
-/

namespace PatchScript

variable {chained bound : Nat}

theorem Expr.height_eq (expr : Expr) : expr.height chained = expr.form.height chained := by
  cases expr
  rfl

theorem Reference.height_eq (reference : Reference) :
    reference.height chained = reference.form.height chained := by
  cases reference
  rfl

theorem Statement.height_eq (statement : Statement) :
    statement.height chained = statement.form.height chained := by
  cases statement
  rfl

theorem FunctionDef.height_eq (definition : FunctionDef) :
    definition.height chained = definition.body.height chained := by
  cases definition
  rfl

/-! ## Where every node counts -/

theorem ReferenceForm.height_pos (form : ReferenceForm) : 0 < form.height 1 := by
  cases form <;> simp only [height] <;> omega

theorem ExprForm.height_pos (form : ExprForm) : 0 < form.height 1 := by
  cases form with
  | reference target | update target =>
    simp only [height, Reference.height_eq]
    exact target.form.height_pos
  | _ =>
    simp only [height]
    omega

theorem StatementForm.height_pos (form : StatementForm) : 0 < form.height 1 := by
  cases form with
  | delete target =>
    simp only [height, Reference.height_eq]
    exact target.form.height_pos
  | _ =>
    simp only [height]
    omega

/-! ## Bounds -/

theorem Expr.heightList_le_iff {exprs : List Expr} :
    Expr.heightList chained exprs ≤ bound ↔ ∀ expr ∈ exprs, expr.height chained ≤ bound := by
  induction exprs with
  | nil => simp [heightList]
  | cons expr rest ih => simp [heightList, Nat.max_le, ih]

theorem Expr.heightEntries_le_iff {entries : List (String × Expr)} :
    Expr.heightEntries chained entries ≤ bound ↔
      ∀ entry ∈ entries, entry.2.height chained ≤ bound := by
  induction entries with
  | nil => simp [heightEntries]
  | cons entry rest ih =>
    obtain ⟨key, expr⟩ := entry
    simp [heightEntries, heightEntry, Nat.max_le, ih]

theorem Expr.heightOption_le_iff {option : Option Expr} :
    Expr.heightOption chained option ≤ bound ↔ ∀ expr ∈ option, expr.height chained ≤ bound := by
  cases option <;> simp [heightOption]

theorem Statement.heightList_le_iff {statements : List Statement} :
    Statement.heightList chained statements ≤ bound ↔
      ∀ statement ∈ statements, statement.height chained ≤ bound := by
  induction statements with
  | nil => simp [heightList]
  | cons statement rest ih => simp [heightList, Nat.max_le, ih]

theorem Statement.heightOption_le_iff {above : Nat} {option : Option Statement} :
    Statement.heightOption chained above option ≤ bound ↔
      ∀ statement ∈ option, above + statement.height chained ≤ bound := by
  cases option <;> simp [heightOption]

/-- What a bound on the height of a node requires of its parts. -/
def PartRules.height (chained bound : Nat) : PartRules where
  reference target := target.height chained ≤ bound + 1
  deleted target := target.height chained ≤ bound + 1
  chained expr := chained + expr.height chained ≤ bound + 1
  expr expr := expr.height chained ≤ bound
  statement _ statement := statement.height chained ≤ bound
  initial _ statement := chained + statement.height chained ≤ bound + 1
  function definition := definition.height chained ≤ bound
  checked := False

theorem ReferenceForm.height_le_iff {form : ReferenceForm} :
    form.height chained ≤ bound + 1 ↔ form.Keeps (.height chained bound) := by
  cases form with
  | property target name => rfl
  | index target key => simp [height, Keeps, PartRules.height, Nat.max_le, Nat.add_comm 1]
  | _ => simp [height, Keeps]

theorem ExprForm.height_le_iff {form : ExprForm} :
    form.height chained ≤ bound + 1 ↔ form.Keeps (.height chained bound) := by
  cases form <;>
    simp [height, Keeps, PartRules.height, Nat.max_le, Nat.add_comm 1, Expr.heightList_le_iff,
      Expr.heightEntries_le_iff]

theorem StatementForm.height_le_iff {inLoop : Bool} {form : StatementForm} :
    form.height chained ≤ bound + 1 ↔ form.Keeps (.height chained bound) inLoop := by
  cases form <;>
    simp [height, Keeps, PartRules.height, Nat.max_le, Nat.add_comm 1, Expr.heightOption_le_iff,
      Statement.heightList_le_iff, Statement.heightOption_le_iff]

end PatchScript
