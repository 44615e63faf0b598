import PatchScript.Proofs.Grammar.PlacedSyntax
import PatchScript.Proofs.Grammar.RoundTrip
import PatchScript.Proofs.Syntax.Height

/-!
# How deeply accepted programs are nested

The readers go one level deeper for every part of a node, and fail when no level is left.
So the levels of an accepted program never exceed the limit.

Levels are not nodes.  An operator takes in the expression before it, and a loop its first
clause, on the level they stand on.  The nodes on a path through an accepted program are
therefore not limited at all: a chain of properties is as high as it is long.
-/

namespace PatchScript
namespace Grammar

/-! ## Levels are limited -/

/-- What can be read with some levels left has at most as many. -/
def TreeRule.levels (depth : Nat) : TreeRule where
  expr form := form.height 0 ≤ depth
  reference form := form.height 0 ≤ depth
  statement _ form := form.height 0 ≤ depth

theorem height_le_of_body {depth : Nat} {body : FunctionBody}
    (keeps : (TreeRule.levels depth).body body) : body.height 0 ≤ depth := by
  cases body with
  | block statements =>
    apply Statement.heightList_le_iff.mpr
    intro statement member
    rw [Statement.height_eq]
    exact keeps statement member
  | expression value =>
    rw [FunctionBody.height, Expr.height_eq]
    exact keeps

theorem height_le_of_clause {depth : Nat} {form : StatementForm}
    (keeps : (TreeRule.levels depth).clause form) : form.height 0 ≤ depth + 1 := by
  cases form with
  | expression value | declare name isMutable value =>
    rw [StatementForm.height, Expr.height_eq, Nat.add_comm]
    exact Nat.succ_le_succ keeps
  | _ => exact keeps.elim

theorem implies_levels (depth : Nat) :
    ((TreeRule.levels (depth + 1)).parts (TreeRule.levels depth)).Implies (.height 0 depth) where
  reference target keeps := by
    simp only [PartRules.height, Reference.height_eq]
    exact keeps
  deleted target keeps := Nat.le_succ_of_le keeps
  chained expr keeps := by
    simp only [PartRules.height, Nat.zero_add, Expr.height_eq]
    exact keeps
  expr expr keeps := by
    simp only [PartRules.height, Expr.height_eq]
    exact keeps
  statement inLoop statement keeps := by
    simp only [PartRules.height, Statement.height_eq]
    exact keeps
  initial inLoop statement keeps := by
    simp only [PartRules.height, Nat.zero_add, Statement.height_eq]
    exact height_le_of_clause keeps
  function definition keeps := by
    simp only [PartRules.height, FunctionDef.height_eq]
    exact height_le_of_body keeps.2
  checked := False.elim

theorem encloses_levels (depth : Nat) :
    (TreeRule.levels (depth + 1)).Encloses (TreeRule.levels depth) where
  expr keeps := ExprForm.height_le_iff.mpr (keeps.imp (implies_levels depth))
  reference keeps := ReferenceForm.height_le_iff.mpr (keeps.imp (implies_levels depth))
  statement keeps := StatementForm.height_le_iff.mpr (keeps.imp (implies_levels depth))
  unwrap := Nat.le_succ_of_le
  target {target} keeps := by
    simp only [TreeRule.levels, ← Reference.height_eq]
    exact keeps

/-! ## Nodes are not -/

/-- A number of properties after an expression, and the end of the statement. -/
def propertyTokens : Nat → List Token
  | 0 => [unplacedToken (.symbol .semicolon)]
  | count + 1 =>
    unplacedToken (.symbol .dot) :: unplacedToken (.word "next") :: propertyTokens count

/-- An expression that a number of properties is taken from. -/
def propertyChain : Nat → Expr
  | 0 => .node .nowhere (.reference (.node .nowhere (.bare "first")))
  | count + 1 =>
    .node .nowhere (.reference (.node .nowhere (.property (propertyChain count) "next")))

section Chain

variable {cursor : Cursor} (count : Nat)

theorem printable_propertyChain : (propertyChain count).Printable := by
  induction count with
  | zero => trivial
  | succ count ih => exact ih

/-- A property needs no parentheses around what it is taken from. -/
theorem bare_propertyChain :
    (Printing.weakerThan .trailing (propertyChain count).strength || false) = false := by
  cases count <;> rfl

theorem nesting_propertyChain : (propertyChain count).nesting (fun _ => false) = 1 := by
  induction count with
  | zero => rfl
  | succ count ih =>
    simp only [propertyChain, Expr.nesting, ExprForm.nesting, Reference.nesting,
      ReferenceForm.nesting, bare_propertyChain]
    exact ih

/-- Every property makes the expression higher by one. -/
theorem height_propertyChain : (propertyChain count).height 1 = count + 1 := by
  induction count with
  | zero => rfl
  | succ count ih =>
    simp only [propertyChain, Expr.height, ExprForm.height, Reference.height, ReferenceForm.height,
      ih]
    omega

theorem shows_propertyChain (more : Nat)
    (remaining : cursor.remaining =
      unplacedToken (.word "first") :: propertyTokens (count + more)) :
    ∃ after, Cursor.Shows ((propertyChain count).pieces fun _ => false) cursor after ∧
      after.remaining = propertyTokens more ∧ after.errors = cursor.errors := by
  induction count generalizing more with
  | zero =>
    refine ⟨cursor.advance, ⟨by simp [remaining], ?_, rfl⟩, ?_, cursor.errors_advance⟩
    · exact congrArg Token.kind (Cursor.current_of_remaining remaining)
    · simp [Cursor.remaining_advance, remaining]
  | succ count ih =>
    obtain ⟨middle, shows, left, errors⟩ := ih (more + 1) (by rw [remaining, Nat.succ_add_eq_add_succ])
    have next : middle.advance.remaining = unplacedToken (.word "next") :: propertyTokens more := by
      simp [Cursor.remaining_advance, left, propertyTokens]
    refine ⟨middle.advance.advance, ?_, by rw [Cursor.remaining_advance, next]; rfl, ?_⟩
    · simp only [propertyChain, Expr.pieces, ExprForm.pieces, Reference.pieces,
        ReferenceForm.pieces, bare_propertyChain]
      refine Cursor.shows_append.mpr ⟨middle, shows, by simp [left, propertyTokens], ?_, ?_⟩
      · exact congrArg Token.kind (Cursor.current_of_remaining left)
      · exact ⟨by simp [next], .inl (congrArg Token.kind (Cursor.current_of_remaining next)), rfl⟩
    · rw [Cursor.errors_advance, Cursor.errors_advance, errors]

end Chain

/-- A statement that follows a chain of properties. -/
def propertyStatement (count : Nat) : List Token :=
  unplacedToken (.word "first") :: propertyTokens count

/-- A chain of properties is read as a statement that is higher than it has properties. -/
theorem statement_properties (count depth : Nat) {cursor : Cursor}
    (remaining : cursor.remaining = propertyStatement count) :
    ∃ span value after,
      statement (depth + 2) false cursor = .ok (.node span (.expression value)) after ∧
      after.remaining = [] ∧ after.errors = cursor.errors ∧ count < value.height 1 := by
  obtain ⟨last, shows, left, errors⟩ := shows_propertyChain count 0 remaining
  have semicolon := congrArg Token.kind (Cursor.current_of_remaining left)
  obtain ⟨value, same, whole⟩ :=
    ReadsBack.whole (readsBack_of_printable _ (printable_propertyChain count))
      ((nesting_propertyChain count).trans_le (Nat.succ_pos depth)) shows (by rw [semicolon]; rfl)
  have chosen : statementForm (nestedTo (depth + 1)) false cursor =
      expressionForm (nestedTo (depth + 1)) cursor := by
    obtain ⟨_, endSpan, previous, errors, aborted⟩ := cursor
    subst remaining
    rfl
  rw [expressionForm, bind_of_ok whole, bind_of_ok (expectSymbol_of_eq semicolon _)] at chosen
  have read : statementWith (nestedTo (depth + 1)) false cursor =
      .ok (.node (cursor.current.span.through last.advance.previous) (.expression value))
        last.advance := by
    rw [statementWith, peek_bind, bind_of_ok chosen]
    rfl
  refine ⟨_, value, _, read, ?_, last.errors_advance.trans errors, ?_⟩
  · rw [Cursor.remaining_advance, left]
    rfl
  · rw [← Expr.height_unplaced, same, Expr.height_unplaced, height_propertyChain]
    exact Nat.lt_succ_self count

theorem remaining_ofTokens_propertyStatement (count : Nat) :
    (Cursor.ofTokens (propertyStatement count)).remaining = propertyStatement count := by
  have noEnd : ∀ count, (propertyTokens count).takeWhile (fun token => !Cursor.isEndMark token) =
      propertyTokens count := by
    intro count
    induction count with
    | zero => rfl
    | succ count ih => exact congrArg (fun rest => unplacedToken _ :: unplacedToken _ :: rest) ih
  exact congrArg (List.cons _) (noEnd count)

/-- A chain of properties is accepted, however long it is. -/
theorem exists_program_properties (rules : TagRules) (count : Nat) :
    ∃ program,
      programOfTokens rules (propertyStatement count) = .ok program ∧
      count < program.height 1 := by
  have remaining := remaining_ofTokens_propertyStatement count
  obtain ⟨span, value, after, read, all, none, higher⟩ := statement_properties count 198 remaining
  refine ⟨_, programOfTokens_of_statement rules ?_ ?_ read all none, ?_⟩
  · rw [remaining]
    exact List.cons_ne_nil _ _
  · rw [Cursor.current_of_remaining remaining]
    exact nofun
  · calc
      count < value.height 1 := higher
      _ ≤ 1 + value.height 1 := Nat.le_add_left _ _
      _ ≤ max (1 + value.height 1) 0 := Nat.le_max_left _ _

/-- The limit is no limit on the nodes of a path. -/
theorem not_height_le_maxNesting :
    ¬ ∀ (rules : TagRules) (tokens : List Token) (program : Program),
      programOfTokens rules tokens = .ok program → program.height 1 ≤ maxNesting := by
  intro limited
  obtain ⟨program, accepted, higher⟩ := exists_program_properties .standard maxNesting
  exact Nat.not_lt.mpr (limited _ _ program accepted) higher

/-- The statements and expressions of an accepted program that are written one inside the
other are at most as many as the limit allows. -/
theorem levels_le_maxNesting {rules : TagRules} {tokens : List Token} {program : Program}
    (accepted : programOfTokens rules tokens = .ok program) : program.height 0 ≤ maxNesting := by
  apply Statement.heightList_le_iff.mpr
  intro statement member
  rw [Statement.height_eq]
  exact statement_of_programOfTokens TreeRule.levels encloses_levels accepted member

theorem levels_le_maxNesting_properties :
    ∃ program,
      programOfTokens .standard (propertyStatement 1000) = .ok program ∧
      program.height 0 ≤ maxNesting ∧ 1000 < program.height 1 := by
  obtain ⟨program, accepted, higher⟩ := exists_program_properties .standard 1000
  exact ⟨program, accepted, levels_le_maxNesting accepted, higher⟩

end Grammar
end PatchScript
