import PatchScript.Proofs.Grammar.PlacedSyntax
import PatchScript.Proofs.Syntax.WellFormed

/-!
# Accepted programs are well formed

The readers check what well-formedness requires of a node whenever they build one, so
everything that is accepted is well formed.
-/

namespace PatchScript
namespace Grammar

/-- The readers check the same at every level. -/
def TreeRule.wellFormed : TreeRule where
  expr := ExprForm.WellFormed
  reference := ReferenceForm.WellFormed
  statement := StatementForm.WellFormed

/-- A body that keeps the rule belongs to a well-formed function. -/
theorem wellFormed_of_body {body : FunctionBody} (keeps : TreeRule.wellFormed.body body) :
    body.WellFormed := by
  cases body with
  | block statements =>
    exact Statement.wellFormedList_iff.mpr fun statement member =>
      Statement.wellFormed_iff.mpr (keeps statement member)
  | expression value => exact Expr.wellFormed_iff.mpr keeps

theorem wellFormed_of_clause {inLoop : Bool} {form : StatementForm}
    (keeps : TreeRule.wellFormed.clause form) : form.WellFormed inLoop := by
  cases form with
  | expression value | declare name isMutable value => exact Expr.wellFormed_iff.mpr keeps
  | _ => exact keeps.elim

theorem implies_wellFormed :
    (TreeRule.wellFormed.parts TreeRule.wellFormed).Implies .wellFormed where
  reference _ := Reference.wellFormed_iff.mpr
  deleted _ keeps := keeps
  chained _ := Expr.wellFormed_iff.mpr
  expr _ := Expr.wellFormed_iff.mpr
  statement _ _ := Statement.wellFormed_iff.mpr
  initial _ _ keeps := Statement.wellFormed_iff.mpr (wellFormed_of_clause keeps)
  function definition keeps := by
    cases definition
    exact ⟨keeps.1, wellFormed_of_body keeps.2⟩
  checked := id

theorem encloses_wellFormed : TreeRule.wellFormed.Encloses TreeRule.wellFormed where
  expr keeps := ExprForm.wellFormed_iff.mpr (keeps.imp implies_wellFormed)
  reference keeps := ReferenceForm.wellFormed_iff.mpr (keeps.imp implies_wellFormed)
  statement keeps := StatementForm.wellFormed_iff.mpr (keeps.imp implies_wellFormed)
  unwrap := id
  target := Reference.wellFormed_iff.mp

/-- An accepted program is well formed. -/
theorem wellFormed_of_programOfTokens {rules : TagRules} {tokens : List Token} {parsed : Program}
    (accepted : programOfTokens rules tokens = .ok parsed) : parsed.WellFormed :=
  Statement.wellFormedList_iff.mpr fun _ member => Statement.wellFormed_iff.mpr
    (statement_of_programOfTokens (fun _ => TreeRule.wellFormed)
      (fun _ => encloses_wellFormed) accepted member)

end Grammar

/-- A program that could be read from its source is well formed. -/
theorem Program.wellFormed_of_ofSource {source file : String} {program : Program}
    (read : Program.ofSource source file = .ok program) : program.WellFormed := by
  rw [Program.ofSource, Program.ofTaggedSource] at read
  split at read
  · cases read
  · split at read
    · cases read
    · next accepted =>
      cases read
      exact Grammar.wellFormed_of_programOfTokens accepted

end PatchScript
