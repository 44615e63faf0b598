import PatchScript.Proofs.Grammar.Pairing

/-!
# Statements of two sources side by side

A statement ends with a semicolon or with a block.  At its end reading goes on in both
sources, or the first source is closed and nothing is left to compare.  Blocks and loops with
clauses have semicolons inside, so a pairing has to say how it goes on there
(`Nested.Closes`); all other statements are read alike because their expressions are.
-/

namespace PatchScript
namespace Grammar

variable {cursor cursor' : Cursor} {pair : Pairing} {nested : Nested}

/-- A reader returns the same on both sources, or fails alike, unless it closes the first. -/
abbrev Pairing.ClosesAlike {α : Type} (pair : Pairing) (same : α → α → Prop) (reader : Parse α) :
    Prop :=
  pair.Runs pair.closed (pair.Later same) (fun _ => 0) reader reader

/-- The same at given cursors, of forms of statements that take a token. -/
structure Pairing.ClosesAt (pair : Pairing) (cursor cursor' : Cursor)
    (first second : Parse StatementForm) : Prop where
  outcome : pair.Outcome pair.closed (pair.Later StatementForm.Same) (fun _ => 1)
    cursor.remaining.length (first cursor) (second cursor')

/-- The readers for nested syntax, with statements. -/
structure Nested.Closes (pair : Pairing) (nested : Nested) : Prop where
  paired : nested.Paired pair
  statement : ∀ inLoop, pair.Runs pair.closed (pair.Later Statement.Same) (fun _ => 1)
    (nested.statement inLoop) (nested.statement inLoop)
  block : ∀ {cursor cursor'} inLoop, pair.near cursor cursor' →
    cursor.current.kind = .symbol .leftBrace →
    pair.ClosesAt cursor cursor' (StatementForm.block <$> block nested inLoop)
      (StatementForm.block <$> block nested inLoop)
  forForm : ∀ {cursor cursor'}, pair.near cursor cursor' →
    cursor.current.kind = .keyword .forWord → pair.ClosesAlike StatementForm.Same (forForm nested)

namespace Pairing

theorem closes_semicolon {same : α → α → Prop} {value value' : α} (related : same value value')
    (expected : String) :
    pair.Runs pair.closed (pair.Later same) (fun _ => 0)
      (expectSymbol .semicolon expected >>= fun _ => pure value)
      (expectSymbol .semicolon expected >>= fun _ => pure value') := by
  constructor
  intro cursor cursor' near
  by_cases last : cursor.current.kind = .symbol .semicolon
  · rw [bind_of_ok (expectSymbol_of_eq last expected),
      bind_of_ok (expectSymbol_of_eq (pair.kind near ▸ last) expected)]
    rcases pair.takeLast near last with ⟨continues, nearAfter⟩ | closed
    · exact .ok ⟨⟨continues, related⟩, nearAfter, length_advance_le cursor⟩
    · exact .ended closed
  · rw [Parse.bind_congr (expectSymbol_of_ne last expected),
      Parse.bind_congr (expectSymbol_of_ne (pair.kind near ▸ last) expected)]
    have fails : pair.ReadsAlike (fun _ _ : Unit => False) (failExpected expected) :=
      runs_failExpected expected
    exact (fails.bind False.elim).outcome near

section Paired

variable (paired : nested.Paired pair)

include paired

theorem closes_declarationForm (isMutable : Bool) :
    pair.ClosesAlike StatementForm.Same (declarationForm nested isMutable) := by
  apply (reads_takeName _).bind
  rintro name _ rfl
  refine (reads_expectSymbol (free_symbol (by decide)) _).bind fun _ =>
    (reads_whole paired).bind fun value => closes_semicolon ?_ _
  simp [StatementForm.Same, StatementForm.unplaced, value.unplaced]

theorem closes_deleteForm : pair.ClosesAlike StatementForm.Same (deleteForm nested) := by
  refine (reads_whole paired).bind fun value =>
    (reads_requireReference value _).bind fun target => closes_semicolon ?_ _
  simp [StatementForm.Same, StatementForm.unplaced, target]

theorem closes_returnForm : pair.ClosesAlike StatementForm.Same (returnForm nested) := by
  refine (reads_unlessSymbol paired _).bind fun value => closes_semicolon ?_ _
  simp [StatementForm.Same, StatementForm.unplaced, value]

omit paired in
theorem closes_jumpForm (inLoop : Bool) {token token' : PatchScript.Token}
    (same : pair.Token token token') (form : StatementForm) :
    pair.Runs pair.closed (pair.Later StatementForm.Same) (fun _ => 0) (jumpForm inLoop token form)
      (jumpForm inLoop token' form) := by
  rw [jumpForm, jumpForm, ← same.kind]
  have unchanged : form.Same form := rfl
  exact .ite (fun _ => closes_semicolon unchanged _) (fun _ => runs_failing _ same.span)

theorem closes_functionDeclaration (start start' : Span) :
    pair.Runs pair.closed (pair.Later StatementForm.Same) (fun _ => 0)
      (functionDeclaration nested start) (functionDeclaration nested start') := by
  apply (reads_takeName _).bind
  rintro name _ rfl
  apply reads_functionParameters.bind
  rintro parameters _ rfl
  refine paired.body.bind fun body => reads_previousSpan.bind fun _ => .pure ⟨body.1, ?_⟩
  simp [StatementForm.Same, StatementForm.unplaced, body.2]

omit paired in
theorem closes_importForm : pair.ClosesAlike StatementForm.Same importForm := by
  apply runs_taken fun _ _ => ⟨_, rfl, rfl⟩
  rintro ⟨kind, span⟩ ⟨_, span'⟩ ⟨rfl, placed⟩
  dsimp only
  split
  · next library =>
    apply (reads_takeKeyword _).bind
    rintro named _ rfl
    have rest {binding binding' : String} (same : binding = binding') :
        pair.Runs pair.closed (pair.Later StatementForm.Same) (fun _ => 0)
          (expectSymbol .semicolon "';' after import" >>= fun _ =>
            Pure.pure (.importLibrary library binding))
          (expectSymbol .semicolon "';' after import" >>= fun _ =>
            Pure.pure (.importLibrary library binding')) :=
      closes_semicolon (by rw [same]) _
    refine .ite (fun _ => (reads_takeName _).bind rest) (fun _ => ?_)
    exact .ite (fun _ => (Runs.pure rfl).bind rest) (fun _ => runs_failing _ placed)
  · exact runs_failAt _ placed

theorem closes_expressionForm :
    pair.Runs pair.closed (pair.Later StatementForm.Same) (fun _ => 1) (expressionForm nested)
      (expressionForm nested) := by
  refine (paired.expression _).takes fun value => closes_semicolon ?_ _
  simp [StatementForm.Same, StatementForm.unplaced, value.unplaced]

end Paired

section Closes

variable (closes : nested.Closes pair) (inLoop : Bool)

include closes

theorem closes_statement : pair.ClosesAlike Statement.Same (nested.statement inLoop) :=
  (closes.statement inLoop).reads

theorem closes_conditionalForm :
    pair.ClosesAlike StatementForm.Same (conditionalForm nested inLoop) := by
  refine (reads_condition closes.paired).bind fun test => ?_
  refine (closes_statement closes inLoop).andThen (fun thenBranch => ?_) ?_
  · apply (reads_takeKeyword _).bind
    rintro hasElse _ rfl
    have present : pair.ClosesAlike
        (fun read read' => Statement.unplacedOption read = Statement.unplacedOption read')
        (some <$> nested.statement inLoop) :=
      (closes_statement closes inLoop).map fun same => ⟨same.1, congrArg some same.2⟩
    refine .ite (fun _ => present.result fun elseBranch => ⟨elseBranch.1, ?_⟩)
      (fun _ => .pure ⟨thenBranch.1, ?_⟩)
    · simp [StatementForm.Same, StatementForm.unplaced, test.unplaced, thenBranch.2, elseBranch.2]
    · simp [StatementForm.Same, StatementForm.unplaced, test.unplaced, thenBranch.2]
  · -- Nothing is left, so there is no second branch.
    intro after thenBranch closed
    have noElse : after.current.kind ≠ .keyword .elseWord := by
      simp [Cursor.current, pair.ended closed]
    rw [bind_of_ok (takeKeyword_of_ne noElse)]
    exact ⟨_, rfl⟩

theorem closes_whileForm : pair.ClosesAlike StatementForm.Same (whileForm nested) :=
  (reads_condition closes.paired).bind fun test => (closes_statement closes true).result fun body =>
    ⟨body.1, by simp [StatementForm.Same, StatementForm.unplaced, test.unplaced, body.2]⟩

theorem closes_foreachForm : pair.ClosesAlike StatementForm.Same (foreachForm nested) := by
  refine (reads_expectSymbol (free_symbol (by decide)) _).bind fun _ => ?_
  apply (reads_takeName _).bind
  rintro name _ rfl
  refine (reads_expectKeyword _ _).bind fun _ => ?_
  refine (reads_whole closes.paired).bind fun iterable => ?_
  refine (reads_expectSymbol (free_symbol (by decide)) _).bind fun _ => ?_
  refine (closes_statement closes true).result fun body => ⟨body.1, ?_⟩
  simp [StatementForm.Same, StatementForm.unplaced, iterable.unplaced, body.2]

theorem closes_applyForm : pair.ClosesAlike StatementForm.Same (applyForm nested inLoop) := by
  refine (reads_condition closes.paired).bind fun target => ?_
  refine (closes_statement closes inLoop).result fun action => ⟨action.1, ?_⟩
  simp [StatementForm.Same, StatementForm.unplaced, target.unplaced, action.2]

theorem closesAt_statementFormBy (near : pair.near cursor cursor') :
    pair.ClosesAt cursor cursor'
      (statementFormBy nested inLoop cursor.current cursor.following.kind)
      (statementFormBy nested inLoop cursor'.current cursor'.following.kind) := by
  have same := token_current near
  have placed := same.span
  have whole {first second : Parse StatementForm}
      (runs : pair.Runs pair.closed (pair.Later StatementForm.Same) (fun _ => 1) first second) :
      pair.ClosesAt cursor cursor' first second := ⟨runs.outcome near⟩
  have expression := whole (closes_expressionForm closes.paired)
  -- A form that is read after its keyword.
  have after {keyword : Keyword} {reader reader' : Parse StatementForm}
      (found : cursor.current.kind = .keyword keyword)
      (runs : pair.Runs pair.closed (pair.Later StatementForm.Same) (fun _ => 0) reader reader') :
      pair.ClosesAt cursor cursor' (advance >>= fun _ => reader) (advance >>= fun _ => reader') := by
    have shorter : cursor.advance.remaining.length < cursor.remaining.length :=
      length_advance_lt (found ▸ nofun)
    constructor
    rw [advance_bind, advance_bind]
    exact (runs.outcome (pair.take near (found ▸ pair.free_of_ne nofun))).imp
      (Nat.le_of_lt shorter) fun _ => by omega
  have following := pair.following near
  unfold statementFormBy
  rw [← same.kind]
  split
  · next found => exact closes.block inLoop near found
  · next found =>
    constructor
    rw [advance_bind, advance_bind]
    rcases pair.takeLast near found with ⟨continues, nearAfter⟩ | closed
    · exact .ok ⟨⟨continues, rfl⟩, nearAfter, length_advance_lt (found ▸ nofun)⟩
    · exact .ended closed
  · exact whole (runs_failAt _ placed)
  · exact whole (runs_failAt _ placed)
  · next found => exact after found (closes_conditionalForm closes inLoop)
  · next found => exact after found (closes_whileForm closes)
  · next found => exact after found (closes.forForm near found)
  · next found => exact after found (closes_foreachForm closes)
  · next found => exact after found (closes_declarationForm closes.paired true)
  · next found => exact after found (closes_declarationForm closes.paired false)
  · next found => exact after found (closes_deleteForm closes.paired)
  · next found => exact after found (closes_returnForm closes.paired)
  · next found => exact after found (closes_jumpForm inLoop same .breakLoop)
  · next found => exact after found (closes_jumpForm inLoop same .continueLoop)
  · next found => exact after found (closes_applyForm closes inLoop)
  · next found =>
    rw [← following (found ▸ nofun)]
    split
    · exact after found (closes_functionDeclaration closes.paired _ _)
    · exact expression
  · next found =>
    rw [← following (found ▸ nofun)]
    split
    · exact after found closes_importForm
    · exact expression
  · exact expression

theorem closes_statementWith :
    pair.Runs pair.closed (pair.Later Statement.Same) (fun _ => 1) (statementWith nested inLoop)
      (statementWith nested inLoop) := by
  apply reads_peek.bind
  intro token token' _
  have form : pair.Runs pair.closed (pair.Later StatementForm.Same) (fun _ => 1)
      (statementForm nested inLoop) (statementForm nested inLoop) :=
    ⟨fun near => (closesAt_statementFormBy closes inLoop near).outcome⟩
  refine form.andThen (fun form => ?_) fun _ _ => ⟨_, rfl⟩
  refine reads_previousSpan.bind fun _ => .pure ⟨form.1, ?_⟩
  simp only [Statement.Same, Statement.unplaced, form.2]

end Closes

end Pairing
end Grammar
end PatchScript
