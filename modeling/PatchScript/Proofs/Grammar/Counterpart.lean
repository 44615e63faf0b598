import PatchScript.Proofs.Grammar.PairedStatements
import PatchScript.Proofs.Grammar.Steady

/-!
# Sources that differ only in places

A source and a counterpart of it have the same kinds of tokens.  Then programs, statements
and blocks are read alike: the same syntax up to places, and the same errors at
corresponding places, whatever was recorded before.
-/

namespace PatchScript
namespace Grammar

variable {cursor : Cursor} {bound : Nat}

/-- A source and its counterpart: which places correspond, and what was recorded before
either was read. -/
structure Counterpart where
  place : Span → Span → Prop
  recorded : List ParseError
  recorded' : List ParseError
  /-- How many tokens there are. -/
  total : Nat
  through : ∀ {start start' stop stop'}, place start start' → place stop stop' →
    place (start.through stop) (start'.through stop')

namespace Counterpart

variable {cursor' : Cursor} {statements statements' : List Statement} {error : ParseError}

/-- The tokens of two sources correspond. -/
def Tokens (sources : Counterpart) (tokens tokens' : List Token) : Prop :=
  List.Forall₂ (fun token token' => token.kind = token'.kind ∧ sources.place token.span token'.span)
    tokens tokens'

/-- The errors of two sources correspond. -/
def Errors (sources : Counterpart) (errors errors' : List ParseError) : Prop :=
  List.Forall₂
    (fun error error' => error.message = error'.message ∧ sources.place error.span error'.span)
    errors errors'

/-- Two cursors stand at corresponding tokens, and correspond in what was recorded since the
beginning. -/
structure Cursors (sources : Counterpart) (cursor cursor' : Cursor) : Prop where
  tokens : sources.Tokens cursor.remaining cursor'.remaining
  endSpan : sources.place cursor.endSpan cursor'.endSpan
  le_total : cursor.remaining.length ≤ sources.total
  /-- The tokens taken last correspond, once one was taken. -/
  previous : cursor.remaining.length < sources.total →
    sources.place cursor.previous cursor'.previous
  errors : ∃ found found', cursor.errors = sources.recorded ++ found ∧
    cursor'.errors = sources.recorded' ++ found' ∧ sources.Errors found found'
  aborted : cursor.aborted = cursor'.aborted

variable {sources : Counterpart}

namespace Cursors

variable (alike : sources.Cursors cursor cursor')

include alike

theorem current :
    cursor.current.kind = cursor'.current.kind ∧
      sources.place cursor.current.span cursor'.current.span := by
  have tokens := alike.tokens
  have ends := alike.endSpan
  unfold Cursor.current
  generalize cursor.remaining = remaining at tokens
  generalize cursor'.remaining = remaining' at tokens
  cases tokens with
  | nil => exact ⟨rfl, ends⟩
  | cons same rest => exact same

theorem following_kind : cursor.following.kind = cursor'.following.kind := by
  have tokens := alike.tokens
  unfold Cursor.following
  generalize cursor.remaining = remaining at tokens
  generalize cursor'.remaining = remaining' at tokens
  cases tokens with
  | nil => rfl
  | cons same rest =>
    cases rest with
    | nil => rfl
    | cons sameNext rest => exact sameNext.1

theorem atEnd_eq : cursor.atEnd = cursor'.atEnd := by
  have tokens := alike.tokens
  unfold Cursor.atEnd
  generalize cursor.remaining = remaining at tokens
  generalize cursor'.remaining = remaining' at tokens
  cases tokens <;> rfl

theorem advance : sources.Cursors cursor.advance cursor'.advance := by
  obtain ⟨remaining, endSpan, previous, errors, aborted⟩ := cursor
  obtain ⟨remaining', endSpan', previous', errors', aborted'⟩ := cursor'
  obtain ⟨tokens, ends, le, before, recorded, gaveUp⟩ := alike
  dsimp only at tokens ends le before recorded gaveUp
  cases tokens with
  | nil => exact ⟨.nil, ends, le, before, recorded, gaveUp⟩
  | cons same rest => exact ⟨rest, ends, Nat.le_of_succ_le le, fun _ => same.2, recorded, gaveUp⟩

end Cursors

/-- Reading a source and its counterpart side by side. -/
def pairing (sources : Counterpart) : Pairing where
  place := sources.place
  near := sources.Cursors
  fault := sources.Cursors
  closed _ := False
  continues := True
  free _ := True
  surplus := 0
  through := sources.through
  length alike := (List.Forall₂.length_eq alike.tokens).symm
  kind alike := alike.current.1
  span alike := alike.current.2
  following alike _ := alike.following_kind
  previous alike later moved := later.previous (Nat.lt_of_lt_of_le moved alike.le_total)
  stay := id
  take alike _ := alike.advance
  free_of_ne _ := trivial
  takeLast alike _ := .inl ⟨trivial, alike.advance⟩
  takeFaulty := Cursors.advance
  ended := False.elim

/-- Any token can be taken. -/
theorem reads_advance : sources.pairing.ReadsAlike sources.pairing.Token advance :=
  ⟨fun near => .ok ⟨Pairing.token_current near, Cursors.advance near, Pairing.length_advance_le _⟩⟩

/-! ## Recovery -/

section Recover

variable (error : ParseError) (startLength : Nat)

theorem recover_of_aborted (gaveUp : cursor.aborted = true) :
    cursor.recover error startLength = cursor := by
  simp [Cursor.recover, gaveUp]

theorem recover_of_atEnd (active : cursor.aborted = false) (atEnd : cursor.atEnd = true) :
    cursor.recover error startLength =
      { cursor with errors := cursor.errors ++ [error], aborted := true } := by
  have ended : cursor.remaining = [] := List.isEmpty_iff.mp atEnd
  simp [Cursor.recover, Cursor.atEnd, active, ended]

theorem recover_of_tokens (active : cursor.aborted = false) (more : cursor.atEnd = false) :
    cursor.recover error startLength =
      { cursor with errors := cursor.errors ++ [error] }.synchronize startLength := by
  have tokens : cursor.remaining ≠ [] := List.isEmpty_eq_false_iff.mp more
  simp [Cursor.recover, Cursor.atEnd, active, tokens]

end Recover

theorem tokens_skipFaulty {tokens tokens' : List Token} (alike : sources.Tokens tokens tokens')
    (depth : Nat) {previous previous' : Span}
    (before : tokens.length < sources.total → sources.place previous previous') :
    ((skipFaulty depth previous tokens).2.length < sources.total →
      sources.place (skipFaulty depth previous tokens).1 (skipFaulty depth previous' tokens').1) ∧
      sources.Tokens (skipFaulty depth previous tokens).2
        (skipFaulty depth previous' tokens').2 := by
  induction alike generalizing depth previous previous' with
  | nil => exact ⟨before, .nil⟩
  | @cons token token' rest rest' same alike ih =>
    obtain ⟨kind, span⟩ := token
    obtain ⟨_, span'⟩ := token'
    obtain ⟨rfl, placed⟩ := same
    simp only [skipFaulty]
    split
    · split
      · exact ⟨fun _ => placed, alike⟩
      · exact ih depth fun _ => placed
    · exact ih (depth + 1) fun _ => placed
    · split
      · exact ⟨before, .cons ⟨rfl, placed⟩ alike⟩
      · split
        · exact ⟨fun _ => placed, alike⟩
        · exact ih (depth - 1) fun _ => placed
    · exact ih depth fun _ => placed

theorem length_skipFaulty_le (cursor : Cursor) :
    (skipFaulty 0 cursor.previous cursor.remaining).2.length ≤ cursor.remaining.length := by
  obtain ⟨count, skipped⟩ := exists_iterate_skipFaulty 0 cursor
  have left := congrArg (·.remaining.length) skipped
  simp only [Cursor.remaining_iterate_advance, List.length_drop] at left
  omega

section

variable (alike : sources.Cursors cursor cursor')
include alike

/-- One more error is recorded on either side. -/
theorem Cursors.record {error' : ParseError} (same : sources.pairing.Error error error') :
    sources.Cursors { cursor with errors := cursor.errors ++ [error] }
      { cursor' with errors := cursor'.errors ++ [error'] } := by
  obtain ⟨found, found', first, second, errors⟩ := alike.errors
  refine ⟨alike.tokens, alike.endSpan, alike.le_total, alike.previous, ?_, alike.aborted⟩
  refine ⟨found ++ [error], found' ++ [error'], ?_, ?_, ?_⟩
  · rw [first, List.append_assoc]
  · rw [second, List.append_assoc]
  · exact List.rel_append errors (.cons ⟨same.message, same.span⟩ .nil)

theorem Cursors.synchronize (startLength : Nat) :
    sources.Cursors (cursor.synchronize startLength) (cursor'.synchronize startLength) := by
  obtain ⟨placed, tokens⟩ := tokens_skipFaulty alike.tokens 0 alike.previous
  have skipped : sources.Cursors
      { cursor with
        previous := (skipFaulty 0 cursor.previous cursor.remaining).1
        remaining := (skipFaulty 0 cursor.previous cursor.remaining).2 }
      { cursor' with
        previous := (skipFaulty 0 cursor'.previous cursor'.remaining).1
        remaining := (skipFaulty 0 cursor'.previous cursor'.remaining).2 } :=
    ⟨tokens, alike.endSpan, Nat.le_trans (length_skipFaulty_le _) alike.le_total, placed,
      alike.errors, alike.aborted⟩
  simp only [Cursor.synchronize]
  rw [← List.Forall₂.length_eq tokens]
  split
  · exact skipped.advance
  · exact skipped

theorem Cursors.recover {error' : ParseError} (same : sources.pairing.Error error error')
    (startLength : Nat) :
    sources.Cursors (cursor.recover error startLength) (cursor'.recover error' startLength) := by
  have recorded := alike.record same
  cases gaveUp : cursor.aborted with
  | true =>
    rw [recover_of_aborted error _ gaveUp, recover_of_aborted error' _ (alike.aborted ▸ gaveUp)]
    exact alike
  | false =>
    have active' := alike.aborted ▸ gaveUp
    cases ended : cursor.atEnd with
    | true =>
      rw [recover_of_atEnd error _ gaveUp ended,
        recover_of_atEnd error' _ active' (alike.atEnd_eq ▸ ended)]
      exact ⟨recorded.tokens, recorded.endSpan, recorded.le_total, recorded.previous,
        recorded.errors, rfl⟩
    | false =>
      rw [recover_of_tokens error _ gaveUp ended,
        recover_of_tokens error' _ active' (alike.atEnd_eq ▸ ended)]
      exact recorded.synchronize startLength

end

/-- Reading goes on after recovery only if a token was taken since the start. -/
theorem length_recover_lt {startLength : Nat}
    (goesOn : (cursor.recover error startLength).aborted = false)
    (le : cursor.remaining.length ≤ startLength) :
    (cursor.recover error startLength).remaining.length < startLength := by
  cases gaveUp : cursor.aborted with
  | true =>
    rw [recover_of_aborted error _ gaveUp, gaveUp] at goesOn
    cases goesOn
  | false =>
    cases ended : cursor.atEnd with
    | true =>
      rw [recover_of_atEnd error _ gaveUp ended] at goesOn
      cases goesOn
    | false =>
      have positive := List.length_pos_iff.mpr (List.isEmpty_eq_false_iff.mp ended)
      have skipped := length_skipFaulty_le cursor
      rw [recover_of_tokens error _ gaveUp ended]
      simp only [Cursor.synchronize]
      split
      · next unmoved =>
        rw [Cursor.remaining_advance, List.length_tail]
        dsimp only
        omega
      · next moved =>
        dsimp only at moved ⊢
        omega

/-- The readers for nested syntax read a source and its counterpart alike. -/
structure Matches (sources : Counterpart) (nested : Nested) : Prop where
  expression : ∀ floor, sources.pairing.TakesAlike sources.pairing.Same (nested.expression floor)
  statement : ∀ inLoop, sources.pairing.TakesAlike (sources.pairing.Later Statement.Same)
    (nested.statement inLoop)

section Nested

open Pairing

variable {nested : Nested} (alike : sources.Matches nested) (inLoop : Bool)

include alike

/-- A statement is read, or skipped and replaced, alike.  Reading goes on only if a token was
taken. -/
theorem runs_recoveringStatement :
    sources.pairing.Runs (fun _ => False)
      (fun read read' => Statement.unplacedOption read = Statement.unplacedOption read')
      (fun read => read.toList.length) (recoveringStatement nested inLoop)
      (recoveringStatement nested inLoop) := by
  constructor
  intro cursor cursor' near
  have outcome := (alike.statement inLoop).outcome near
  simp only [recoveringStatement, ← List.Forall₂.length_eq near.tokens]
  generalize nested.statement inLoop cursor = first, nested.statement inLoop cursor' = second
    at outcome
  cases outcome with
  | ok goes => exact .ok ⟨congrArg some goes.related.2, goes.near, goes.shorter⟩
  | ended closed => exact closed.elim
  | @error error after error' after' same nearAfter le =>
    have recovered := Cursors.recover nearAfter same cursor.remaining.length
    dsimp only
    by_cases gaveUp : (after.recover error cursor.remaining.length).aborted = true
    · rw [if_pos gaveUp, if_pos (recovered.aborted ▸ gaveUp)]
      exact .ok ⟨rfl, recovered, Nat.le_trans (after.moves_recover error _).suffix.length_le le⟩
    · rw [if_neg gaveUp, if_neg (recovered.aborted ▸ gaveUp)]
      refine .ok ⟨?_, recovered, length_recover_lt (eq_false_of_ne_true gaveUp) le⟩
      simp only [Statement.unplacedOption, Statement.unplaced, StatementForm.unplaced, same.message]

/-! ## Blocks -/

/-- A turn may read a statement and go on with it. -/
theorem turns_recoveringStatement {listed result : List Statement → List Statement → Prop}
    (concat : ∀ {last last'}, last.Same last' → listed (statements ++ [last]) (statements' ++ [last']))
    {otherwise otherwise' : Parse (Turn (List Statement) (List Statement))}
    (ends : sources.pairing.Turns listed result otherwise otherwise') :
    sources.pairing.Turns listed result
      (recoveringStatement nested inLoop >>= fun
        | some statement => pure (.again (statements ++ [statement]))
        | none => otherwise)
      (recoveringStatement nested inLoop >>= fun
        | some statement => pure (.again (statements' ++ [statement]))
        | none => otherwise') := by
  constructor
  intro cursor cursor' near
  refine ((runs_recoveringStatement alike inLoop).outcome near).bind (fun goes => ?_)
    fun _ => False.elim
  rename_i read after read' after'
  obtain ⟨same, nearAfter, shorter⟩ := goes
  cases read with
  | none =>
    cases read' with
    | none => exact (ends.outcome nearAfter).imp shorter fun _ => Nat.add_le_add_left shorter _
    | some statement' => cases same
  | some statement =>
    cases read' with
    | none => cases same
    | some statement' => exact .ok ⟨.again (concat (Option.some.inj same)), nearAfter, shorter⟩

theorem turns_blockStatement (same : Statement.SameList statements statements') :
    sources.pairing.Turns Statement.SameList Statement.SameList
      (blockStatement nested inLoop statements) (blockStatement nested inLoop statements') := by
  apply (reads_takeSymbol trivial).bind
  rintro closed _ rfl
  refine .ite (fun _ => .done same) (fun _ => ?_)
  apply reads_get.bind
  intro cursor cursor' near
  rw [near.atEnd_eq]
  have ends : sources.pairing.TurnsAlike Statement.SameList Statement.SameList
      (failHere "Unexpected end of file") :=
    runs_failHere _
  have rest := turns_recoveringStatement alike inLoop same.concat ends
  have fails : sources.pairing.ReadsAlike (fun _ _ : PUnit => False)
      (failHere "Expected '\x7d' to close block") :=
    runs_failHere _
  exact .ite (fun _ => fails.bind False.elim) (fun _ => rest)

theorem takes_block : sources.pairing.TakesAlike Statement.SameList (block nested inLoop) :=
  (takes_expectSymbol trivial _).takes fun _ =>
    reads_loop (fun same => turns_blockStatement alike inLoop same) rfl

theorem paired : nested.Paired sources.pairing where
  expression := alike.expression
  body := (takes_block alike false).reads.map fun same =>
    ⟨trivial, by simp [FunctionBody.Same, same]⟩

/-! ## Statements -/

theorem reads_initializerForm :
    sources.pairing.ClosesAlike StatementForm.Same (initializerForm nested) := by
  apply reads_peek.bind
  rintro ⟨kind, span⟩ ⟨_, span'⟩ ⟨rfl, -⟩
  dsimp only
  split
  · exact reads_advance.bind fun _ => closes_declarationForm (paired alike) true
  · exact reads_advance.bind fun _ => closes_declarationForm (paired alike) false
  · refine (reads_whole (paired alike)).bind fun value => closes_semicolon ?_ _
    simp [StatementForm.Same, StatementForm.unplaced, value.unplaced]

theorem reads_loopInitializer :
    sources.pairing.ClosesAlike
      (fun read read' => Statement.unplacedOption read = Statement.unplacedOption read')
      (loopInitializer nested) := by
  apply (reads_takeSymbol trivial).bind
  rintro empty _ rfl
  refine .ite (fun _ => .pure ⟨trivial, rfl⟩) (fun _ => ?_)
  refine reads_peek.bind fun _ => (reads_initializerForm alike).bind fun form =>
    reads_previousSpan.bind fun _ => .pure ⟨trivial, ?_⟩
  exact congrArg (fun form => some (Statement.node Span.nowhere form)) form.2

theorem closes_forForm : sources.pairing.ClosesAlike StatementForm.Same (forForm nested) := by
  refine (reads_expectSymbol trivial _).bind fun _ => ?_
  refine (reads_loopInitializer alike).bind fun init => ?_
  refine (reads_unlessSymbol (paired alike) _).bind fun test => ?_
  refine (reads_expectSymbol trivial _).bind fun _ => ?_
  refine (reads_unlessSymbol (paired alike) _).bind fun update => ?_
  refine (reads_expectSymbol trivial _).bind fun _ => ?_
  refine (alike.statement true).bind fun body => .pure ⟨trivial, ?_⟩
  simp [StatementForm.Same, StatementForm.unplaced, init.2, test, update, body.2]

theorem closes : nested.Closes sources.pairing where
  paired := paired alike
  statement := alike.statement
  block inLoop near _ := by
    have block : sources.pairing.TakesAlike (sources.pairing.Later StatementForm.Same)
        (StatementForm.block <$> block nested inLoop) :=
      (takes_block alike inLoop).map fun same =>
        ⟨trivial, by simp [StatementForm.Same, StatementForm.unplaced, same]⟩
    exact ⟨block.outcome near⟩
  forForm _ _ := closes_forForm alike

end Nested

/-- All readers read a source and its counterpart alike. -/
theorem matches_nestedTo (depth : Nat) : sources.Matches (nestedTo depth) := by
  induction depth with
  | zero => exact ⟨fun _ => Pairing.runs_failHere _, fun _ => Pairing.runs_failHere _⟩
  | succ depth ih =>
    exact ⟨Pairing.takes_climb (paired ih), Pairing.closes_statementWith (closes ih)⟩

/-! ## Programs -/

/-- Statements are read alike, whatever was read before them. -/
theorem turns_statementTurn {listed : List Statement → List Statement → Prop}
    (concat : ∀ {found found' last last'}, listed found found' → last.Same last' →
      listed (found ++ [last]) (found' ++ [last']))
    (same : listed statements statements') :
    sources.pairing.Turns listed listed (statementTurn statements) (statementTurn statements') := by
  apply Pairing.reads_get.bind
  intro cursor cursor' near
  rw [near.aborted, near.atEnd_eq]
  refine .ite (fun _ => .done same) (fun _ => ?_)
  exact turns_recoveringStatement (matches_nestedTo maxNesting) false (concat same) (.done same)

/-- Loops over statements end alike, whatever was read before. -/
theorem outcome_statements (alike : sources.Cursors cursor cursor')
    (statements statements' : List Statement) {bound' : Nat}
    (enough : cursor.remaining.length < bound) (enough' : cursor'.remaining.length < bound') :
    sources.pairing.Outcome (fun _ => False) (fun _ _ => True) (fun _ => 0) cursor.remaining.length
      (loopWithin statementTurn bound statements cursor)
      (loopWithin statementTurn bound' statements' cursor') := by
  have related : (fun _ _ => True : List Statement → List Statement → Prop) statements statements' :=
    trivial
  exact Pairing.outcome_loopWithin (turns_statementTurn fun _ _ => trivial) related alike enough
    enough'

end Counterpart

/-! ## Errors -/

/-- The errors that were found until a reader returned or failed. -/
def errorsOf {α : Type} : EStateM.Result ParseError Cursor α → List ParseError
  | .ok _ after => after.errors
  | .error error after => after.errors ++ [error]

/-- The errors of a source. -/
def programErrors (rules : TagRules) (tokens : List Token) : List ParseError :=
  match programOfTokens rules tokens with
  | .ok _ => []
  | .error errors => errors

/-- The errors found once the statements at a cursor are read. -/
def Cursor.statementErrors (cursor : Cursor) : List ParseError :=
  errorsOf (loop statementTurn [] cursor)

theorem programErrors_eq (rules : TagRules) (tokens : List Token) :
    programErrors rules tokens = errorsOf (program rules (Cursor.ofTokens tokens)) := by
  rw [programErrors, programOfTokens]
  cases program rules (Cursor.ofTokens tokens) with
  | ok parsed after =>
    dsimp only [errorsOf]
    cases errors : after.errors <;> rfl
  | error error after => rfl

theorem programErrors_of_noTag (rules : TagRules) {tokens : List Token}
    (noTag : (Cursor.ofTokens tokens).current.kind ≠ .symbol .atSign) :
    programErrors rules tokens = (Cursor.ofTokens tokens).statementErrors := by
  rw [programErrors_eq, program_of_noTag rules noTag, Cursor.statementErrors]
  simp only [bind, EStateM.bind]
  cases loop statementTurn [] (Cursor.ofTokens tokens) <;> rfl

theorem errorsOf_of_stopped (stopped : (cursor.aborted || cursor.atEnd) = true) (enough : 0 < bound)
    (statements : List Statement) :
    errorsOf (loopWithin statementTurn bound statements cursor) = cursor.errors := by
  rw [loopWithin_done (statementTurn_of_stopped stopped) enough]
  rfl

/-- A source after some errors were recorded, and the same source on its own. -/
def Counterpart.resumed (recorded : List ParseError) (total : Nat) : Counterpart where
  place := Eq
  recorded := recorded
  recorded' := []
  total := total
  through first second := by rw [first, second]

theorem Counterpart.eq_of_errors {recorded : List ParseError} {total : Nat}
    {found found' : List ParseError}
    (errors : (Counterpart.resumed recorded total).Errors found found') : found = found' := by
  refine List.forall₂_eq_eq_eq ▸ errors.imp ?_
  rintro ⟨message, span⟩ ⟨_, _⟩ ⟨rfl, rfl⟩
  rfl

/-- Reading statements depends on nothing that came before: a cursor finds the same errors as
a fresh one before the same tokens. -/
theorem errorsOf_loopWithin {fresh : Cursor} (tokens : cursor.remaining = fresh.remaining)
    (ends : cursor.remaining ≠ [] → cursor.endSpan = fresh.endSpan)
    (active : cursor.aborted = false ∧ fresh.aborted = false) (none : fresh.errors = [])
    (enough : cursor.remaining.length < bound) (statements : List Statement) :
    errorsOf (loopWithin statementTurn bound statements cursor) =
      cursor.errors ++ fresh.statementErrors := by
  by_cases empty : cursor.remaining = []
  · have stopped (place : Cursor) (all : place.remaining = []) :
        (place.aborted || place.atEnd) = true := by
      rw [Cursor.atEnd, all]
      exact Bool.or_true _
    rw [errorsOf_of_stopped (stopped cursor empty) (Nat.zero_lt_of_lt enough),
      Cursor.statementErrors, loop_eq,
      errorsOf_of_stopped (stopped fresh (tokens ▸ empty)) (Nat.succ_pos _), none, List.append_nil]
  · have alike : (Counterpart.resumed cursor.errors cursor.remaining.length).Cursors cursor fresh :=
      { tokens := tokens ▸ List.forall₂_same.mpr fun _ _ => ⟨rfl, rfl⟩
        endSpan := ends empty
        le_total := Nat.le_refl _
        previous := fun moved => absurd moved (Nat.lt_irrefl _)
        errors := ⟨[], [], (List.append_nil _).symm, none, .nil⟩
        aborted := active.1.trans active.2.symm }
    have outcome := Counterpart.outcome_statements alike statements [] enough (Nat.lt_succ_self _)
    rw [Cursor.statementErrors, loop_eq]
    generalize loopWithin statementTurn bound statements cursor = result,
      loopWithin statementTurn (fresh.remaining.length + 1) [] fresh = result' at outcome
    cases outcome with
    | ok goes =>
      obtain ⟨found, found', first, second, errors⟩ := Counterpart.Cursors.errors goes.near
      dsimp only [errorsOf]
      rw [first, second, Counterpart.eq_of_errors errors]
      rfl
    | ended closed => exact closed.elim
    | @error failure after failure' after' same fault _ =>
      obtain ⟨found, found', first, second, errors⟩ := fault.errors
      obtain ⟨message, span⟩ := failure
      obtain ⟨_, _⟩ := failure'
      obtain ⟨rfl, rfl⟩ := same
      dsimp only [errorsOf]
      rw [first, second, Counterpart.eq_of_errors errors, List.append_assoc]
      rfl

end Grammar
end PatchScript
