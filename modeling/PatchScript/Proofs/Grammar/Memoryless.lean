import PatchScript.Proofs.Grammar.Isolation
import PatchScript.Proofs.Grammar.PlacedSyntax

/-!
# Reading without a memory

What a statement, an expression or a constant is read as is decided by the tokens that are
left.  Neither the errors on record nor the token that was taken last matter: the readers
take a token of their own before they look at what was taken last, or fail without having
moved.
-/

namespace PatchScript
namespace Grammar

variable {α β : Type} {reader : Parse α} {next : α → Parse β} (depth : Nat)

/-- The same cursor after another token was taken last. -/
def Cursor.behind (cursor : Cursor) (span : Span) : Cursor :=
  { cursor with previous := span }

/-- How a reader ends at a cursor, and at the same cursor behind another token. -/
inductive Restarts (cursor : Cursor) (span : Span) :
    EStateM.Result ParseError Cursor α → EStateM.Result ParseError Cursor α → Prop
  | same {result} : Restarts cursor span result result
  /-- Where no token was taken, the reader has failed. -/
  | stuck {error} : Restarts cursor span (.error error cursor) (.error error (cursor.behind span))

/-- At a given cursor, a reader takes a token before it looks at the one taken last. -/
structure StartsAt (cursor : Cursor) (reader : Parse α) : Prop where
  restarts : ∀ span, Restarts cursor span (reader cursor) (reader (cursor.behind span))

/-- A reader takes a token before it looks at the one taken last. -/
structure Starts (reader : Parse α) : Prop where
  startsAt : ∀ cursor, StartsAt cursor reader

section Starts

variable {cursor : Cursor}

theorem StartsAt.bind (starts : StartsAt cursor reader) : StartsAt cursor (reader >>= next) := by
  constructor
  intro span
  have restarts := starts.restarts span
  simp only [Bind.bind, EStateM.bind]
  generalize reader cursor = result at restarts
  generalize reader (cursor.behind span) = result' at restarts
  cases restarts with
  | same => exact .same
  | stuck => exact .stuck

theorem Starts.bind (starts : Starts reader) : Starts (reader >>= next) :=
  ⟨fun cursor => (starts.startsAt cursor).bind⟩

theorem starts_failAt (message : String) (span : Span) : Starts (failAt message span : Parse α) :=
  ⟨fun _ => ⟨fun _ => .stuck⟩⟩

theorem starts_failHere (message : String) : Starts (failHere message : Parse α) :=
  ⟨fun _ => ⟨fun _ => .stuck⟩⟩

theorem startsAt_peek {next : Token → Parse α} (starts : StartsAt cursor (next cursor.current)) :
    StartsAt cursor (peek >>= next) :=
  ⟨starts.restarts⟩

theorem Cursor.advance_behind (present : cursor.remaining ≠ []) (span : Span) :
    (cursor.behind span).advance = cursor.advance := by
  obtain ⟨token, rest, tokens⟩ := List.exists_cons_of_ne_nil present
  simp only [Cursor.advance, Cursor.behind, tokens]

/-- A token that is there can be taken. -/
theorem startsAt_advance {next : Token → Parse α} (present : cursor.remaining ≠ []) :
    StartsAt cursor (advance >>= next) := by
  constructor
  intro span
  have same : advance (cursor.behind span) = advance cursor :=
    congrArg (EStateM.Result.ok cursor.current) (Cursor.advance_behind present span)
  simp only [Bind.bind, EStateM.bind, same]
  exact .same

theorem starts_expectSymbol (symbol : Symbol) (expected : String) :
    Starts (expectSymbol symbol expected) := by
  refine ⟨fun cursor => ⟨fun span => ?_⟩⟩
  by_cases next : cursor.current.kind = .symbol symbol
  · rw [expectSymbol_of_eq next,
      expectSymbol_of_eq (show (cursor.behind span).current.kind = _ from next),
      Cursor.advance_behind (Cursor.remaining_ne_nil next nofun)]
    exact .same
  · rw [expectSymbol_of_ne next,
      expectSymbol_of_ne (show (cursor.behind span).current.kind ≠ _ from next)]
    exact .stuck

end Starts

/-- The readers for nested syntax take a token before they look at the one taken last. -/
structure Nested.Starts (nested : Nested) : Prop where
  expression : ∀ floor, Grammar.Starts (nested.expression floor)
  statement : ∀ inLoop, Grammar.Starts (nested.statement inLoop)

section Nested

variable {nested : Nested}

theorem starts_block (inLoop : Bool) : Starts (block nested inLoop) :=
  (starts_expectSymbol _ _).bind

theorem starts_term : Starts (term nested) := by
  refine ⟨fun cursor => startsAt_peek ?_⟩
  cases starter : startsTerm cursor.current.kind with
  | false => exact (starts_failHere _).bind.startsAt cursor
  | true =>
    refine startsAt_advance (Cursor.remaining_ne_nil rfl fun ended => ?_)
    rw [ended] at starter
    cases starter

theorem starts_climb (floor : Nat) : Starts (climb nested floor) := starts_term.bind

theorem starts_expressionForm (starts : nested.Starts) : Starts (expressionForm nested) :=
  (starts.expression _).bind

theorem startsAt_statementFormBy (starts : nested.Starts) (inLoop : Bool) (cursor : Cursor)
    (following : TokenKind) :
    StartsAt cursor (statementFormBy nested inLoop cursor.current following) := by
  have after {kind : TokenKind} {reader : Parse StatementForm}
      (found : cursor.current.kind = kind) (noEnd : kind ≠ .endOfFile) :
      StartsAt cursor (advance >>= fun _ => reader) :=
    startsAt_advance (Cursor.remaining_ne_nil found noEnd)
  have expression := (starts_expressionForm starts).startsAt cursor
  unfold statementFormBy
  split
  -- A keyword of its own is taken at once.
  any_goals (rename_i found; exact after found nofun)
  · rw [map_eq_pure_bind]
    exact (starts_block inLoop).bind.startsAt cursor
  · exact (starts_failAt _ _).startsAt cursor
  · exact (starts_failAt _ _).startsAt cursor
  · next found =>
    split
    · exact after found nofun
    · exact expression
  · next found =>
    split
    · exact after found nofun
    · exact expression
  · exact expression

theorem starts_statementWith (starts : nested.Starts) (inLoop : Bool) :
    Starts (statementWith nested inLoop) := by
  have form : Starts (statementForm nested inLoop) := by
    refine ⟨fun cursor => ⟨fun span => ?_⟩⟩
    exact (startsAt_statementFormBy starts inLoop cursor cursor.following.kind).restarts span
  exact ⟨fun cursor => startsAt_peek (form.bind.startsAt cursor)⟩

end Nested

/-- All readers of statements and expressions take a token first. -/
theorem starts_nestedTo : (nestedTo depth).Starts := by
  induction depth with
  | zero => exact ⟨fun _ => starts_failHere _, fun _ => starts_failHere _⟩
  | succ depth ih => exact ⟨starts_climb, starts_statementWith ih⟩

theorem starts_constant : Starts (constant depth) := by
  cases depth with
  | zero => exact starts_failHere _
  | succ depth =>
    refine ⟨fun cursor => ?_⟩
    by_cases empty : cursor.remaining = []
    · -- At the end there is no token to take, and the end mark is no constant.
      obtain ⟨_, endSpan, previous, errors, aborted⟩ := cursor
      cases empty
      exact ⟨fun _ => .stuck⟩
    · exact startsAt_advance empty

/-! ## Resuming -/

/-- A cursor stands where a fresh one does, after some errors were recorded and whatever
token was taken last. -/
structure Cursor.Resumes (recorded : List ParseError) (fresh cursor : Cursor) : Prop where
  remaining : cursor.remaining = fresh.remaining
  endSpan : cursor.endSpan = fresh.endSpan
  errors : cursor.errors = recorded ++ fresh.errors
  aborted : cursor.aborted = fresh.aborted

/-- A reader has ended as it does from a fresh cursor. -/
inductive Resumed (recorded : List ParseError) :
    EStateM.Result ParseError Cursor α → EStateM.Result ParseError Cursor α → Prop
  | ok {value fresh after} : Cursor.Resumes recorded fresh after →
    Resumed recorded (.ok value fresh) (.ok value after)
  | error {error fresh after} : Cursor.Resumes recorded fresh after →
    Resumed recorded (.error error fresh) (.error error after)

/-- What a reader returns, how it fails, what it records and where it stops depend on the
tokens that are left, and on nothing that came before them. -/
structure Memoryless (reader : Parse α) : Prop where
  resumed : ∀ {recorded fresh cursor}, Cursor.Resumes recorded fresh cursor →
    Resumed recorded (reader fresh) (reader cursor)

theorem Cursor.Resumes.eq_since {recorded : List ParseError} {fresh cursor : Cursor}
    (resumes : Cursor.Resumes recorded fresh cursor) :
    cursor = (fresh.behind cursor.previous).since recorded := by
  obtain ⟨remaining, endSpan, previous, errors, aborted⟩ := cursor
  obtain ⟨rfl, rfl, rfl, rfl⟩ := resumes
  rfl

/-- A reader is memoryless if neither what is on record nor the token taken last matters. -/
theorem memoryless_of_steady (steady : Steady reader)
    (behind : ∀ cursor span, Resumed [] (reader cursor) (reader (cursor.behind span))) :
    Memoryless reader := by
  constructor
  intro recorded fresh cursor resumes
  have alike := behind fresh cursor.previous
  rw [resumes.eq_since, steady.since]
  generalize reader fresh = result at alike
  generalize reader (fresh.behind cursor.previous) = result' at alike
  have more {place after : Cursor} (same : Cursor.Resumes [] place after) :
      Cursor.Resumes recorded place (after.since recorded) :=
    ⟨same.remaining, same.endSpan, congrArg (recorded ++ ·) same.errors, same.aborted⟩
  cases alike with
  | ok same => exact .ok (more same)
  | error same => exact .error (more same)

theorem Resumed.refl (result : EStateM.Result ParseError Cursor α) : Resumed [] result result := by
  cases result with
  | ok value after => exact .ok ⟨rfl, rfl, rfl, rfl⟩
  | error error after => exact .error ⟨rfl, rfl, rfl, rfl⟩

theorem Memoryless.bind (first : Memoryless reader) (second : ∀ value, Memoryless (next value)) :
    Memoryless (reader >>= next) := by
  constructor
  intro recorded fresh cursor resumes
  have resumed := first.resumed resumes
  simp only [Bind.bind, EStateM.bind]
  generalize reader fresh = result at resumed
  generalize reader cursor = result' at resumed
  cases resumed with
  | ok same => exact (second _).resumed same
  | error same => exact .error same

theorem memoryless_pure (value : α) : Memoryless (pure value : Parse α) :=
  ⟨fun resumes => .ok resumes⟩

theorem Starts.memoryless (starts : Starts reader) (steady : Steady reader) :
    Memoryless reader := by
  refine memoryless_of_steady steady fun cursor span => ?_
  have restarts := (starts.startsAt cursor).restarts span
  generalize reader cursor = result at restarts
  generalize reader (cursor.behind span) = result' at restarts
  cases restarts with
  | same => exact .refl result
  | stuck => exact .error ⟨rfl, rfl, rfl, rfl⟩

/-! ## Recovery -/

theorem skipFaulty_behind (previous previous' : Span) (tokens : List Token) :
    skipFaulty depth previous' tokens = skipFaulty depth previous tokens ∨
      skipFaulty depth previous tokens = (previous, tokens) ∧
        skipFaulty depth previous' tokens = (previous', tokens) := by
  cases tokens with
  | nil => exact .inr ⟨rfl, rfl⟩
  | cons token rest =>
    simp only [skipFaulty]
    split
    · exact .inl rfl
    · exact .inl rfl
    · split
      · exact .inr ⟨rfl, rfl⟩
      · exact .inl rfl
    · exact .inl rfl

/-- Recovery takes a token where none was taken before. -/
theorem Cursor.recover_behind {cursor : Cursor} (active : cursor.aborted = false)
    (more : cursor.remaining ≠ []) (error : ParseError) (span : Span) :
    (cursor.behind span).recover error cursor.remaining.length =
      cursor.recover error cursor.remaining.length := by
  have notEnd : cursor.atEnd = false := List.isEmpty_eq_false_iff.mpr more
  rw [Counterpart.recover_of_tokens error _ active notEnd,
    Counterpart.recover_of_tokens error _ (show (cursor.behind span).aborted = false from active)
      (show (cursor.behind span).atEnd = false from notEnd)]
  obtain same | ⟨first, second⟩ := skipFaulty_behind 0 cursor.previous span cursor.remaining
  · simp only [Cursor.synchronize, Cursor.behind, same]
  · obtain ⟨token, rest, tokens⟩ := List.exists_cons_of_ne_nil more
    simp only [Cursor.synchronize, Cursor.behind, first, second, if_true]
    simp only [Cursor.advance, tokens]

/-- Statements are read or skipped alike behind another token.  Where none was read, the
cursors may still differ in the token taken last. -/
theorem recoveringStatement_behind {nested : Nested} (starts : nested.Starts) (inLoop : Bool)
    (cursor : Cursor) (span : Span) :
    recoveringStatement nested inLoop (cursor.behind span) =
        recoveringStatement nested inLoop cursor ∨
      ∃ after, recoveringStatement nested inLoop cursor = .ok none after ∧
        recoveringStatement nested inLoop (cursor.behind span) = .ok none (after.behind span) := by
  have restarts := ((starts.statement inLoop).startsAt cursor).restarts span
  simp only [recoveringStatement]
  rw [show (cursor.behind span).remaining = cursor.remaining from rfl,
    show (cursor.behind span).current = cursor.current from rfl]
  generalize nested.statement inLoop cursor = result at restarts
  generalize nested.statement inLoop (cursor.behind span) = result' at restarts
  cases restarts with
  | same => exact .inl rfl
  | @stuck error =>
    dsimp only
    cases gaveUp : cursor.aborted with
    | true =>
      rw [Counterpart.recover_of_aborted error _ gaveUp, Counterpart.recover_of_aborted error _
        (show (cursor.behind span).aborted = true from gaveUp)]
      exact .inr ⟨cursor, if_pos gaveUp, if_pos gaveUp⟩
    | false =>
      by_cases empty : cursor.remaining = []
      · have atEnd : cursor.atEnd = true := List.isEmpty_iff.mpr empty
        rw [Counterpart.recover_of_atEnd error _ gaveUp atEnd,
          Counterpart.recover_of_atEnd error _
            (show (cursor.behind span).aborted = false from gaveUp)
            (show (cursor.behind span).atEnd = true from atEnd)]
        exact .inr ⟨_, if_pos rfl, if_pos rfl⟩
      · rw [Cursor.recover_behind gaveUp empty]
        exact .inl rfl

theorem memoryless_expression (depth floor : Nat) : Memoryless (expression depth floor) :=
  ((starts_nestedTo depth).expression floor).memoryless
    (steady_expression (places_any "" depth) floor)

theorem memoryless_statement (inLoop : Bool) : Memoryless (statement depth inLoop) :=
  ((starts_nestedTo depth).statement inLoop).memoryless
    (steady_statement (places_any "" depth) inLoop)

theorem memoryless_constant : Memoryless (constant depth) :=
  (starts_constant depth).memoryless (@quiet_constant "" depth).steady

end Grammar
end PatchScript
