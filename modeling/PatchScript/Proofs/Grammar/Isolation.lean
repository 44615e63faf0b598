import PatchScript.Proofs.Grammar.Counterpart

/-!
# One error for one faulty statement

A faulty statement that ends in its first semicolon fails in the same way whatever comes
after it: it is read side by side with the same statement at the end of a source.  Recovery
skips it, and what is read from there on does not depend on it.

Where a name has to follow, the readers take the next token before they look at it.  If that
is the semicolon, recovery starts after it and skips the next statement as well.
-/

namespace PatchScript
namespace Grammar

variable {cursor after : Cursor} {error : ParseError}

/-! ## Faulty statements on one line -/

/-- Whether a token neither ends a statement nor has to do with blocks or loops with
clauses. -/
def isInert : TokenKind → Bool
  | .symbol .semicolon | .symbol .leftBrace | .symbol .rightBrace | .endOfFile
  | .keyword .forWord => false
  | _ => true

/-- The semicolon that ends a statement, the tokens after it, and where they end. -/
structure Ending where
  semicolon : Token
  rest : List Token
  endSpan : Span
  isSemicolon : semicolon.kind = .symbol .semicolon

namespace Ending

variable {cursor' : Cursor}

/-- Two cursors before the end of the same statement, where nothing comes after it and where
something does. -/
structure Before (ending : Ending) (cursor cursor' : Cursor) : Prop where
  tokens : ∃ inner : List Token, (∀ token ∈ inner, isInert token.kind = true) ∧
    cursor.remaining = inner ++ [ending.semicolon] ∧
    cursor'.remaining = inner ++ ending.semicolon :: ending.rest
  endSpan : cursor'.endSpan = ending.endSpan
  previous : cursor.previous = cursor'.previous
  errors : cursor.errors = [] ∧ cursor'.errors = []
  active : cursor.aborted = false ∧ cursor'.aborted = false

/-- Two cursors just after the end of the same statement. -/
structure After (ending : Ending) (cursor cursor' : Cursor) : Prop where
  tokens : cursor.remaining = [] ∧ cursor'.remaining = ending.rest
  endSpan : cursor'.endSpan = ending.endSpan
  errors : cursor.errors = [] ∧ cursor'.errors = []
  active : cursor.aborted = false ∧ cursor'.aborted = false

variable {ending : Ending}

section

variable (before : ending.Before cursor cursor')
include before

theorem Before.current :
    cursor.current = cursor'.current ∧
      (isInert cursor.current.kind = true ∨ cursor.current = ending.semicolon) := by
  obtain ⟨inner, inert, first, second⟩ := before.tokens
  cases inner with
  | nil =>
    rw [Cursor.current_of_remaining first, Cursor.current_of_remaining second]
    exact ⟨rfl, .inr rfl⟩
  | cons token inner =>
    rw [Cursor.current_of_remaining first, Cursor.current_of_remaining second]
    exact ⟨rfl, .inl (inert token List.mem_cons_self)⟩

/-- Other tokens that are not inert do not come before the end. -/
theorem Before.not_excluded {kind : TokenKind} (found : cursor.current.kind = kind)
    (excluded : isInert kind = false) (different : kind ≠ .symbol .semicolon) : False := by
  rcases before.current.2 with inert | last
  · rw [found, excluded] at inert
    cases inert
  · rw [last, ending.isSemicolon] at found
    exact different found.symm

theorem Before.following (inside : cursor.current.kind ≠ .symbol .semicolon) :
    cursor.following = cursor'.following := by
  obtain ⟨inner, -, first, second⟩ := before.tokens
  cases inner with
  | nil =>
    rw [Cursor.current_of_remaining first] at inside
    exact absurd ending.isSemicolon inside
  | cons token inner =>
    simp only [Cursor.following, first, second]
    cases inner <;> rfl

theorem Before.advance (inside : cursor.current.kind ≠ .symbol .semicolon) :
    ending.Before cursor.advance cursor'.advance := by
  obtain ⟨remaining, endSpan, previous, errors, aborted⟩ := cursor
  obtain ⟨remaining', endSpan', previous', errors', aborted'⟩ := cursor'
  obtain ⟨⟨inner, inert, first, second⟩, ends, -, recorded, active⟩ := before
  dsimp only at first second
  subst first second
  cases inner with
  | nil => exact absurd ending.isSemicolon inside
  | cons token inner =>
    have later := fun token member => inert token (List.mem_cons_of_mem _ member)
    exact ⟨⟨inner, later, rfl, rfl⟩, ends, rfl, recorded, active⟩

/-- The semicolon can be taken as well. -/
theorem Before.advance_semicolon (last : cursor.current.kind = .symbol .semicolon) :
    ending.After cursor.advance cursor'.advance := by
  obtain ⟨remaining, endSpan, previous, errors, aborted⟩ := cursor
  obtain ⟨remaining', endSpan', previous', errors', aborted'⟩ := cursor'
  obtain ⟨⟨inner, inert, first, second⟩, ends, -, recorded, active⟩ := before
  dsimp only at first second
  subst first second
  cases inner with
  | nil => exact ⟨⟨rfl, rfl⟩, ends, recorded, active⟩
  | cons token inner =>
    have notLast := inert token List.mem_cons_self
    rw [show token.kind = .symbol .semicolon from last] at notLast
    cases notLast

/-- Any token can be taken. -/
theorem Before.advance_or :
    ending.Before cursor.advance cursor'.advance ∨ ending.After cursor.advance cursor'.advance := by
  by_cases last : cursor.current.kind = .symbol .semicolon
  · exact .inr (before.advance_semicolon last)
  · exact .inl (before.advance last)

theorem Before.length_eq :
    cursor'.remaining.length = cursor.remaining.length + ending.rest.length := by
  obtain ⟨inner, -, first, second⟩ := before.tokens
  rw [first, second]
  simp only [List.length_append, List.length_cons, List.length_nil]
  omega

end

/-- Reading a statement with and without something after it. -/
def pairing (ending : Ending) : Pairing where
  place := Eq
  near := ending.Before
  fault cursor cursor' := ending.Before cursor cursor' ∨ ending.After cursor cursor'
  closed cursor := cursor.remaining = [] ∧ cursor.errors = []
  continues := False
  free kind := kind ≠ .symbol .semicolon
  surplus := ending.rest.length
  through first second := congrArg₂ Span.through first second
  length := Before.length_eq
  kind before := congrArg Token.kind before.current.1
  span before := congrArg Token.span before.current.1
  following before inside := congrArg Token.kind (before.following inside)
  previous _ after _ := after.previous
  stay := .inl
  take := Before.advance
  free_of_ne := id
  takeLast before last :=
    .inr ⟨(before.advance_semicolon last).tokens.1, (before.advance_semicolon last).errors.1⟩
  takeFaulty := Before.advance_or
  ended := And.left

/-! ## Statements -/

/-- There is no block before the end of the statement. -/
theorem reads_functionBlock (nested : Nested) {same : FunctionBody → FunctionBody → Prop} :
    ending.pairing.ReadsAlike same (functionBlock nested) := by
  have fails : ending.pairing.ReadsAlike (fun _ _ : Unit => False)
      (expectSymbol .leftBrace "'\x7b'") := by
    constructor
    intro cursor cursor' before
    have noBrace : cursor.current.kind ≠ .symbol .leftBrace :=
      fun brace => before.not_excluded brace rfl nofun
    rw [expectSymbol_of_ne noBrace, expectSymbol_of_ne (before.current.1 ▸ noBrace)]
    exact (Pairing.runs_failExpected _).outcome before
  have block : ending.pairing.ReadsAlike (fun _ _ : List Statement => False) (block nested false) :=
    fails.bind False.elim
  exact block.map False.elim

/-- There are neither blocks nor loops with clauses before the end. -/
theorem closes (nested : Nested)
    (expression : ∀ floor, ending.pairing.TakesAlike ending.pairing.Same (nested.expression floor))
    (statement : ∀ inLoop, ending.pairing.Runs ending.pairing.closed
      (ending.pairing.Later Statement.Same) (fun _ => 1) (nested.statement inLoop)
      (nested.statement inLoop)) :
    nested.Closes ending.pairing where
  paired := ⟨expression, reads_functionBlock nested⟩
  statement := statement
  block _ before found := (before.not_excluded found rfl nofun).elim
  forForm before found := (before.not_excluded found rfl nofun).elim

/-- A statement on one line is read to its end, or fails as it would fail with anything after
it. -/
theorem closes_nestedTo (depth : Nat) : (nestedTo depth).Closes ending.pairing := by
  induction depth with
  | zero => exact closes _ (fun _ => Pairing.runs_failHere _) fun _ => Pairing.runs_failHere _
  | succ depth ih =>
    exact closes _ (Pairing.takes_climb ih.paired) (Pairing.closes_statementWith ih)

end Ending

/-! ## Recovery -/

theorem skipFaulty_of_inert {inner : List Token}
    (inert : ∀ token ∈ inner, isInert token.kind = true) {semicolon : Token}
    (isSemicolon : semicolon.kind = .symbol .semicolon) (previous : Span) (rest : List Token) :
    skipFaulty 0 previous (inner ++ semicolon :: rest) = (semicolon.span, rest) := by
  induction inner generalizing previous with
  | nil => simp [skipFaulty, isSemicolon]
  | cons token inner ih =>
    have inside := inert token List.mem_cons_self
    have later := ih (fun token member => inert token (List.mem_cons_of_mem _ member)) token.span
    rw [List.cons_append, skipFaulty]
    split
    · next kind => simp [kind, isInert] at inside
    · next kind => simp [kind, isInert] at inside
    · next kind => simp [kind, isInert] at inside
    · exact later

theorem skipFaulty_remaining (depth : Nat) (previous previous' : Span) (tokens : List Token) :
    (skipFaulty depth previous tokens).2 = (skipFaulty depth previous' tokens).2 := by
  cases tokens with
  | nil => rfl
  | cons token rest =>
    simp only [skipFaulty]
    split
    · split <;> rfl
    · rfl
    · split
      · rfl
      · split <;> rfl
    · rfl

/-- The cursor behind the first statement, taken for a faulty one. -/
def Cursor.afterFaulty (cursor : Cursor) : Cursor :=
  { cursor with remaining := (skipFaulty 0 cursor.previous cursor.remaining).2 }

namespace Ending

variable {ending : Ending} {cursor' : Cursor} (error : ParseError) {startLength : Nat}
variable (longer : ending.rest.length < startLength)

include longer

/-- Recovery from before the end of a statement goes on after it. -/
theorem Before.recover (before : ending.Before cursor cursor') :
    cursor'.recover error startLength =
      { cursor' with
        remaining := ending.rest
        previous := ending.semicolon.span
        errors := [error] } := by
  obtain ⟨inner, inert, -, tokens⟩ := before.tokens
  have more : cursor'.atEnd = false := by
    rw [Cursor.atEnd, tokens]
    cases inner <;> rfl
  rw [Counterpart.recover_of_tokens error _ before.active.2 more, before.errors.2]
  simp only [Cursor.synchronize, tokens, skipFaulty_of_inert inert ending.isSemicolon]
  rw [if_neg (Nat.ne_of_lt longer)]
  rfl

/-- Recovery from after the end skips the next statement, if there is one. -/
theorem After.recover (after : ending.After cursor cursor') (more : ending.rest ≠ []) :
    cursor'.recover error startLength =
      { cursor' with
        remaining := (skipFaulty 0 cursor'.previous ending.rest).2
        previous := (skipFaulty 0 cursor'.previous ending.rest).1
        errors := [error] } := by
  have notEnd : cursor'.atEnd = false := by
    rw [Cursor.atEnd, after.tokens.2]
    exact List.isEmpty_eq_false_iff.mpr more
  rw [Counterpart.recover_of_tokens error _ after.active.2 notEnd, after.errors.2]
  have skipped := Counterpart.length_skipFaulty_le cursor'
  simp only [after.tokens.2] at skipped
  simp only [Cursor.synchronize, after.tokens.2]
  rw [if_neg (Nat.ne_of_lt (Nat.lt_of_le_of_lt skipped longer))]
  rfl

end Ending

/-! ## Tokens before others -/

section OfTokens

variable {first rest : List Token}

theorem remaining_ofTokens (tokens : List Token) :
    (Cursor.ofTokens tokens).remaining = tokens.takeWhile fun token => !Cursor.isEndMark token :=
  rfl

theorem remaining_ofTokens_append (noEnd : ∀ token ∈ first, Cursor.isEndMark token = false) :
    (Cursor.ofTokens (first ++ rest)).remaining = first ++ (Cursor.ofTokens rest).remaining := by
  rw [remaining_ofTokens, remaining_ofTokens, List.takeWhile_append_of_pos]
  intro token member
  rw [noEnd token member]
  rfl

theorem endSpan_ofTokens_append (noEnd : ∀ token ∈ first, Cursor.isEndMark token = false)
    (nonempty : rest ≠ []) :
    (Cursor.ofTokens (first ++ rest)).endSpan = (Cursor.ofTokens rest).endSpan := by
  have found : (first ++ rest).find? Cursor.isEndMark = rest.find? Cursor.isEndMark := by
    rw [List.find?_append, List.find?_eq_none.mpr]
    · rfl
    · intro token member
      rw [noEnd token member]
      exact Bool.false_ne_true
  have last : (first ++ rest).getLast? = rest.getLast? := by
    rw [List.getLast?_append, List.getLast?_eq_some_getLast nonempty]
    rfl
  simp only [Cursor.ofTokens, found, last]

theorem current_ofTokens_ne {tokens : List Token} {kind : TokenKind}
    (different : ∀ token ∈ tokens.head?, token.kind ≠ kind) (present : kind ≠ .endOfFile) :
    (Cursor.ofTokens tokens).current.kind ≠ kind := by
  cases tokens with
  | nil => exact present.symm
  | cons token rest =>
    cases marked : Cursor.isEndMark token with
    | true =>
      have remaining : (Cursor.ofTokens (token :: rest)).remaining = [] := by
        rw [remaining_ofTokens, List.takeWhile_cons_of_neg (by simp [marked])]
      rw [Cursor.current, remaining]
      exact present.symm
    | false =>
      have remaining : (Cursor.ofTokens (token :: rest)).remaining =
          token :: rest.takeWhile fun token => !Cursor.isEndMark token := by
        rw [remaining_ofTokens, List.takeWhile_cons_of_pos (by simp [marked])]
      rw [Cursor.current_of_remaining remaining]
      exact different token rfl

end OfTokens

/-! ## Isolation -/

/-- Nothing more is found at the end. -/
theorem statementErrors_of_nil (empty : cursor.remaining = []) :
    cursor.statementErrors = cursor.errors := by
  rw [Cursor.statementErrors, loop_eq]
  refine errorsOf_of_stopped ?_ (Nat.succ_pos _) []
  rw [Cursor.atEnd, empty]
  exact Bool.or_true _

/-- What is read after a statement that fails. -/
theorem statementErrors_of_error (active : cursor.aborted = false)
    (nonempty : cursor.remaining ≠ [])
    (fails : statement maxNesting false cursor = .error error after) :
    ∃ statements, cursor.statementErrors =
      errorsOf (loopWithin statementTurn cursor.remaining.length statements
        (after.recover error cursor.remaining.length)) := by
  have goesOn : (cursor.aborted || cursor.atEnd) = false := by
    rw [active, Cursor.atEnd, List.isEmpty_eq_false_iff.mpr nonempty]
    rfl
  rw [Cursor.statementErrors, loop_eq]
  cases gaveUp : (after.recover error cursor.remaining.length).aborted with
  | true =>
    have recovering : recoveringStatement (nestedTo maxNesting) false cursor =
        .ok none (after.recover error cursor.remaining.length) := by
      simp [recoveringStatement, nestedTo, fails, gaveUp]
    rw [loopWithin_done (statementTurn_of_none goesOn recovering) (Nat.succ_pos _)]
    refine ⟨[], (errorsOf_of_stopped ?_ (List.length_pos_iff.mpr nonempty) []).symm⟩
    rw [gaveUp]
    rfl
  | false =>
    obtain ⟨_, recovering⟩ := recoveringStatement_of_error fails gaveUp
    exact ⟨_, by rw [loopWithin_again (statementTurn_of_some goesOn recovering)]⟩

theorem isEndMark_of_inert {token : Token} (inert : isInert token.kind = true) :
    Cursor.isEndMark token = false := by
  obtain ⟨kind, span⟩ := token
  cases kind with
  | endOfFile => cases inert
  | _ => rfl

/-- The semicolon after a statement, and the source after it. -/
def Ending.ofTokens {semicolon : Token} (isSemicolon : semicolon.kind = .symbol .semicolon)
    (rest : List Token) (endSpan : Span) : Ending :=
  { semicolon, rest := (Cursor.ofTokens rest).remaining, endSpan, isSemicolon }

section Isolated

variable {faulty : List Token} {semicolon : Token}
variable (inert : ∀ token ∈ faulty, isInert token.kind = true)
variable (isSemicolon : semicolon.kind = .symbol .semicolon) (rest : List Token)

include inert isSemicolon

theorem remaining_ofTokens_faulty :
    (Cursor.ofTokens (faulty ++ semicolon :: rest)).remaining =
      faulty ++ semicolon :: (Cursor.ofTokens rest).remaining := by
  have noEnd : Cursor.isEndMark semicolon = false := by
    rw [Cursor.isEndMark, isSemicolon]
  rw [remaining_ofTokens_append fun token member => isEndMark_of_inert (inert token member)]
  rw [remaining_ofTokens, List.takeWhile_cons_of_pos (by simp [noEnd])]
  rfl

theorem endSpan_ofTokens_faulty (nonempty : rest ≠ []) :
    (Cursor.ofTokens (faulty ++ semicolon :: rest)).endSpan = (Cursor.ofTokens rest).endSpan := by
  rw [← List.singleton_append, ← List.append_assoc]
  apply endSpan_ofTokens_append _ nonempty
  intro token member
  rcases List.mem_append.mp member with inside | last
  · exact isEndMark_of_inert (inert token inside)
  · rw [List.mem_singleton.mp last, Cursor.isEndMark, isSemicolon]

/-- The same statement at the end of a source and before other tokens. -/
theorem before_ofTokens :
    (Ending.ofTokens isSemicolon rest
        (Cursor.ofTokens (faulty ++ semicolon :: rest)).endSpan).Before
      (Cursor.ofTokens (faulty ++ [semicolon]))
      (Cursor.ofTokens (faulty ++ semicolon :: rest)) := by
  have alone := remaining_ofTokens_faulty inert isSemicolon []
  have followed := remaining_ofTokens_faulty inert isSemicolon rest
  refine ⟨⟨faulty, inert, alone, followed⟩, rfl, ?_, ⟨rfl, rfl⟩, ⟨rfl, rfl⟩⟩
  have same : (Cursor.ofTokens (faulty ++ [semicolon])).current =
      (Cursor.ofTokens (faulty ++ semicolon :: rest)).current := by
    rw [Cursor.current, Cursor.current, alone, followed]
    cases faulty <;> rfl
  exact congrArg Token.span same

theorem current_ofTokens_faulty (noTag : ∀ token ∈ faulty.head?, token.kind ≠ .symbol .atSign) :
    (Cursor.ofTokens (faulty ++ semicolon :: rest)).current.kind ≠ .symbol .atSign := by
  rw [Cursor.current, remaining_ofTokens_faulty inert isSemicolon]
  cases faulty with
  | nil =>
    show semicolon.kind ≠ _
    intro isTag
    cases isSemicolon.symm.trans isTag
  | cons token faulty => exact noTag token rfl

section

variable (rules : TagRules) (noTag : ∀ token ∈ faulty.head?, token.kind ≠ .symbol .atSign)
variable (fails : statement maxNesting false (Cursor.ofTokens (faulty ++ semicolon :: rest)) = .error error after)
include noTag fails

/-- The errors of a source whose first statement fails, and whose tokens `left` are left after
recovery. -/
theorem programErrors_of_error
    (ends : after.endSpan = (Cursor.ofTokens (faulty ++ semicolon :: rest)).endSpan)
    (active : after.aborted = false) {left : List Token}
    (fewer : left.length ≤ (Cursor.ofTokens rest).remaining.length)
    (recovers : ∀ {startLength}, (Cursor.ofTokens rest).remaining.length < startLength → ∃ previous, after.recover error startLength = { after with remaining := left, previous, errors := [error] }) :
    programErrors rules (faulty ++ semicolon :: rest) =
      error :: { Cursor.ofTokens rest with remaining := left }.statementErrors := by
  have tokens := remaining_ofTokens_faulty inert isSemicolon rest
  have longer : (Cursor.ofTokens rest).remaining.length <
      (Cursor.ofTokens (faulty ++ semicolon :: rest)).remaining.length := by
    rw [tokens, List.length_append, List.length_cons]
    omega
  obtain ⟨previous, recovered⟩ := recovers longer
  obtain ⟨statements, errors⟩ :=
    statementErrors_of_error rfl (List.ne_nil_of_length_pos (Nat.zero_lt_of_lt longer)) fails
  rw [programErrors_of_noTag rules (current_ofTokens_faulty inert isSemicolon rest noTag), errors,
    recovered]
  have same : ({ after with remaining := left, previous, errors := [error] } : Cursor).remaining =
      ({ Cursor.ofTokens rest with remaining := left } : Cursor).remaining := rfl
  refine errorsOf_loopWithin same (fun more => ?_) ⟨active, rfl⟩ rfl
    (Nat.lt_of_le_of_lt fewer longer) statements
  have nonempty : rest ≠ [] := by
    rintro rfl
    exact more (List.length_eq_zero_iff.mp (Nat.le_zero.mp fewer))
  exact ends.trans (endSpan_ofTokens_faulty inert isSemicolon rest nonempty)

/-- A statement that fails before its semicolon is taken leaves the rest as it is. -/
theorem programErrors_of_before {alone : Cursor}
    (before : (Ending.ofTokens isSemicolon rest (Cursor.ofTokens (faulty ++ semicolon :: rest)).endSpan).Before alone after) :
    programErrors rules (faulty ++ semicolon :: rest) =
      error :: (Cursor.ofTokens rest).statementErrors :=
  programErrors_of_error inert isSemicolon rest rules noTag fails before.endSpan before.active.2
    (Nat.le_refl _) fun longer => ⟨_, before.recover error longer⟩

/-- A statement that fails because of its semicolon takes the next one with it. -/
theorem programErrors_of_after {alone : Cursor}
    (behind : (Ending.ofTokens isSemicolon rest (Cursor.ofTokens (faulty ++ semicolon :: rest)).endSpan).After alone after) :
    programErrors rules (faulty ++ semicolon :: rest) =
      error :: (Cursor.ofTokens rest).afterFaulty.statementErrors := by
  by_cases more : (Cursor.ofTokens rest).remaining = []
  · -- At the end of the source reading is given up.
    have atEnd : after.atEnd = true := List.isEmpty_iff.mpr (behind.tokens.2.trans more)
    have nonempty : (Cursor.ofTokens (faulty ++ semicolon :: rest)).remaining ≠ [] := by
      rw [remaining_ofTokens_faulty inert isSemicolon]
      exact List.append_ne_nil_of_right_ne_nil _ (List.cons_ne_nil _ _)
    obtain ⟨statements, errors⟩ := statementErrors_of_error rfl nonempty fails
    rw [programErrors_of_noTag rules (current_ofTokens_faulty inert isSemicolon rest noTag),
      errors, Counterpart.recover_of_atEnd error _ behind.active.2 atEnd,
      errorsOf_of_stopped rfl (List.length_pos_iff.mpr nonempty), behind.errors.2]
    have nothing : (Cursor.ofTokens rest).afterFaulty.remaining = [] := by
      rw [Cursor.afterFaulty, more]
      rfl
    rw [statementErrors_of_nil nothing]
    rfl
  · refine programErrors_of_error inert isSemicolon rest rules noTag fails behind.endSpan
      behind.active.2 (Counterpart.length_skipFaulty_le _) fun longer => ?_
    rw [behind.recover error longer more, skipFaulty_remaining 0 _ (Cursor.ofTokens rest).previous]
    exact ⟨_, rfl⟩

end

/-- A faulty statement fails in the same way whatever comes after it. -/
theorem exists_statement_error (rules : TagRules)
    (noTag : ∀ token ∈ faulty.head?, token.kind ≠ .symbol .atSign)
    (invalid : ∀ program, programOfTokens rules (faulty ++ [semicolon]) ≠ .ok program) :
    ∃ error alone,
      statement maxNesting false (Cursor.ofTokens (faulty ++ [semicolon])) = .error error alone ∧
      ∀ rest, ∃ after,
        statement maxNesting false (Cursor.ofTokens (faulty ++ semicolon :: rest)) =
          .error error after ∧
        ((Ending.ofTokens isSemicolon rest
            (Cursor.ofTokens (faulty ++ semicolon :: rest)).endSpan).Before alone after ∨
          (Ending.ofTokens isSemicolon rest
            (Cursor.ofTokens (faulty ++ semicolon :: rest)).endSpan).After alone after) := by
  have outcome (rest : List Token) :=
    ((Ending.closes_nestedTo maxNesting).statement false).outcome
      (before_ofTokens inert isSemicolon rest)
  simp only [nestedTo] at outcome
  cases read : statement maxNesting false (Cursor.ofTokens (faulty ++ [semicolon])) with
  | ok accepted after =>
    have whole := outcome []
    rw [read] at whole
    generalize statement maxNesting false _ = again at whole
    cases whole with
    | ok goes => exact goes.related.1.elim
    | ended closed =>
      have nonempty : (Cursor.ofTokens (faulty ++ [semicolon])).remaining ≠ [] := by
        rw [remaining_ofTokens_faulty inert isSemicolon]
        exact List.append_ne_nil_of_right_ne_nil _ (List.cons_ne_nil _ _)
      have noTagFirst := current_ofTokens_faulty inert isSemicolon [] noTag
      exact absurd (programOfTokens_of_statement rules nonempty noTagFirst read closed.1 closed.2)
        (invalid _)
  | error error alone =>
    refine ⟨error, alone, rfl, fun rest => ?_⟩
    have failed := outcome rest
    rw [read] at failed
    generalize statement maxNesting false (Cursor.ofTokens (faulty ++ semicolon :: rest)) = result
      at failed ⊢
    cases failed with
    | @error _ _ error' after same fault _ =>
      obtain ⟨message, span⟩ := error
      obtain ⟨_, _⟩ := error'
      obtain ⟨rfl, rfl⟩ := same
      exact ⟨_, rfl, fault⟩

end Isolated

/-- A faulty statement has exactly one error, whatever comes after it.  The errors after it
are those of the rest alone, unless its semicolon was taken for a name: then the statement
after it is skipped as well. -/
theorem faulty_statement_isolated (rules : TagRules) {faulty rest : List Token} {semicolon : Token}
    (inert : ∀ token ∈ faulty, isInert token.kind = true)
    (isSemicolon : semicolon.kind = .symbol .semicolon)
    (noTag : ∀ token ∈ faulty.head?, token.kind ≠ .symbol .atSign)
    (invalid : ∀ program, programOfTokens rules (faulty ++ [semicolon]) ≠ .ok program)
    (noTagAfter : ∀ token ∈ rest.head?, token.kind ≠ .symbol .atSign) :
    ∃ error alone,
      statement maxNesting false (Cursor.ofTokens (faulty ++ [semicolon])) = .error error alone ∧
      programErrors rules (faulty ++ [semicolon]) = [error] ∧
      (alone.remaining ≠ [] →
        programErrors rules (faulty ++ semicolon :: rest) = error :: programErrors rules rest) ∧
      (alone.remaining = [] →
        programErrors rules (faulty ++ semicolon :: rest) =
          error :: (Cursor.ofTokens rest).afterFaulty.statementErrors) := by
  obtain ⟨error, alone, fails, followed⟩ :=
    exists_statement_error inert isSemicolon rules noTag invalid
  refine ⟨error, alone, fails, ?_, ?_⟩
  · obtain ⟨after, failsAlone, fault⟩ := followed []
    rcases fault with before | behind
    · rw [programErrors_of_before inert isSemicolon [] rules noTag failsAlone before]
      exact congrArg (List.cons error) (statementErrors_of_nil rfl)
    · rw [programErrors_of_after inert isSemicolon [] rules noTag failsAlone behind]
      exact congrArg (List.cons error) (statementErrors_of_nil rfl)
  · obtain ⟨after, failsFollowed, fault⟩ := followed rest
    rcases fault with before | behind
    · have more : alone.remaining ≠ [] := by
        obtain ⟨inner, -, tokens, -⟩ := before.tokens
        rw [tokens]
        exact List.append_ne_nil_of_right_ne_nil _ (List.cons_ne_nil _ _)
      refine ⟨fun _ => ?_, fun none => absurd none more⟩
      rw [programErrors_of_before inert isSemicolon rest rules noTag failsFollowed before,
        programErrors_of_noTag rules (current_ofTokens_ne noTagAfter nofun)]
    · refine ⟨fun more => absurd behind.tokens.1 more, fun _ => ?_⟩
      exact programErrors_of_after inert isSemicolon rest rules noTag failsFollowed behind

/-- The statement `1 = 2`, whose target is no reference. -/
def faultyAssignment : List Token :=
  [.number 1, .symbol .assign, .number 2].map unplacedToken

/-- A declaration without a name. -/
def namelessDeclaration : List Token :=
  [unplacedToken (.keyword .varWord)]

/-- The end of a statement. -/
def semicolonToken : Token :=
  unplacedToken (.symbol .semicolon)

/-- A source with an error is no program. -/
theorem not_accepted_of_errors {rules : TagRules} {tokens : List Token}
    (some : (programErrors rules tokens).length ≠ 0) (program : Program) :
    programOfTokens rules tokens ≠ .ok program := by
  intro accepted
  rw [programErrors, accepted] at some
  exact some rfl

/-- Two faulty assignments have two errors. -/
theorem faulty_statement_isolated_assignments :
    ∃ error,
      programErrors .standard (faultyAssignment ++ [semicolonToken]) = [error] ∧
      programErrors .standard (faultyAssignment ++ semicolonToken ::
        (faultyAssignment ++ [semicolonToken])) = [error, error] := by
  have noTag : ∀ token ∈ faultyAssignment.head?, token.kind ≠ .symbol .atSign := by
    rintro token ⟨⟩
    exact nofun
  have noTagAfter : ∀ token ∈ (faultyAssignment ++ [semicolonToken]).head?,
      token.kind ≠ .symbol .atSign := by
    rintro token ⟨⟩
    exact nofun
  have invalid : ∀ program,
      programOfTokens .standard (faultyAssignment ++ [semicolonToken]) ≠ .ok program :=
    not_accepted_of_errors (by decide)
  obtain ⟨error, alone, fails, one, isolated, -⟩ :=
    faulty_statement_isolated .standard (by decide) rfl noTag invalid noTagAfter
  -- The assignment fails at its operator.
  have before : (cursorAfter (statement maxNesting false
      (Cursor.ofTokens (faultyAssignment ++ [semicolonToken])))).remaining.length = 2 := by
    decide
  rw [fails] at before
  have notTaken : alone.remaining ≠ [] := by
    intro empty
    rw [cursorAfter, empty] at before
    cases before
  exact ⟨error, one, (isolated notTaken).trans (congrArg (List.cons error) one)⟩

/-- The errors after a faulty statement are not always those of the rest alone: in
`var; 1 = 2;` the semicolon is taken for a name, and the assignment is skipped. -/
theorem not_faulty_statement_isolated :
    ¬ ∀ (rules : TagRules) (faulty rest : List Token) (semicolon : Token),
      faulty ≠ [] →
      (∀ token ∈ faulty, isInert token.kind = true) →
      semicolon.kind = .symbol .semicolon →
      (∀ token ∈ faulty.head?, token.kind ≠ .symbol .atSign) →
      (∀ program, programOfTokens rules (faulty ++ [semicolon]) ≠ .ok program) →
      (∀ token ∈ rest.head?, token.kind ≠ .symbol .atSign) →
      ∃ error,
        programErrors rules (faulty ++ semicolon :: rest) = error :: programErrors rules rest := by
  intro isolated
  have noTag : ∀ token ∈ namelessDeclaration.head?, token.kind ≠ .symbol .atSign := by
    rintro token ⟨⟩
    exact nofun
  have noTagAfter : ∀ token ∈ (faultyAssignment ++ [semicolonToken]).head?,
      token.kind ≠ .symbol .atSign := by
    rintro token ⟨⟩
    exact nofun
  obtain ⟨error, errors⟩ := isolated .standard namelessDeclaration
    (faultyAssignment ++ [semicolonToken]) semicolonToken (List.cons_ne_nil _ _) (by decide) rfl
    noTag (not_accepted_of_errors (by decide)) noTagAfter
  have together : (programErrors .standard (namelessDeclaration ++ semicolonToken ::
      (faultyAssignment ++ [semicolonToken]))).length = 1 := by
    decide
  have alone : (programErrors .standard (faultyAssignment ++ [semicolonToken])).length = 1 := by
    decide
  rw [errors, List.length_cons, alone] at together
  cases together

end Grammar
end PatchScript
