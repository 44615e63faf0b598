import PatchScript.Proofs.Grammar.Lookahead

/-!
# Reading two sources side by side

Readers decide by the kinds of the tokens that come next, and look at nothing else.  So on
two sources whose next tokens are of the same kinds they return the same syntax up to
places, or fail with the same message, and stop at corresponding tokens.

What corresponds is left open (`Pairing`), since the sources may differ in their places, in
what was recorded before, or in what comes after the end of a statement.  Expressions never
go on after a semicolon, but a reader that asks for a name takes whatever comes next before
it fails, be it a semicolon.
-/

namespace PatchScript

variable {found found' : List Expr} {last last' : Expr}

/-- Two forms of expressions are the same up to places. -/
abbrev ExprForm.Same (left right : ExprForm) : Prop :=
  left.unplaced = right.unplaced

/-- Two references are the same up to places. -/
abbrev Reference.Same (left right : Reference) : Prop :=
  left.unplaced = right.unplaced

/-- Two forms of statements are the same up to places. -/
abbrev StatementForm.Same (left right : StatementForm) : Prop :=
  left.unplaced = right.unplaced

/-- Two statements are the same up to places. -/
abbrev Statement.Same (left right : Statement) : Prop :=
  left.unplaced = right.unplaced

/-- Two lists of statements are the same up to places. -/
abbrev Statement.SameList (left right : List Statement) : Prop :=
  Statement.unplacedList left = Statement.unplacedList right

/-- Two function bodies are the same up to places. -/
abbrev FunctionBody.Same (left right : FunctionBody) : Prop :=
  left.unplaced = right.unplaced

/-- Two lists of expressions are the same up to places. -/
abbrev Expr.SameList (left right : List Expr) : Prop :=
  Expr.unplacedList left = Expr.unplacedList right

/-- Two lists of entries are the same up to places. -/
abbrev Expr.SameEntries (left right : List (String × Expr)) : Prop :=
  Expr.unplacedEntries left = Expr.unplacedEntries right

theorem Expr.SameList.concat (same : Expr.SameList found found')
    (sameLast : last.unplaced = last'.unplaced) :
    Expr.SameList (found ++ [last]) (found' ++ [last']) := by
  simp only [SameList, unplacedList_eq_map, List.map_append, List.map_singleton] at same ⊢
  rw [same, sameLast]

theorem Statement.unplacedList_eq_map (statements : List Statement) :
    Statement.unplacedList statements = statements.map Statement.unplaced := by
  induction statements with
  | nil => rfl
  | cons statement rest ih => simp [unplacedList, ih]

theorem Statement.SameList.concat {found found' : List Statement}
    (same : Statement.SameList found found') {last last' : Statement} (sameLast : last.Same last') :
    Statement.SameList (found ++ [last]) (found' ++ [last']) := by
  simp only [SameList, unplacedList_eq_map, List.map_append, List.map_singleton] at same ⊢
  rw [same, sameLast]

section

variable {found found' : List (String × Expr)} (same : Expr.SameEntries found found') (key : String)
include same

theorem Expr.SameEntries.concat (sameLast : last.unplaced = last'.unplaced) :
    Expr.SameEntries (found ++ [(key, last)]) (found' ++ [(key, last')]) := by
  simp only [SameEntries, unplacedEntries_eq_map, List.map_append, List.map_singleton] at same ⊢
  rw [same, sameLast]

theorem Expr.SameEntries.isSome_lookup :
    (found.lookup key).isSome = (found'.lookup key).isSome := by
  have keys : Entries.keys found = Entries.keys found' := by
    simp only [SameEntries, unplacedEntries_eq_map] at same
    have firsts := congrArg (List.map Prod.fst) same
    simpa [Entries.keys, Function.comp_def] using firsts
  rw [Bool.eq_iff_iff, Entries.isSome_lookup, Entries.isSome_lookup, keys]

end

theorem Expr.unplaced_reference? (expr : Expr) :
    expr.unplaced.reference? = expr.reference?.map Reference.unplaced := by
  obtain ⟨span, form⟩ := expr
  cases form <;> rfl

namespace Grammar

variable {α β : Type} {cursor cursor' : Cursor} {γ : Type}

/-- Two sources that are read side by side. -/
structure Pairing where
  /-- Which places correspond. -/
  place : Span → Span → Prop
  /-- From which cursors reading goes on. -/
  near : Cursor → Cursor → Prop
  /-- At which cursors reading may have failed. -/
  fault : Cursor → Cursor → Prop
  /-- At which cursors of the first source it does not matter any more how the second goes on. -/
  closed : Cursor → Prop
  /-- Whether reading can go on after a statement. -/
  continues : Prop
  /-- Which tokens can be taken before reading goes on. -/
  free : TokenKind → Prop
  /-- How many tokens more the second source has. -/
  surplus : Nat
  through : ∀ {start start' stop stop'}, place start start' → place stop stop' →
    place (start.through stop) (start'.through stop')
  length : ∀ {cursor cursor'}, near cursor cursor' →
    cursor'.remaining.length = cursor.remaining.length + surplus
  kind : ∀ {cursor cursor'}, near cursor cursor' → cursor.current.kind = cursor'.current.kind
  span : ∀ {cursor cursor'}, near cursor cursor' → place cursor.current.span cursor'.current.span
  following : ∀ {cursor cursor'}, near cursor cursor' →
    cursor.current.kind ≠ .symbol .semicolon → cursor.following.kind = cursor'.following.kind
  /-- The tokens taken last correspond, once one was taken. -/
  previous : ∀ {cursor cursor' after after'}, near cursor cursor' → near after after' →
    after.remaining.length < cursor.remaining.length → place after.previous after'.previous
  stay : ∀ {cursor cursor'}, near cursor cursor' → fault cursor cursor'
  take : ∀ {cursor cursor'}, near cursor cursor' → free cursor.current.kind →
    near cursor.advance cursor'.advance
  /-- Tokens other than a semicolon can be taken. -/
  free_of_ne : ∀ {kind}, kind ≠ .symbol .semicolon → free kind
  /-- A semicolon can be taken as well, or it closes the first source. -/
  takeLast : ∀ {cursor cursor'}, near cursor cursor' → cursor.current.kind = .symbol .semicolon →
    continues ∧ near cursor.advance cursor'.advance ∨ closed cursor.advance
  /-- Any token can be taken by a reader that fails because of it. -/
  takeFaulty : ∀ {cursor cursor'}, near cursor cursor' → fault cursor.advance cursor'.advance
  /-- Nothing is left of a source that is closed. -/
  ended : ∀ {cursor}, closed cursor → cursor.remaining = []

/-- Whether a turn goes on, as the number of tokens that it has to take. -/
def Turn.taken : Turn α β → Nat
  | .again _ => 1
  | .done _ => 0

/-- Two turns have decided alike. -/
inductive Turn.Alike (state : α → α → Prop) (result : β → β → Prop) :
    Turn α β → Turn α β → Prop
  | again {next next'} : state next next' → Alike state result (.again next) (.again next')
  | done {value value'} : result value value' → Alike state result (.done value) (.done value')

namespace Pairing

variable {bound larger : Nat} {first second : Parse α} {span span' : Span} {symbol : Symbol}
variable {next next' : α → Parse β} {same : α → α → Prop} {alike : β → β → Prop}

/-- Two tokens correspond. -/
structure Token (pair : Pairing) (left right : PatchScript.Token) : Prop where
  kind : left.kind = right.kind
  span : pair.place left.span right.span

/-- Two errors correspond. -/
structure Error (pair : Pairing) (left right : ParseError) : Prop where
  message : left.message = right.message
  span : pair.place left.span right.span

/-- Two expressions are the same and stand at corresponding places. -/
structure Same (pair : Pairing) (left right : Expr) : Prop where
  unplaced : left.unplaced = right.unplaced
  span : pair.place left.span right.span

/-- Reading goes on after what may be the end of a statement. -/
def Later (pair : Pairing) (same : α → α → Prop) (left right : α) : Prop :=
  pair.continues ∧ same left right

/-- Reading goes on after related results, with so many tokens taken as each result requires. -/
structure Goes (pair : Pairing) (same : α → α → Prop) (taken : α → Nat) (bound : Nat)
    (value : α) (after : Cursor) (value' : α) (after' : Cursor) : Prop where
  related : same value value'
  near : pair.near after after'
  shorter : after.remaining.length + taken value ≤ bound

/-- Two readers have both succeeded, or have both failed with no more tokens left than there
were, or the first has come to a final cursor. -/
inductive Outcome (pair : Pairing) (final : Cursor → Prop) (same : α → α → Prop)
    (taken : α → Nat) (bound : Nat) :
    EStateM.Result ParseError Cursor α → EStateM.Result ParseError Cursor α → Prop
  | ok {value after value' after'} :
    pair.Goes same taken bound value after value' after' →
    Outcome pair final same taken bound (.ok value after) (.ok value' after')
  | ended {value after result} :
    final after → Outcome pair final same taken bound (.ok value after) result
  | error {failure after failure' after'} :
    pair.Error failure failure' → pair.fault after after' → after.remaining.length ≤ bound →
    Outcome pair final same taken bound (.error failure after) (.error failure' after')

/-- Two readers return related results, or fail alike, unless the first ends. -/
structure Runs (pair : Pairing) (final : Cursor → Prop) (same : α → α → Prop) (taken : α → Nat)
    (first second : Parse α) : Prop where
  outcome : ∀ {cursor cursor'}, pair.near cursor cursor' →
    pair.Outcome final same taken cursor.remaining.length (first cursor) (second cursor')

/-- Two readers return related results, or fail alike. -/
abbrev Reads (pair : Pairing) (same : α → α → Prop) (first second : Parse α) : Prop :=
  pair.Runs (fun _ => False) same (fun _ => 0) first second

/-- The same of a reader on both sources. -/
abbrev ReadsAlike (pair : Pairing) (same : α → α → Prop) (reader : Parse α) : Prop :=
  pair.Reads same reader reader

/-- The same of a reader that does not succeed without taking a token. -/
abbrev TakesAlike (pair : Pairing) (same : α → α → Prop) (reader : Parse α) : Prop :=
  pair.Runs (fun _ => False) same (fun _ => 1) reader reader

/-- Two turns decide alike, or fail alike.  A turn that goes on has taken a token. -/
abbrev Turns (pair : Pairing) (state : α → α → Prop) (result : β → β → Prop)
    (first second : Parse (Turn α β)) : Prop :=
  pair.Runs (fun _ => False) (Turn.Alike state result) Turn.taken first second

/-- One turn decides alike on both sources. -/
abbrev TurnsAlike (pair : Pairing) (state : α → α → Prop) (result : β → β → Prop)
    (turn : Parse (Turn α β)) : Prop :=
  pair.Turns state result turn turn

variable {pair : Pairing} {final : Cursor → Prop} {taken : α → Nat} {later : β → Nat}
variable {condition : Prop} {function function' : α → β} (message : String)

theorem Outcome.imp {first second : EStateM.Result ParseError Cursor α} {fewer : α → Nat}
    (outcome : pair.Outcome final same taken bound first second) (le : bound ≤ larger)
    (enough : ∀ value, fewer value + bound ≤ taken value + larger) :
    pair.Outcome final same fewer larger first second := by
  cases outcome with
  | @ok value after value' after' goes =>
    have shorter := goes.shorter
    have enough := enough value
    exact .ok ⟨goes.related, goes.near, by omega⟩
  | ended ends => exact .ended ends
  | error error fault shorter => exact .error error fault (Nat.le_trans shorter le)

theorem Outcome.bind {before : Cursor → Prop}
    (outcome : pair.Outcome before same taken bound (first cursor) (second cursor'))
    (goesOn : ∀ {value after value' after'}, pair.Goes same taken bound value after value' after' →
      pair.Outcome final alike later bound (next value after) (next' value' after'))
    (ends : ∀ {after} value, before after →
      ∃ result, next value after = .ok result after ∧ final after) :
    pair.Outcome final alike later bound ((first >>= next) cursor) ((second >>= next') cursor') := by
  simp only [Bind.bind, EStateM.bind]
  generalize first cursor = result, second cursor' = result' at outcome
  cases outcome with
  | ok goes => exact goesOn goes
  | @ended value after _ closed =>
    obtain ⟨result, returned, still⟩ := ends value closed
    simp only [returned]
    exact .ended still
  | error error fault shorter => exact .error error fault shorter

namespace Runs

theorem pure {value value' : α} (related : same value value') :
    pair.Runs final same (fun _ => 0) (Pure.pure value) (Pure.pure value') :=
  ⟨fun near => .ok ⟨related, near, Nat.le_refl _⟩⟩

theorem done {state : α → α → Prop} {value value' : β} (related : alike value value') :
    pair.Turns state alike (Pure.pure (.done value)) (Pure.pure (.done value')) :=
  ⟨fun near => .ok ⟨.done related, near, Nat.le_refl _⟩⟩

theorem reads (runs : pair.Runs final same taken first second) :
    pair.Runs final same (fun _ => 0) first second :=
  ⟨fun near => (runs.outcome near).imp (Nat.le_refl _) fun _ => by omega⟩

/-- Readers one after the other, where the second one ends if the first has ended. -/
theorem chain {before : Cursor → Prop} {total : β → Nat}
    (runs : pair.Runs before same taken first second)
    (goesOn : ∀ {value value'}, same value value' →
      pair.Runs final alike later (next value) (next' value'))
    (enough : ∀ value result, total result ≤ taken value + later result)
    (ends : ∀ {after} value, before after →
      ∃ result, next value after = .ok result after ∧ final after) :
    pair.Runs final alike total (first >>= next) (second >>= next') := by
  constructor
  intro cursor cursor' near
  refine (runs.outcome near).bind (fun {value _ _ _} goes => ?_) ends
  have shorter := goes.shorter
  refine ((goesOn goes.related).outcome goes.near).imp (by omega) fun result => ?_
  have := enough value result
  omega

theorem bind (reads : pair.Runs (fun _ => False) same taken first second)
    (goesOn : ∀ {value value'}, same value value' →
      pair.Runs final alike later (next value) (next' value')) :
    pair.Runs final alike later (first >>= next) (second >>= next') :=
  reads.chain goesOn (fun _ _ => Nat.le_add_left ..) fun _ => False.elim

/-- A reader has taken a token if its first part has. -/
theorem takes (takes : pair.Runs (fun _ => False) same (fun _ => 1) first second)
    (goesOn : ∀ {value value'}, same value value' →
      pair.Runs final alike (fun _ => 0) (next value) (next' value')) :
    pair.Runs final alike (fun _ => 1) (first >>= next) (second >>= next') :=
  takes.chain goesOn (fun _ _ => Nat.le_refl 1) fun _ => False.elim

section

variable {count : Nat} (runs : pair.Runs final same (fun _ => count) first second)
include runs

/-- What comes after a reader that may have ended takes nothing then. -/
theorem andThen
    (goesOn : ∀ {value value'}, same value value' → pair.Runs final alike (fun _ => 0) (next value) (next' value'))
    (ends : ∀ {after} value, final after → ∃ result, next value after = .ok result after) :
    pair.Runs final alike (fun _ => count) (first >>= next) (second >>= next') := by
  refine runs.chain goesOn (fun _ _ => Nat.le_refl _) fun value closed => ?_
  obtain ⟨result, returned⟩ := ends value closed
  exact ⟨result, returned, closed⟩

/-- What is made of the result. -/
theorem result
    (implies : ∀ {value value'}, same value value' → alike (function value) (function' value')) :
    pair.Runs final alike (fun _ => count) (first >>= fun value => Pure.pure (function value))
      (second >>= fun value => Pure.pure (function' value)) :=
  runs.andThen (fun related => pure (implies related)) fun _ _ => ⟨_, rfl⟩

theorem map
    (implies : ∀ {value value'}, same value value' → alike (function value) (function value')) :
    pair.Runs final alike (fun _ => count) (function <$> first) (function <$> second) := by
  rw [map_eq_pure_bind, map_eq_pure_bind]
  exact runs.result implies

end

theorem ite [Decidable condition] {first' second' : Parse α}
    (whenTrue : condition → pair.Runs final same taken first second)
    (whenFalse : ¬ condition → pair.Runs final same taken first' second') :
    pair.Runs final same taken (if condition then first else first')
      (if condition then second else second') := by
  by_cases holds : condition
  · rw [if_pos holds, if_pos holds]
    exact whenTrue holds
  · rw [if_neg holds, if_neg holds]
    exact whenFalse holds

end Runs

/-! ## Tokens -/

theorem runs_failAt (placed : pair.place span span') :
    pair.Runs final same taken (failAt message span) (failAt message span') :=
  ⟨fun near => .error ⟨rfl, placed⟩ (pair.stay near) (Nat.le_refl _)⟩

/-- Nothing comes after a failure. -/
theorem runs_failing (placed : pair.place span span') :
    pair.Runs final alike later (failAt message span >>= next) (failAt message span' >>= next') :=
  ⟨fun near => .error ⟨rfl, placed⟩ (pair.stay near) (Nat.le_refl _)⟩

theorem reads_get : pair.Reads pair.near (get : Parse Cursor) get :=
  ⟨fun near => .ok ⟨near, near, Nat.le_refl _⟩⟩

theorem token_current (near : pair.near cursor cursor') :
    pair.Token cursor.current cursor'.current :=
  ⟨pair.kind near, pair.span near⟩

theorem reads_peek : pair.ReadsAlike pair.Token peek :=
  reads_get.bind fun near => .pure (token_current near)

theorem reads_previousSpan : pair.ReadsAlike (fun _ _ => True) previousSpan :=
  reads_get.bind fun _ => .pure trivial

theorem runs_failHere : pair.Runs final same taken (failHere message) (failHere message) :=
  ⟨fun near => .error ⟨rfl, pair.span near⟩ (pair.stay near) (Nat.le_refl _)⟩

theorem runs_failExpected (expected : String) :
    pair.Runs final same taken (failExpected expected) (failExpected expected) := by
  apply reads_peek.bind
  rintro ⟨kind, span⟩ ⟨_, span'⟩ ⟨rfl, placed⟩
  exact runs_failAt _ placed

theorem reads_atSymbol (symbol : Symbol) : pair.ReadsAlike Eq (atSymbol symbol) := by
  apply reads_peek.bind
  rintro ⟨kind, span⟩ ⟨_, span'⟩ ⟨rfl, -⟩
  dsimp only
  split <;> exact .pure rfl

theorem free_symbol (different : symbol ≠ .semicolon) : pair.free (.symbol symbol) :=
  pair.free_of_ne fun same => different (TokenKind.symbol.inj same)

theorem length_advance_le (cursor : Cursor) :
    cursor.advance.remaining.length ≤ cursor.remaining.length := by
  rw [Cursor.remaining_advance, List.length_tail]
  exact Nat.sub_le _ _

theorem length_advance_lt (present : cursor.current.kind ≠ .endOfFile) :
    cursor.advance.remaining.length < cursor.remaining.length := by
  cases remaining : cursor.remaining with
  | nil =>
    rw [Cursor.current, remaining] at present
    exact absurd rfl present
  | cons token rest => simp [Cursor.remaining_advance, remaining]

theorem reads_takeSymbol (free : pair.free (.symbol symbol)) :
    pair.ReadsAlike Eq (takeSymbol symbol) := by
  constructor
  intro cursor cursor' near
  by_cases found : cursor.current.kind = .symbol symbol
  · rw [takeSymbol_of_eq found, takeSymbol_of_eq (pair.kind near ▸ found)]
    exact .ok ⟨rfl, pair.take near (found ▸ free), length_advance_le cursor⟩
  · rw [takeSymbol_of_ne found, takeSymbol_of_ne (pair.kind near ▸ found)]
    exact .ok ⟨rfl, near, Nat.le_refl _⟩

theorem reads_takeKeyword (keyword : Keyword) : pair.ReadsAlike Eq (takeKeyword keyword) := by
  constructor
  intro cursor cursor' near
  by_cases found : cursor.current.kind = .keyword keyword
  · rw [takeKeyword_of_eq found, takeKeyword_of_eq (pair.kind near ▸ found)]
    refine .ok ⟨rfl, pair.take near (pair.free_of_ne ?_), length_advance_le cursor⟩
    rw [found]
    exact nofun
  · rw [takeKeyword_of_ne found, takeKeyword_of_ne (pair.kind near ▸ found)]
    exact .ok ⟨rfl, near, Nat.le_refl _⟩

theorem takes_expectSymbol (free : pair.free (.symbol symbol)) (expected : String) :
    pair.TakesAlike Eq (expectSymbol symbol expected) := by
  constructor
  intro cursor cursor' near
  by_cases found : cursor.current.kind = .symbol symbol
  · rw [expectSymbol_of_eq found, expectSymbol_of_eq (pair.kind near ▸ found)]
    refine .ok ⟨rfl, pair.take near (found ▸ free), length_advance_lt ?_⟩
    rw [found]
    exact nofun
  · rw [expectSymbol_of_ne found, expectSymbol_of_ne (pair.kind near ▸ found)]
    exact (runs_failExpected expected).outcome near

theorem reads_expectSymbol (free : pair.free (.symbol symbol)) (expected : String) :
    pair.ReadsAlike Eq (expectSymbol symbol expected) :=
  (takes_expectSymbol free expected).reads

theorem reads_expectKeyword (keyword : Keyword) (expected : String) :
    pair.ReadsAlike Eq (expectKeyword keyword expected) := by
  apply (reads_takeKeyword keyword).bind
  rintro found _ rfl
  exact .ite (fun _ => .pure rfl) (fun _ => runs_failExpected expected)

/-- A reader may take a token before it looks at it, if it fails at a semicolon. -/
theorem runs_taken {next next' : PatchScript.Token → Parse α}
    (fails : ∀ span span', ∃ message,
      next { kind := .symbol .semicolon, span } = failAt message span ∧
      next' { kind := .symbol .semicolon, span := span' } = failAt message span')
    (goesOn : ∀ {token token'}, pair.Token token token' →
      pair.Runs final same taken (next token) (next' token')) :
    pair.Runs final same taken (advance >>= next) (advance >>= next') := by
  constructor
  intro cursor cursor' near
  rw [advance_bind, advance_bind]
  have shorter := length_advance_le cursor
  by_cases last : cursor.current.kind = .symbol .semicolon
  · have same := pair.kind near
    have placed := pair.span near
    generalize cursor.current = token at last same placed
    generalize cursor'.current = token' at same placed
    obtain ⟨kind, span⟩ := token
    obtain ⟨kind', span'⟩ := token'
    cases last
    cases same
    obtain ⟨message, first, second⟩ := fails span span'
    rw [first, second]
    exact .error ⟨rfl, placed⟩ (pair.takeFaulty near) shorter
  · exact ((goesOn (token_current near)).outcome (pair.take near (pair.free_of_ne last))).imp shorter
      fun _ => Nat.add_le_add_left shorter _

theorem reads_takeName (expected : String) : pair.ReadsAlike Eq (takeName expected) := by
  apply runs_taken fun _ _ => ⟨_, rfl, rfl⟩
  rintro ⟨kind, span⟩ ⟨_, span'⟩ ⟨rfl, placed⟩
  dsimp only
  split
  · exact .pure rfl
  · exact .pure rfl
  · exact runs_failAt _ placed

theorem reads_takePropertyName : pair.ReadsAlike Eq takePropertyName := by
  apply runs_taken fun _ _ => ⟨_, rfl, rfl⟩
  rintro ⟨kind, span⟩ ⟨_, span'⟩ ⟨rfl, placed⟩
  dsimp only
  split
  · exact .pure rfl
  · exact runs_failAt _ placed

/-! ## Loops -/

section Loops

variable {state : α → α → Prop} {result : β → β → Prop}

/-- Reading goes on unless something is wrong. -/
theorem runs_unless {wrong : Prop} [Decidable wrong] {message : String}
    (placed : pair.place span span') {next next' : PUnit → Parse α}
    (goesOn : pair.Runs final same taken (next ⟨⟩) (next' ⟨⟩)) :
    pair.Runs final same taken
      (if wrong then failAt message span >>= next else next ⟨⟩)
      (if wrong then failAt message span' >>= next' else next' ⟨⟩) :=
  .ite (fun _ => runs_failing message placed) (fun _ => goesOn)

/-- A comma asks for another turn. -/
theorem turns_unlessComma {next next' : α} (related : state next next')
    {otherwise otherwise' : Parse (Turn α β)}
    (ends : pair.Turns state result otherwise otherwise') :
    pair.Turns state result
      (takeSymbol .comma >>= fun taken => if taken then pure (.again next) else otherwise)
      (takeSymbol .comma >>= fun taken => if taken then pure (.again next') else otherwise') := by
  constructor
  intro cursor cursor' near
  by_cases comma : cursor.current.kind = .symbol .comma
  · rw [bind_of_ok (takeSymbol_of_eq comma), bind_of_ok (takeSymbol_of_eq (pair.kind near ▸ comma))]
    refine .ok ⟨.again related, pair.take near (pair.free_of_ne ?_), length_advance_lt ?_⟩
    all_goals
      rw [comma]
      exact nofun
  · rw [bind_of_ok (takeSymbol_of_ne comma), bind_of_ok (takeSymbol_of_ne (pair.kind near ▸ comma))]
    exact ends.outcome near

theorem turns_commaTurn {found found' : List β} {listed : List β → List β → Prop}
    (related : listed found found') :
    pair.Turns listed listed (commaTurn found) (commaTurn found') :=
  turns_unlessComma related (.done related)

variable {start start' : α} {turn turn' : α → Parse (Turn α β)}

variable (step : ∀ {next next'}, state next next' → pair.Turns state result (turn next) (turn' next'))
variable (related : state start start')
include step related

/-- The bounds of two loops do not matter, since every turn takes a token. -/
theorem outcome_loopWithin (near : pair.near cursor cursor') {bound' : Nat}
    (enough : cursor.remaining.length < bound) (enough' : cursor'.remaining.length < bound') :
    pair.Outcome (fun _ => False) result (fun _ => 0) cursor.remaining.length
      (loopWithin turn bound start cursor) (loopWithin turn' bound' start' cursor') := by
  induction bound generalizing bound' start start' cursor cursor' with
  | zero => exact absurd enough (Nat.not_lt_zero _)
  | succ bound ih =>
    obtain ⟨bound', rfl⟩ := Nat.exists_eq_add_one.mpr (Nat.zero_lt_of_lt enough')
    refine ((step related).outcome near).bind (fun goes => ?_) fun _ => False.elim
    obtain ⟨decided, nearAfter, shorter⟩ := goes
    cases decided with
    | done relatedValue => exact .ok ⟨relatedValue, nearAfter, shorter⟩
    | again relatedNext =>
      simp only [Turn.taken] at shorter
      have lengths := pair.length near
      have lengthsAfter := pair.length nearAfter
      exact (ih relatedNext nearAfter (by omega) (by omega)).imp (by omega) fun _ => by omega

theorem reads_loop : pair.Reads result (loop turn start) (loop turn' start') :=
  ⟨fun near => outcome_loopWithin step related near (Nat.lt_succ_self _) (Nat.lt_succ_self _)⟩

end Loops

/-! ## Expressions -/

theorem reads_requireReference {expr expr' : Expr} (same : pair.Same expr expr') (action : String) :
    pair.Reads Reference.Same (requireReference expr action) (requireReference expr' action) := by
  have targets := congrArg Expr.reference? same.unplaced
  rw [Expr.unplaced_reference?, Expr.unplaced_reference?] at targets
  unfold requireReference
  cases first : expr.reference? <;> cases second : expr'.reference? <;>
    rw [first, second] at targets
  case none.none => exact runs_failAt _ same.span
  case some.some => exact .pure (Option.some.inj targets)
  all_goals cases targets

theorem turns_parameter (found : List Parameter) : pair.TurnsAlike Eq Eq (parameter found) := by
  apply reads_peek.bind
  rintro token token' ⟨-, placed⟩
  apply (reads_takeKeyword _).bind
  rintro isRoot _ rfl
  have root : pair.ReadsAlike Eq (Pure.pure Parameter.root) := .pure rfl
  have named : pair.ReadsAlike Eq (Parameter.named <$> takeName "parameter name") :=
    (reads_takeName _).map (congrArg _)
  refine .ite (fun _ => root.bind ?_) (fun _ => named.bind ?_)
  all_goals
    rintro next _ rfl
    exact runs_unless placed (turns_commaTurn rfl)

theorem reads_functionParameters : pair.ReadsAlike Eq functionParameters := by
  apply (reads_expectSymbol (free_symbol (by decide)) _).bind
  rintro - - -
  apply (reads_atSymbol _).bind
  rintro empty _ rfl
  have rest {found found' : List Parameter} (same : found = found') :
      pair.Reads Eq
        (expectSymbol .rightParen "')' after parameters" >>= fun _ => Pure.pure found)
        (expectSymbol .rightParen "')' after parameters" >>= fun _ => Pure.pure found') :=
    (reads_expectSymbol (free_symbol (by decide)) _).bind fun _ => .pure same
  refine .ite (fun _ => (Runs.pure rfl).bind rest) (fun _ => (reads_loop ?_ rfl).bind rest)
  rintro found _ rfl
  exact turns_parameter found

theorem reads_libraryForm : pair.ReadsAlike ExprForm.Same libraryForm := by
  apply (reads_expectSymbol (free_symbol (by decide)) _).bind
  rintro - - -
  apply runs_taken fun _ _ => ⟨_, rfl, rfl⟩
  rintro ⟨kind, span⟩ ⟨_, span'⟩ ⟨rfl, placed⟩
  dsimp only
  split
  · exact (reads_expectSymbol (free_symbol (by decide)) _).bind fun _ => .pure rfl
  · exact runs_failAt _ placed

theorem reads_kindTestForm {value value' : Expr} (same : pair.Same value value') :
    pair.Reads ExprForm.Same (kindTestForm value) (kindTestForm value') := by
  apply runs_taken fun _ _ => ⟨_, rfl, rfl⟩
  rintro ⟨kind, span⟩ ⟨_, span'⟩ ⟨rfl, placed⟩
  dsimp only
  split
  · exact .pure (by simp [ExprForm.Same, same.unplaced])
  · exact runs_failAt _ placed

end Pairing

/-- The readers for nested syntax read two sources alike. -/
structure Nested.Paired (nested : Nested) (pair : Pairing) : Prop where
  expression : ∀ floor, pair.TakesAlike pair.Same (nested.expression floor)
  body : pair.ReadsAlike (pair.Later FunctionBody.Same) (functionBlock nested)

namespace Pairing

section Nested

variable {pair : Pairing} {nested : Nested} (paired : nested.Paired pair)
variable {left left' : Expr} {token token' : PatchScript.Token}

include paired

theorem reads_expression (floor : Nat) : pair.ReadsAlike pair.Same (nested.expression floor) :=
  (paired.expression floor).reads

theorem reads_whole : pair.ReadsAlike pair.Same nested.whole := reads_expression paired _

theorem turns_argument (same : Expr.SameList found found') :
    pair.Turns Expr.SameList Expr.SameList (argument nested found) (argument nested found') :=
  (reads_whole paired).bind fun last => turns_commaTurn (same.concat last.unplaced)

theorem reads_callArguments : pair.ReadsAlike Expr.SameList (callArguments nested) := by
  apply (reads_atSymbol _).bind
  rintro empty _ rfl
  have rest {found found' : List Expr} (same : Expr.SameList found found') :
      pair.Reads Expr.SameList
        (expectSymbol .rightParen "')' after arguments" >>= fun _ => Pure.pure found)
        (expectSymbol .rightParen "')' after arguments" >>= fun _ => Pure.pure found') :=
    (reads_expectSymbol (free_symbol (by decide)) _).bind fun _ => .pure same
  have none : pair.ReadsAlike Expr.SameList (Pure.pure []) := .pure rfl
  exact .ite (fun _ => none.bind rest)
    (fun _ => (reads_loop (fun same => turns_argument paired same) rfl).bind rest)

theorem turns_arrayItem (same : Expr.SameList found found') :
    pair.Turns Expr.SameList Expr.SameList (arrayItem nested found) (arrayItem nested found') := by
  apply (reads_atSymbol _).bind
  rintro closed _ rfl
  exact .ite (fun _ => .done same) (fun _ => turns_argument paired same)

theorem reads_arrayForm : pair.ReadsAlike ExprForm.Same (arrayForm nested) :=
  (reads_loop (fun same => turns_arrayItem paired same) rfl).bind fun same =>
    (reads_expectSymbol (free_symbol (by decide)) _).bind fun _ => .pure (by simp [ExprForm.Same, same])

theorem turns_objectEntry {found found' : List (String × Expr)}
    (same : Expr.SameEntries found found') :
    pair.Turns Expr.SameEntries Expr.SameEntries
      (objectEntry nested found) (objectEntry nested found') := by
  apply (reads_atSymbol _).bind
  rintro closed _ rfl
  refine .ite (fun _ => .done same) (fun _ => ?_)
  apply runs_taken fun _ _ => ⟨_, rfl, rfl⟩
  rintro ⟨kind, span⟩ ⟨_, span'⟩ ⟨rfl, placed⟩
  dsimp only
  split
  · exact runs_failAt _ placed
  · next key _ =>
    rw [same.isSome_lookup key]
    apply runs_unless placed
    apply (reads_expectSymbol (free_symbol (by decide)) _).bind
    rintro - - -
    exact (reads_whole paired).bind fun last => turns_commaTurn (same.concat key last.unplaced)

theorem reads_objectForm : pair.ReadsAlike ExprForm.Same (objectForm nested) :=
  (reads_loop (fun same => turns_objectEntry paired same) rfl).bind fun same =>
    (reads_expectSymbol (free_symbol (by decide)) _).bind fun _ => .pure (by simp [ExprForm.Same, same])

theorem reads_functionForm (start start' : Span) :
    pair.Reads ExprForm.Same (functionForm nested start) (functionForm nested start') := by
  apply reads_functionParameters.bind
  rintro parameters _ rfl
  apply (reads_takeSymbol (free_symbol (by decide))).bind
  rintro arrow _ rfl
  have rest {body body' : FunctionBody} (same : body.Same body') :
      pair.Reads ExprForm.Same
        (previousSpan >>= fun stop =>
          Pure.pure (.function (.node none parameters body (start.through stop))))
        (previousSpan >>= fun stop =>
          Pure.pure (.function (.node none parameters body' (start'.through stop)))) :=
    reads_previousSpan.bind fun _ => .pure (by simp [ExprForm.Same, same])
  have value : pair.ReadsAlike FunctionBody.Same (FunctionBody.expression <$> nested.whole) :=
    (reads_whole paired).map fun same => by simp [FunctionBody.Same, same.unplaced]
  exact .ite (fun _ => value.bind rest) (fun _ => paired.body.bind fun body => rest body.2)

theorem reads_leadingUpdate (increment : Bool) :
    pair.ReadsAlike ExprForm.Same (leadingUpdate nested increment) :=
  (reads_expression paired _).bind fun same => (reads_requireReference same _).bind fun target =>
    .pure (by simp [ExprForm.Same, target])

theorem reads_symbolTerm (same : pair.Token token token') (symbol : Symbol) :
    pair.Reads ExprForm.Same (symbolTerm nested token symbol) (symbolTerm nested token' symbol) := by
  obtain ⟨kind, span⟩ := token
  obtain ⟨_, span'⟩ := token'
  obtain ⟨rfl, placed⟩ := same
  unfold symbolTerm
  split
  · refine (reads_whole paired).bind fun same => ?_
    refine (reads_expectSymbol (free_symbol (by decide)) _).bind fun _ => .pure ?_
    exact Expr.unplaced_eq_iff.mp same.unplaced
  · exact reads_arrayForm paired
  · exact reads_objectForm paired
  · exact reads_leadingUpdate paired true
  · exact reads_leadingUpdate paired false
  · split
    · exact (reads_expression paired _).bind fun same =>
        .pure (by simp [ExprForm.Same, same.unplaced])
    · exact runs_failAt _ placed

theorem reads_termForm (same : pair.Token token token') :
    pair.Reads ExprForm.Same (termForm nested token) (termForm nested token') := by
  obtain ⟨kind, span⟩ := token
  obtain ⟨_, span'⟩ := token'
  have placed := same.span
  cases same.kind
  unfold termForm
  dsimp only
  split
  all_goals first
    | exact .pure rfl
    | exact .pure (by simp [ExprForm.Same])
    | exact reads_functionForm paired _ _
    | exact reads_libraryForm
    | exact reads_symbolTerm paired same _
    | exact runs_failAt _ placed

omit paired in
/-- What was read after a first token makes up an expression together with it. -/
theorem outcome_spanned (wrap : Expr → γ) {alike : γ → γ → Prop} {taken : γ → Nat}
    (implies : ∀ {expr expr'}, pair.Same expr expr' → alike (wrap expr) (wrap expr'))
    (one : ∀ expr, taken (wrap expr) = 1) {first second : Parse ExprForm}
    (reads : pair.Reads ExprForm.Same first second) {start start' : Span}
    (placed : pair.place start start') (near : pair.near cursor cursor')
    (free : pair.free cursor.current.kind) (present : cursor.current.kind ≠ .endOfFile) :
    pair.Outcome (fun _ => False) alike taken cursor.remaining.length
      ((advance >>= fun _ => first >>= fun form => previousSpan >>= fun stop =>
        Pure.pure (wrap (.node (start.through stop) form))) cursor)
      ((advance >>= fun _ => second >>= fun form => previousSpan >>= fun stop =>
        Pure.pure (wrap (.node (start'.through stop) form))) cursor') := by
  rw [advance_bind, advance_bind]
  have shorter := length_advance_lt present
  have read : pair.Outcome (fun _ => False) ExprForm.Same (fun _ => 1) cursor.remaining.length
      (first cursor.advance) (second cursor'.advance) :=
    (reads.outcome (pair.take near free)).imp (Nat.le_of_lt shorter) fun _ => by omega
  refine read.bind (fun goes => ?_) fun _ => False.elim
  obtain ⟨same, nearAfter, moved⟩ := goes
  refine .ok ⟨implies ⟨Expr.unplaced_eq_iff.mpr same, ?_⟩, nearAfter, (one _).symm ▸ moved⟩
  exact pair.through placed (pair.previous near nearAfter moved)

theorem takes_term : pair.TakesAlike pair.Same (term nested) := by
  constructor
  intro cursor cursor' near
  have same := token_current near
  rw [term, peek_bind, peek_bind, ← same.kind]
  by_cases starts : startsTerm cursor.current.kind = true
  · have goesOn : cursor.current.kind ≠ .symbol .semicolon ∧ cursor.current.kind ≠ .endOfFile := by
      constructor <;>
      · intro stops
        rw [stops] at starts
        cases starts
    rw [if_pos starts, if_pos starts]
    exact outcome_spanned id id (fun _ => rfl) (reads_termForm paired same) same.span near
      (pair.free_of_ne goesOn.1) goesOn.2
  · rw [if_neg starts, if_neg starts]
    have fails : pair.TakesAlike (fun _ _ : PUnit => False)
        (failHere ("Expected an expression, found " ++ cursor.current.kind.describe)) :=
      runs_failHere _
    exact (fails.bind False.elim).outcome near

theorem reads_continueForm (same : pair.Same left left') (continuation : Continuation) :
    pair.Reads ExprForm.Same (continueForm nested left continuation)
      (continueForm nested left' continuation) := by
  cases continuation with
  | assign op =>
    exact (reads_requireReference same _).bind fun target =>
      (reads_whole paired).bind fun value => .pure (by simp [ExprForm.Same, target, value.unplaced])
  | logical op | binary op =>
    exact (reads_expression paired _).bind fun right =>
      .pure (by simp [ExprForm.Same, same.unplaced, right.unplaced])
  | kindTest => exact reads_kindTestForm same
  | call =>
    exact (reads_callArguments paired).bind fun arguments =>
      .pure (by simp [ExprForm.Same, same.unplaced, arguments])
  | index =>
    exact (reads_whole paired).bind fun index => (reads_expectSymbol (free_symbol (by decide)) _).bind fun _ =>
      reads_previousSpan.bind fun _ =>
        .pure (by simp [ExprForm.Same, same.unplaced, index.unplaced])
  | property =>
    refine reads_takePropertyName.bind ?_
    rintro name _ rfl
    exact reads_previousSpan.bind fun _ => .pure (by simp [ExprForm.Same, same.unplaced])
  | update increment =>
    exact (reads_requireReference same _).bind fun target => .pure (by simp [ExprForm.Same, target])

theorem turns_continueOnce (floor : Nat) (same : pair.Same left left') :
    pair.Turns pair.Same pair.Same (continueOnce nested floor left)
      (continueOnce nested floor left') := by
  constructor
  intro cursor cursor' near
  rw [continueOnce, continueOnce, peek_bind, peek_bind, ← pair.kind near]
  cases found : continuation? cursor.current.kind with
  | none => exact (Runs.done same).outcome near
  | some continuation =>
    by_cases weak : continuation.precedence.rank ≤ floor
    · simp only [if_pos weak]
      exact (Runs.done same).outcome near
    · simp only [if_neg weak]
      have goesOn : cursor.current.kind ≠ .symbol .semicolon ∧
          cursor.current.kind ≠ .endOfFile := by
        constructor <;>
        · intro stops
          rw [stops] at found
          cases found
      exact outcome_spanned Turn.again .again (fun _ => rfl)
        (reads_continueForm paired same continuation) same.span near (pair.free_of_ne goesOn.1)
        goesOn.2

theorem takes_climb (floor : Nat) : pair.TakesAlike pair.Same (climb nested floor) :=
  (takes_term paired).takes fun first => reads_loop (turns_continueOnce paired floor) first

theorem reads_condition : pair.ReadsAlike pair.Same (condition nested) :=
  (reads_expectSymbol (free_symbol (by decide)) _).bind fun _ =>
    (reads_whole paired).bind fun same =>
      (reads_expectSymbol (free_symbol (by decide)) _).bind fun _ => .pure same

theorem reads_unlessSymbol (symbol : Symbol) :
    pair.ReadsAlike (fun option option' => Expr.unplacedOption option = Expr.unplacedOption option')
      (unlessSymbol nested symbol) := by
  apply (reads_atSymbol symbol).bind
  rintro found _ rfl
  refine .ite (fun _ => .pure rfl) (fun _ => (reads_whole paired).bind fun same => .pure ?_)
  exact congrArg some same.unplaced

end Nested

end Pairing
end Grammar
end PatchScript
