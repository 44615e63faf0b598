import PatchScript.Proofs.Grammar.Counterpart
import PatchScript.Proofs.Grammar.Placing
import PatchScript.Proofs.Grammar.TreeRule

/-!
# Syntax in its place

What expressions, statements and their parts are read as is laid out well, from where it
starts to the last token taken, and the errors found on the way are in order.  What is read
without an error keeps the rule of its level of nesting, if each level encloses the next.  The
placeholder of a faulty statement is only ever left together with an error.
-/

namespace PatchScript

theorem Expr.parts_of_reference? {expr : Expr} {target : Reference}
    (found : expr.reference? = some target) : expr.outline.parts = [target.outline] := by
  obtain ⟨span, form⟩ := expr
  cases form with
  | reference target' =>
    cases found
    rfl
  | _ => cases found

theorem Expr.outlineList_concat (exprs : List Expr) (last : Expr) :
    outlineList (exprs ++ [last]) = outlineList exprs ++ [last.outline] := by
  rw [outlineList_eq_map, outlineList_eq_map, List.map_append]
  rfl

theorem Expr.outlineEntries_concat (entries : List (String × Expr)) (key : String) (last : Expr) :
    outlineEntries (entries ++ [(key, last)]) = outlineEntries entries ++ [last.outline] := by
  rw [outlineEntries_eq_map, outlineEntries_eq_map, List.map_append]
  rfl

variable (statements : List Statement)

theorem Statement.outlineList_concat (last : Statement) :
    outlineList (statements ++ [last]) = outlineList statements ++ [last.outline] := by
  rw [outlineList_eq_map, outlineList_eq_map, List.map_append]
  rfl

namespace Grammar

variable {α β : Type}

section Spanned

variable {file : String} {base origin : Position} {read : List Outline} {closed : Prop}
variable {marks : List Mark} {parts : List Outline} {start : Span} {good : α → Prop}
variable {post : α → Cursor → Prop}

/-- A node that starts at a span and at a position fits behind what was read before. -/
structure Room (file : String) (base : Position) (read : List Outline) (origin : Position)
    (start : Span) : Prop where
  file_eq : start.file = file
  start_eq : start.start = origin
  before : Outline.Fits file base read origin
  later : base ≤ origin

theorem Cursor.Lies.room {cursor : Cursor} (lies : cursor.Lies file base read closed marks) :
    Room file base read cursor.ahead cursor.current.span :=
  ⟨lies.ordered.file_current, rfl, lies.before_ahead, lies.base_le⟩

/-- Everything read since a token makes up a node. -/
theorem yields_spanned {make : Span → α} (isGood : ∀ span, good (make span))
    (holds : ∀ span cursor, cursor.Lies file base
      (read ++ [.node (start.through span) parts]) True [.operand (start.through span)] →
      post (make span) cursor) :
    Yields file
      (fun cursor => cursor.Lies file origin parts True marks ∧ Room file base read origin start)
      (previousSpan >>= fun stop => pure (make stop)) post good where
  toSteady := steady_previousSpan.bind fun _ => .pure _
  placed := by
    rintro cursor ⟨lies, sameFile, rfl, before, later⟩
    exact .ok (holds cursor.previous cursor (Cursor.Lies.node
      (show cursor.Lies file (start.through cursor.previous).start _ _ _ from lies)
      sameFile rfl before later))
  sound := by
    rintro cursor after value ⟨⟩ none
    exact isGood _

/-- A node whose form is read. -/
theorem yields_node {pre : Cursor → Prop} {reader : Parse β} {goodForm : β → Prop}
    (outlines : β → List Outline)
    (form : Yields file pre reader (fun form => Cursor.Lies file origin (outlines form) True [])
      goodForm)
    (make : Span → β → α) (isGood : ∀ span form, goodForm form → good (make span form))
    (holds : ∀ span form cursor, cursor.Lies file base
      (read ++ [.node span (outlines form)]) True [.operand span] → post (make span form) cursor) :
    Yields file (fun cursor => pre cursor ∧ Room file base read origin start)
      (reader >>= fun form => previousSpan >>= fun stop => pure (make (start.through stop) form))
      post good :=
  (form.framed _).bind fun form =>
    yields_spanned (fun _ => isGood _ form) fun span => holds (start.through span) form

/-- The next token is looked at. -/
theorem triple_peekHere :
    Triple file (Cursor.Lies file base read closed marks) peek fun token cursor =>
      (cursor.Lies file token.span.start [] False marks ∧ cursor.current = token) ∧
        Room file base read token.span.start token.span :=
  .plain steady_peek fun lies => .ok ⟨⟨lies.rebase, rfl⟩, lies.room⟩

/-- An expression that has to be a reference may be refused where it starts. -/
theorem yields_requireReference (read : List Outline) (expr : Expr) (action : String)
    (marked : .operand expr.span ∈ marks) :
    Yields file (Cursor.Lies file base (read ++ [expr.outline]) closed marks)
      (requireReference expr action)
      (fun target => Cursor.Lies file base (read ++ [target.outline]) closed marks)
      fun target => expr.form = .reference target := by
  obtain ⟨span, form⟩ := expr
  cases form with
  | reference target => exact .pure rfl fun _ lies => lies.refit lies.fits.unfold_last
  | _ =>
    refine ⟨steady_failAt _ _, fun lies => .error ?_, by rintro _ _ _ ⟨⟩⟩
    have valid := lies.marked _ marked
    refine ⟨lies.toSound, valid.file_eq, valid.start_le, fun earlier member => ?_⟩
    obtain before | behind := Position.le_total earlier.span.start span.start
    · exact .inl before
    · exact .inr ⟨⟨action, rfl⟩, behind, valid.follows earlier member⟩

/-- A reader lays out what it reads from a position on. -/
abbrev Lays (file : String) (base : Position) (closed : Prop) (marks : List Mark)
    (outlines : α → List Outline) (good : α → Prop) (reader : Parse α) : Prop :=
  Yields file (Cursor.Lies file base [] closed marks) reader
    (fun result cursor => cursor.Lies file base (outlines result) True []) good

end Spanned

/-- An expression was read last. -/
abbrev Cursor.EndsIn (file : String) (base : Position) (read : List Outline)
    (expr : Expr) : Cursor → Prop :=
  Cursor.Lies file base (read ++ [expr.outline]) True [.operand expr.span]

/-- The readers for nested syntax put it in its place, and return what keeps a rule. -/
structure Nested.Places (file : String) (rule : TreeRule) (nested : Nested) : Prop where
  expression : ∀ floor {base read closed marks},
    Yields file (Cursor.Lies file base read closed marks) (nested.expression floor)
      (Cursor.EndsIn file base read) fun expr => rule.expr expr.form
  statement : ∀ inLoop {base read closed marks},
    Yields file (Cursor.Lies file base read closed marks) (nested.statement inLoop)
      (fun statement => Cursor.Lies file base (read ++ [statement.outline]) True [])
      fun statement => rule.statement inLoop statement.form

/-- If no error is recorded after recovery, reading had been given up before. -/
theorem Cursor.aborted_of_recover {cursor : Cursor} {error : ParseError} {startLength : Nat}
    (none : (cursor.recover error startLength).errors = []) :
    cursor.aborted = true ∧ cursor.recover error startLength = cursor := by
  cases aborted : cursor.aborted with
  | true => exact ⟨rfl, by rw [Cursor.recover, aborted, if_pos rfl]⟩
  | false =>
    rw [Cursor.recover, aborted] at none
    simp only [Bool.false_eq_true, if_false] at none
    split at none
    · simp at none
    · simp [Cursor.errors_synchronize] at none

section Nested

variable {file : String} {base : Position} {read : List Outline} {closed : Prop} {marks : List Mark}
variable {nested : Nested} {inner outer : TreeRule} (places : nested.Places file inner)

include places

theorem steady_statement (inLoop : Bool) : Steady (nested.statement inLoop) :=
  (@Nested.Places.statement file inner nested places inLoop .start [] False []).toSteady

theorem steady_expression (floor : Nat) : Steady (nested.expression floor) :=
  (@Nested.Places.expression file inner nested places floor .start [] False []).toSteady

/-! ## Blocks -/

/-- A placeholder stands where the statement was skipped. -/
theorem yields_recoveringStatement (inLoop : Bool) :
    Yields file (Cursor.Lies file base read closed marks) (recoveringStatement nested inLoop)
      (fun found => Cursor.Open file base (read ++ Statement.outlineOption found))
      fun found => ∀ statement ∈ found, inner.statement inLoop statement.form where
  toSteady := steady_recoveringStatement (steady_statement places inLoop)
  placed {cursor} lies := by
    have placed := (places.statement inLoop).placed lies
    have moves := (steady_statement places inLoop).moves cursor
    simp only [recoveringStatement]
    generalize nested.statement inLoop cursor = result at placed moves
    cases placed with
    | ok known => exact .ok known.opened
    | @error error after raised =>
      have moved := moves.trans (after.moves_recover error cursor.remaining.length)
      have opened := lies.recover moves raised cursor.remaining.length
      dsimp only
      split
      · refine .ok ?_
        rw [Statement.outlineOption, List.append_nil]
        exact opened
      · next active =>
        have shorter := Counterpart.length_recover_lt (eq_false_of_ne_true active)
          moves.suffix.length_le
        have none : Outline.Fits file cursor.ahead []
            (after.recover error cursor.remaining.length).reached :=
          .nil
        have placeholder := none.node (moved.ahead_lt lies.ordered shorter)
        have through : cursor.current.span.through
            (after.recover error cursor.remaining.length).previous =
            { file, start := cursor.ahead
              stop := (after.recover error cursor.remaining.length).reached } := by
          rw [Span.through, lies.ordered.file_current]
          rfl
        rw [through]
        exact .ok (opened.refit (lies.before_ahead.concat placeholder
          ⟨rfl, lies.base_le, le_refl _⟩ (le_refl _)))
  sound read none := by
    simp only [recoveringStatement] at read
    split at read
    · next statement middle statementRead =>
      cases read
      rintro other ⟨⟩
      exact (@Nested.Places.statement file inner nested places inLoop .start [] False []).sound
        statementRead none
    · split at read
      · cases read
        exact fun _ found => absurd found (Option.not_mem_none _)
      · next goesOn =>
        cases read
        obtain ⟨aborted, unchanged⟩ := Cursor.aborted_of_recover none
        rw [unchanged, aborted] at goesOn
        exact absurd rfl goesOn

theorem sustains_blockStatement (inLoop : Bool) :
    Sustains file (fun statements => Cursor.Open file base (Statement.outlineList statements))
      (fun statements => Cursor.Lies file base (Statement.outlineList statements) True [])
      (inner.statements inLoop) (blockStatement nested inLoop) := by
  intro statements
  refine (triple_takeSymbol _).before fun taken =>
    .ite (fun holds => .pure id fun cursor lies => ?_) fun _ => .glance (fun _ _ => rfl) fun place => ?_
  · exact lies.weaken (fun _ => .inr holds) nofun
  · refine .guarded (yields_failHere (fun _ lies => lies.toSound) _) ?_
    refine (yields_recoveringStatement places inLoop).bind fun found => ?_
    cases found with
    | some statement =>
      refine .pure (fun kept _ earlier => List.forall_mem_append.mpr
        ⟨earlier, List.forall_mem_singleton.mpr (kept statement rfl)⟩) fun cursor opened => ?_
      rw [Decided, Statement.outlineList_concat]
      exact opened
    | none => exact yields_failHere (fun _ opened => opened.toSound) _

theorem yields_block (inLoop : Bool) :
    Lays file base closed marks Statement.outlineList (inner.statements inLoop)
      (block nested inLoop) :=
  (triple_expectSymbol _ _).before fun _ =>
    ((yields_loop (fun _ _ opened => opened.toSound) (sustains_blockStatement places inLoop)
      []).given fun _ lies => lies.opened).imp fun _ kept => kept (List.forall_mem_nil _)

theorem yields_functionBlock :
    Lays file base closed marks FunctionBody.outlines inner.body (functionBlock nested) :=
  (yields_block places false).map (fun _ => id) fun _ _ lies => lies

/-! ## Expressions -/

theorem yields_whole :
    Yields file (Cursor.Lies file base read closed marks) nested.whole
      (Cursor.EndsIn file base read) fun expr => inner.expr expr.form :=
  places.expression _

theorem sustains_argument (read : List Outline) :
    Sustains file (fun found => Cursor.Open file base (read ++ Expr.outlineList found))
      (fun found => Cursor.Open file base (read ++ Expr.outlineList found)) inner.exprs
      (argument nested) := by
  refine fun found => (yields_whole places).bind fun expr => ?_
  have extended (cursor : Cursor)
      (lies : cursor.EndsIn file base (read ++ Expr.outlineList found) expr) :
      cursor.Open file base (read ++ Expr.outlineList (found ++ [expr])) := by
    rw [Expr.outlineList_concat, ← List.append_assoc]
    exact lies.opened
  exact .imp (yields_commaTurn extended extended) fun _ kept last earlier =>
    kept (List.forall_mem_append.mpr ⟨earlier, List.forall_mem_singleton.mpr last⟩)

theorem yields_callArguments :
    Yields file (Cursor.Lies file base read closed marks) (callArguments nested)
      (fun found => Cursor.Lies file base (read ++ Expr.outlineList found) True [])
      inner.exprs := by
  refine (triple_atSymbol _).before fun empty => ?_
  have none (cursor : Cursor) (lies : cursor.Lies file base read closed marks) :
      cursor.Open file base (read ++ Expr.outlineList []) := by
    rw [Expr.outlineList, List.append_nil]
    exact lies.opened
  have rest (found : List Expr) :
      Yields file (Cursor.Open file base (read ++ Expr.outlineList found))
        (expectSymbol .rightParen "')' after arguments" >>= fun _ => Pure.pure found)
        (fun found => Cursor.Lies file base (read ++ Expr.outlineList found) True [])
        fun result => inner.exprs found → inner.exprs result :=
    (triple_expectSymbol _ _).before fun _ => .pure id fun _ lies => lies
  have listed := (yields_loop (fun _ _ opened => opened.toSound) (sustains_argument places read)
    []).given none
  exact .ite (fun _ => .bind (.pure (List.forall_mem_nil _) none) rest)
    fun _ => (listed.imp fun _ each => each (List.forall_mem_nil _)).bind rest

theorem sustains_arrayItem :
    Sustains file (fun found => Cursor.Open file base (Expr.outlineList found))
      (fun found => Cursor.Open file base (Expr.outlineList found)) inner.exprs
      (arrayItem nested) :=
  fun found => (triple_atSymbol _).before fun _ => .ite (fun _ => .pure id fun _ opened => opened)
    fun _ => sustains_argument places [] found

/-- The entries of an object have distinct keys, and their values keep a rule. -/
theorem sustains_objectEntry :
    Sustains file (fun entries => Cursor.Open file base (Expr.outlineEntries entries))
      (fun entries => Cursor.Open file base (Expr.outlineEntries entries)) inner.entries
      (objectEntry nested) := by
  refine fun entries => (triple_atSymbol _).before fun closing =>
    .ite (fun _ => .pure id fun _ opened => opened) ?_
  refine fun _ => triple_advance.before fun token => ?_
  split
  · exact yields_failAt _ List.mem_cons_self
  · next key _ =>
    refine .guarded (yields_failAt _ List.mem_cons_self) ((triple_expectSymbol _ _).before fun _ => ?_)
    refine (yields_whole places).bind fun expr => ?_
    have extended (cursor : Cursor)
        (lies : cursor.Lies file base (Expr.outlineEntries entries ++ [expr.outline]) True
          [.operand expr.span]) :
        cursor.Open file base (Expr.outlineEntries (entries ++ [(key, expr)])) := by
      rw [Expr.outlineEntries_concat]
      exact lies.opened
    refine .imp (yields_commaTurn extended extended) fun _ kept last fresh earlier => kept ⟨?_, ?_⟩
    · rw [Entries.isSome_lookup] at fresh
      rw [Entries.keys, List.map_append, List.map_singleton, ← List.concat_eq_append]
      exact earlier.1.concat fresh
    · exact List.forall_mem_append.mpr ⟨earlier.2, List.forall_mem_singleton.mpr last⟩

variable (encloses : outer.Encloses inner)

include encloses

theorem yields_arrayForm :
    Lays file base closed marks ExprForm.outlines outer.expr (arrayForm nested) := by
  have items := (yields_loop (fun _ _ opened => opened.toSound) (sustains_arrayItem places)
    []).given fun _ (lies : Cursor.Lies file base [] closed marks _) => lies.opened
  exact items.bind fun found => (triple_expectSymbol _ _).before fun _ =>
    .pure (fun kept => encloses.expr (kept (List.forall_mem_nil _))) fun _ lies => lies

theorem yields_objectForm :
    Lays file base closed marks ExprForm.outlines outer.expr (objectForm nested) := by
  have entries := (yields_loop (fun _ _ opened => opened.toSound) (sustains_objectEntry places)
    []).given fun _ (lies : Cursor.Lies file base [] closed marks _) => lies.opened
  refine entries.bind fun found => (triple_expectSymbol _ _).before fun _ =>
    .pure (fun kept => ?_) fun _ lies => lies
  obtain ⟨distinct, values⟩ := kept ⟨List.nodup_nil, List.forall_mem_nil _⟩
  exact encloses.expr ⟨fun _ => distinct, values⟩

/-- A function stands from its keyword to the last token of its body. -/
theorem yields_functionForm (start : Span) :
    Yields file
      (fun cursor => cursor.Lies file base [] closed marks ∧ Room file base [] base start)
      (functionForm nested start) (fun form => Cursor.Lies file base form.outlines True [])
      outer.expr := by
  refine (yields_functionParameters.framed _).bind fun parameters =>
    ((triple_takeSymbol _).framed _).before fun arrow => ?_
  have rest (body : FunctionBody) :
      Yields file
        (fun cursor => cursor.Lies file base body.outlines True [] ∧ Room file base [] base start)
        (previousSpan >>= fun stop =>
          Pure.pure (ExprForm.function (.node none parameters body (start.through stop))))
        (fun form => Cursor.Lies file base form.outlines True [])
        fun form => inner.body body → parameters.Nodup → outer.expr form :=
    yields_spanned (fun _ kept distinct => encloses.expr ⟨distinct, kept⟩)
      fun _ _ lies => lies.unmarked
  refine .ite (fun _ => ?_) fun _ => ((yields_functionBlock places).framed _).bind rest
  exact .bind (.map ((yields_whole places).framed _) (fun _ => id)
    fun _ _ known => ⟨known.1.unmarked, known.2⟩) rest

theorem yields_leadingUpdate (increment : Bool) :
    Lays file base closed marks ExprForm.outlines outer.expr (leadingUpdate nested increment) :=
  (places.expression _).bind fun operand =>
    (yields_requireReference _ operand _ List.mem_cons_self).bind fun _ =>
      .pure (fun isTarget kept => encloses.expr (encloses.target (encloses.unwrap (isTarget ▸ kept))))
        fun _ lies => lies.unmarked

theorem yields_symbolTerm {token : Token} (marked : .token token.span ∈ marks) (symbol : Symbol) :
    Lays file base closed marks ExprForm.outlines outer.expr (symbolTerm nested token symbol) := by
  unfold symbolTerm
  split
  · refine (yields_whole places).bind fun inner => (triple_expectSymbol _ _).before fun _ => ?_
    -- The parentheses are left out, and with them the node of the inner expression.
    refine .pure encloses.unwrap fun cursor lies => (lies.refit ?_).unmarked
    rw [← Expr.parts_outline]
    exact lies.fits.unfold_last
  · exact yields_arrayForm places encloses
  · exact yields_objectForm places encloses
  · exact yields_leadingUpdate places encloses true
  · exact yields_leadingUpdate places encloses false
  · split
    · exact (places.expression _).bind fun _ =>
        .pure (fun kept => encloses.expr kept) fun _ lies => lies.unmarked
    · exact yields_failAt _ marked

omit places in
theorem yields_libraryForm :
    Lays file base closed marks ExprForm.outlines outer.expr libraryForm := by
  refine (triple_expectSymbol _ _).before fun _ => triple_advance.before fun token => ?_
  split
  · exact (triple_expectSymbol _ _).before fun _ =>
      .pure (encloses.expr trivial) fun _ lies => lies.unmarked
  · exact yields_failAt _ List.mem_cons_self

/-- A term whose first token was taken stands from there on. -/
theorem yields_termForm (token : Token) :
    Yields file
      (fun cursor => cursor.Lies file token.span.start [] True [.token token.span] ∧
        cursor.previous = token.span)
      (termForm nested token)
      (fun form => Cursor.Lies file token.span.start form.outlines True []) outer.expr := by
  have leaf {form : ExprForm} (none : form.outlines = []) (isGood : outer.expr form) :
      Yields file
        (fun cursor => cursor.Lies file token.span.start [] True [.token token.span] ∧
          cursor.previous = token.span)
        (Pure.pure form) (fun form => Cursor.Lies file token.span.start form.outlines True [])
        outer.expr :=
    .pure isGood fun _ known => none.symm ▸ known.1.unmarked
  have name {form : ReferenceForm} (none : form.outlines = []) (isGood : outer.reference form) :
      Yields file
        (fun cursor => cursor.Lies file token.span.start [] True [.token token.span] ∧
          cursor.previous = token.span)
        (Pure.pure (ExprForm.reference (.node token.span form)))
        (fun form => Cursor.Lies file token.span.start form.outlines True []) outer.expr := by
    refine .pure (encloses.expr isGood) fun cursor known => ?_
    have valid := known.1.marked _ List.mem_cons_self
    have node := known.1.node valid.file_eq (congrArg Span.stop known.2).symm .nil (le_refl _)
    rw [ExprForm.outlines, Reference.outline, none]
    exact node.unmarked
  unfold termForm
  split
  · exact leaf rfl (encloses.expr trivial)
  · exact leaf rfl (encloses.expr trivial)
  · exact name rfl (encloses.reference trivial)
  · exact name rfl (encloses.reference trivial)
  · exact leaf rfl (encloses.expr trivial)
  · exact leaf rfl (encloses.expr trivial)
  · exact leaf rfl (encloses.expr trivial)
  · exact leaf rfl (encloses.expr trivial)
  · refine (yields_functionForm places encloses token.span).given fun _ known => ⟨known.1, ?_⟩
    exact ⟨(known.1.marked _ List.mem_cons_self).file_eq, rfl, .nil, le_refl _⟩
  · exact (yields_libraryForm encloses).given fun _ known => known.1
  · exact (yields_symbolTerm places encloses List.mem_cons_self _).given fun _ known => known.1
  · exact (yields_failAt _ List.mem_cons_self).given fun _ known => known.1

theorem yields_term :
    Yields file (Cursor.Lies file base read closed marks) (term nested)
      (Cursor.EndsIn file base read) fun expr => outer.expr expr.form := by
  refine triple_peekHere.before fun token => ?_
  have taken : Triple file
      (fun cursor => ((cursor.Lies file token.span.start [] False marks ∧ cursor.current = token) ∧
        Room file base read token.span.start token.span) ∧ startsTerm token.kind = true)
      advance fun _ cursor =>
        (cursor.Lies file token.span.start [] True [.token token.span] ∧
          cursor.previous = token.span) ∧ Room file base read token.span.start token.span := by
    refine .plain steady_advance ?_
    rintro cursor ⟨⟨⟨lies, rfl⟩, room⟩, starter⟩
    have present : cursor.remaining ≠ [] := by
      refine Cursor.remaining_ne_nil rfl fun ended => ?_
      rw [ended] at starter
      cases starter
    exact .ok ⟨⟨lies.mark_current.advance.weaken (fun _ => .inr present)
      (List.forall_mem_singleton.mpr List.mem_cons_self), Cursor.previous_advance present⟩, room⟩
  refine .ite (fun starts => ?_) fun _ => yields_failHere (fun _ known => known.1.1.toSound) _
  exact .before (taken.given fun _ known => ⟨known, starts⟩) fun _ => yields_node ExprForm.outlines
    (yields_termForm places encloses token) Expr.node (fun _ _ kept => kept) fun _ _ _ lies => lies

omit places in
theorem yields_kindTestForm (value : Expr) :
    Yields file (Cursor.Lies file base [value.outline] closed marks) (kindTestForm value)
      (fun form cursor => cursor.Lies file base form.outlines closed [])
      fun form => outer.expr value.form → outer.expr form := by
  refine triple_advance.before fun token => ?_
  dsimp only
  split
  · exact .pure (fun kept => encloses.expr kept) fun _ lies => lies.unmark.kept.unmarked
  · exact yields_failAt _ List.mem_cons_self

/-- An expression is continued from where it starts. -/
theorem yields_continueForm (left : Expr) (continuation : Continuation) :
    Yields file (Cursor.Lies file left.span.start [left.outline] True [.operand left.span])
      (continueForm nested left continuation)
      (fun form => Cursor.Lies file left.span.start form.outlines True [])
      fun form => outer.expr left.form → outer.expr form := by
  have target (action : String) :
      Yields file (Cursor.Lies file left.span.start [left.outline] True [.operand left.span])
        (requireReference left action)
        (fun target => Cursor.Lies file left.span.start [target.outline] True [.operand left.span])
        fun target => left.form = .reference target :=
    yields_requireReference [] left action List.mem_cons_self
  have reference (form : ReferenceForm) {rest : List Outline} {marks : List Mark}
      (same : form.outlines = left.outline :: rest) {good : ExprForm → Prop}
      (isGood : ∀ span, good (.reference (.node span form))) :
      Yields file (Cursor.Lies file left.span.start form.outlines True marks)
        (previousSpan >>= fun stop =>
          Pure.pure (ExprForm.reference (.node (left.span.through stop) form)))
        (fun form => Cursor.Lies file left.span.start form.outlines True []) good := by
    refine .given (yields_spanned (fun _ => isGood _) fun _ _ lies => lies.unmarked)
      fun cursor lies => ⟨lies, ?_, rfl, .nil, le_refl _⟩
    rw [← Expr.span_outline]
    exact (lies.fits.within left.outline (same ▸ List.mem_cons_self)).file
  cases continuation with
  | assign op =>
    exact (target _).bind fun _ => (yields_whole places).bind fun _ =>
      .pure (fun value isTarget kept => encloses.expr ⟨encloses.target (isTarget ▸ kept), value⟩)
        fun _ lies => lies.unmarked
  | logical op | binary op =>
    exact (places.expression _).bind fun _ =>
      .pure (fun right kept => encloses.expr ⟨kept, right⟩) fun _ lies => lies.unmarked
  | kindTest => exact yields_kindTestForm encloses left
  | call =>
    exact (yields_callArguments places).bind fun _ =>
      .pure (fun arguments kept => encloses.expr ⟨kept, arguments⟩) fun _ lies => lies
  | index =>
    exact (yields_whole places).bind fun index => (triple_expectSymbol _ _).before fun _ =>
      reference (.index left index) rfl fun _ right kept =>
        encloses.expr (encloses.reference ⟨kept, right⟩)
  | property =>
    exact triple_takePropertyName.before fun name =>
      reference (.property left name) rfl fun _ kept => encloses.expr (encloses.reference kept)
  | update increment =>
    exact (target _).bind fun _ =>
      .pure (fun isTarget kept => encloses.expr (encloses.target (isTarget ▸ kept)))
        fun _ lies => lies.unmarked

theorem sustains_continueOnce (floor : Nat) :
    Sustains file (Cursor.EndsIn file base read) (Cursor.EndsIn file base read)
      (fun expr => outer.expr expr.form) (continueOnce nested floor) := by
  refine fun left => triple_peek.before fun token => ?_
  split
  · exact .pure id fun _ lies => lies.unmark
  · next continuation _ =>
    refine .ite (fun _ => .pure id fun _ lies => lies.unmark) fun _ => ?_
    have taken : Triple file
        (Cursor.Lies file base (read ++ [left.outline]) True [.token token.span, .operand left.span])
        advance fun _ cursor =>
          cursor.Lies file left.span.start [left.outline] True [.operand left.span] ∧
            Room file base read left.span.start left.span := by
      refine .plain steady_advance fun lies => .ok ?_
      have before := lies.fits.before_last
      have inside := lies.fits.within_last
      have rebased := lies.unmark.advance.kept.rebase_last
      rw [Expr.span_outline] at before inside rebased
      exact ⟨rebased, inside.file, rfl, before, inside.start⟩
    exact taken.before fun _ => yields_node ExprForm.outlines
      (yields_continueForm places encloses left continuation)
      (fun span form => Turn.again (Expr.node span form)) (fun _ _ kept => kept) fun _ _ _ lies => lies

theorem yields_climb (floor : Nat) :
    Yields file (Cursor.Lies file base read closed marks) (climb nested floor)
      (Cursor.EndsIn file base read) fun expr => outer.expr expr.form :=
  (yields_term places encloses).bind fun first =>
    yields_loop (fun _ _ lies => lies.toSound) (sustains_continueOnce places encloses floor) first

/-! ## Statements -/

omit encloses in
theorem yields_condition :
    Yields file (Cursor.Lies file base read closed marks) (condition nested)
      (fun expr => Cursor.Lies file base (read ++ [expr.outline]) True [])
      fun expr => inner.expr expr.form :=
  (triple_expectSymbol _ _).before fun _ => (yields_whole places).bind fun _ =>
    (triple_expectSymbol _ _).before fun _ => .pure id fun _ lies => lies.unmarked

theorem yields_conditionalForm (inLoop : Bool) :
    Lays file base closed marks StatementForm.outlines (outer.statement inLoop)
      (conditionalForm nested inLoop) := by
  refine (yields_condition places).bind fun test => (places.statement inLoop).bind fun branch => ?_
  refine (triple_takeKeyword _).before fun hasElse => ?_
  have rest (other : Option Statement) :
      Yields file
        (Cursor.Lies file base ([test.outline, branch.outline] ++ Statement.outlineOption other)
          True [])
        (Pure.pure (StatementForm.conditional test branch other))
        (fun form => Cursor.Lies file base form.outlines True [])
        fun form => (∀ statement ∈ other, inner.statement inLoop statement.form) →
          inner.statement inLoop branch.form → inner.expr test.form →
          outer.statement inLoop form :=
    .pure (fun second first kept => encloses.statement ⟨kept, first, second⟩) fun _ lies => lies
  refine .ite (fun _ => .bind (.map (places.statement inLoop) ?_ fun _ _ lies => lies) rest)
    fun _ => .bind (.pure ?_ fun _ lies => lies) rest
  · rintro _ kept statement ⟨⟩
    exact kept
  · exact fun _ found => absurd found (Option.not_mem_none _)

theorem yields_whileForm (inLoop : Bool) :
    Lays file base closed marks StatementForm.outlines (outer.statement inLoop)
      (whileForm nested) :=
  (yields_condition places).bind fun _ => (places.statement true).bind fun _ =>
    .pure (fun body test => encloses.statement ⟨test, body⟩) fun _ lies => lies

omit encloses in
theorem yields_declarationForm (isMutable : Bool) :
    Lays file base closed marks StatementForm.outlines inner.clause
      (declarationForm nested isMutable) :=
  (triple_takeName _).before fun _ => (triple_expectSymbol _ _).before fun _ =>
    (yields_whole places).bind fun _ => (triple_expectSymbol _ _).before fun _ =>
      .pure id fun _ lies => lies.unmarked

omit encloses in
theorem yields_initializerForm :
    Lays file base closed marks StatementForm.outlines inner.clause (initializerForm nested) := by
  refine triple_peek.before fun token => ?_
  split
  · exact triple_advance.before fun _ => yields_declarationForm places true
  · exact triple_advance.before fun _ => yields_declarationForm places false
  · exact (yields_whole places).bind fun _ => (triple_expectSymbol _ _).before fun _ =>
      .pure id fun _ lies => lies.unmarked

omit encloses in
theorem yields_loopInitializer :
    Yields file (Cursor.Lies file base read closed marks) (loopInitializer nested)
      (fun init => Cursor.Open file base (read ++ Statement.outlineOption init))
      fun init => ∀ statement ∈ init, inner.clause statement.form := by
  refine (triple_takeSymbol _).before fun taken =>
    .ite (fun _ => .pure (fun _ found => absurd found (Option.not_mem_none _)) fun cursor lies => ?_)
      fun _ => triple_peekHere.before fun token => ?_
  · rw [Statement.outlineOption, List.append_nil]
    exact lies.opened
  · refine yields_node StatementForm.outlines
      ((yields_initializerForm places).given fun _ known => known.1)
      (fun span form => some (Statement.node span form)) ?_ fun _ _ _ lies => lies.opened
    rintro span form kept statement ⟨⟩
    exact kept

omit encloses in
theorem yields_unlessSymbol (symbol : Symbol) :
    Yields file (Cursor.Lies file base read closed marks) (unlessSymbol nested symbol)
      (fun expr => Cursor.Open file base (read ++ Expr.outlineOption expr))
      fun found => ∀ expr ∈ found, inner.expr expr.form := by
  refine (triple_atSymbol _).before fun present =>
    .ite (fun _ => .pure (fun _ found => absurd found (Option.not_mem_none _)) fun cursor lies => ?_)
      fun _ => (yields_whole places).bind fun _ => .pure ?_ fun _ lies => lies.opened
  · rw [Expr.outlineOption, List.append_nil]
    exact lies.opened
  · rintro kept expr ⟨⟩
    exact kept

theorem yields_forForm (inLoop : Bool) :
    Lays file base closed marks StatementForm.outlines (outer.statement inLoop)
      (forForm nested) := by
  refine (triple_expectSymbol _ _).before fun _ => (yields_loopInitializer places).bind fun init => ?_
  refine (yields_unlessSymbol places _).bind fun test => (triple_expectSymbol _ _).before fun _ => ?_
  refine (yields_unlessSymbol places _).bind fun step => (triple_expectSymbol _ _).before fun _ => ?_
  refine (places.statement true).bind fun body => .pure (fun body step test init =>
    encloses.statement ⟨init, test, step, body⟩) fun cursor lies => ?_
  simp only [List.nil_append, List.append_assoc] at lies
  exact lies

theorem yields_foreachForm (inLoop : Bool) :
    Lays file base closed marks StatementForm.outlines (outer.statement inLoop)
      (foreachForm nested) :=
  (triple_expectSymbol _ _).before fun _ => (triple_takeName _).before fun _ =>
    (triple_expectKeyword _ _).before fun _ => (yields_whole places).bind fun _ =>
      (triple_expectSymbol _ _).before fun _ => (places.statement true).bind fun _ =>
        .pure (fun body iterable => encloses.statement ⟨iterable, body⟩) fun _ lies => lies

theorem yields_deleteForm (inLoop : Bool) :
    Lays file base closed marks StatementForm.outlines (outer.statement inLoop)
      (deleteForm nested) :=
  (yields_whole places).bind fun value =>
    (yields_requireReference _ value _ List.mem_cons_self).bind fun _ =>
      (triple_expectSymbol _ _).before fun _ => .pure (fun isTarget kept =>
        encloses.statement (show inner.expr _ from isTarget ▸ kept)) fun _ lies => lies.unmarked

theorem yields_returnForm (inLoop : Bool) :
    Lays file base closed marks StatementForm.outlines (outer.statement inLoop)
      (returnForm nested) :=
  (yields_unlessSymbol places _).bind fun _ => (triple_expectSymbol _ _).before fun _ =>
    .pure (fun kept => encloses.statement kept) fun _ lies => lies

omit places encloses in
/-- A jump is read only in a loop. -/
theorem yields_jumpForm (inLoop : Bool) {token : Token} (marked : .token token.span ∈ marks)
    {form : StatementForm} (leaf : form.outlines = [])
    (inside : inLoop = true → outer.statement inLoop form) :
    Lays file base closed marks StatementForm.outlines (outer.statement inLoop)
      (jumpForm inLoop token form) := by
  cases inLoop with
  | false => exact yields_failAt _ marked
  | true =>
    refine (triple_expectSymbol _ _).before fun _ => .pure (inside rfl) fun cursor lies => ?_
    rw [leaf]
    exact lies.unmarked

theorem yields_functionDeclaration (inLoop : Bool) (start : Span) :
    Yields file
      (fun cursor => cursor.Lies file base [] closed marks ∧ Room file base [] base start)
      (functionDeclaration nested start)
      (fun form => Cursor.Lies file base form.outlines True []) (outer.statement inLoop) :=
  ((triple_takeName _).framed _).before fun _ => (yields_functionParameters.framed _).bind fun _ =>
    ((yields_functionBlock places).framed _).bind fun _ =>
      yields_spanned (fun _ body distinct => encloses.statement ⟨fun _ => rfl, distinct, body⟩)
        fun _ _ lies => lies.unmarked

omit places in
theorem yields_importForm (inLoop : Bool) :
    Lays file base closed marks StatementForm.outlines (outer.statement inLoop) importForm := by
  refine triple_advance.before fun token => ?_
  split
  · next library _ =>
    have rest (binding : String) {closed : Prop} {marks : List Mark} :
        Lays file base closed marks StatementForm.outlines (outer.statement inLoop)
          (expectSymbol .semicolon "';' after import" >>= fun _ =>
            Pure.pure (StatementForm.importLibrary library binding)) :=
      (triple_expectSymbol _ _).before fun _ =>
        .pure (encloses.statement trivial) fun _ lies => lies.unmarked
    refine (triple_takeKeyword _).before fun named => .ite (fun _ => ?_) fun _ => ?_
    · exact (triple_takeName _).before fun binding => rest binding
    · exact .ite (fun _ => (Yields.done fun _ lies => lies).before fun binding => rest binding)
        fun _ => yields_failAt _ List.mem_cons_self
  · exact yields_failAt _ List.mem_cons_self

variable (inLoop : Bool)

theorem yields_applyForm :
    Lays file base closed marks StatementForm.outlines (outer.statement inLoop)
      (applyForm nested inLoop) :=
  (yields_condition places).bind fun _ => (places.statement inLoop).bind fun _ =>
    .pure (fun action target => encloses.statement ⟨target, action⟩) fun _ lies => lies

theorem yields_expressionForm :
    Lays file base closed marks StatementForm.outlines (outer.statement inLoop)
      (expressionForm nested) :=
  (yields_whole places).bind fun _ => (triple_expectSymbol _ _).before fun _ =>
    .pure (fun kept => encloses.statement kept) fun _ lies => lies.unmarked

/-- A statement stands from its first token on. -/
theorem yields_statementFormBy (token : Token) (following : TokenKind) :
    Yields file
      (fun cursor => cursor.Lies file base [] False [.token token.span] ∧ cursor.current = token ∧
        token.span.start = base)
      (statementFormBy nested inLoop token following)
      (fun form => Cursor.Lies file base form.outlines True []) (outer.statement inLoop) := by
  have here {reader : Parse StatementForm}
      (yields : Lays file base False [.token token.span] StatementForm.outlines
        (outer.statement inLoop) reader) :
      Yields file
        (fun cursor => cursor.Lies file base [] False [.token token.span] ∧
          cursor.current = token ∧ token.span.start = base)
        reader (fun form => Cursor.Lies file base form.outlines True [])
        (outer.statement inLoop) :=
    yields.given fun _ known => known.1
  have taken (other : Token) : .token token.span ∈ [Mark.token other.span, .token token.span] :=
    List.mem_cons_of_mem _ List.mem_cons_self
  have declared (isMutable : Bool) {closed : Prop} {marks : List Mark} :
      Lays file base closed marks StatementForm.outlines (outer.statement inLoop)
        (declarationForm nested isMutable) :=
    (yields_declarationForm places isMutable).imp fun _ => encloses.statement_of_clause
  unfold statementFormBy
  split
  · exact here ((yields_block places inLoop).map (fun _ kept => encloses.statement kept)
      fun _ _ lies => lies)
  · next semicolon =>
    have ended : Triple file
        (fun cursor => cursor.Lies file base [] False [.token token.span] ∧
          cursor.current = token ∧ token.span.start = base)
        advance fun _ => Cursor.Lies file base [] True [] := by
      refine .plain steady_advance ?_
      rintro cursor ⟨lies, rfl, -⟩
      have present := Cursor.remaining_ne_nil semicolon nofun
      exact .ok (lies.advance.weaken (fun _ => .inr present) nofun)
    exact ended.before fun _ => .pure (encloses.statement trivial) fun _ lies => lies
  · exact here (yields_failAt _ List.mem_cons_self)
  · exact here (yields_failAt _ List.mem_cons_self)
  · exact here (triple_advance.before fun _ => yields_conditionalForm places encloses inLoop)
  · exact here (triple_advance.before fun _ => yields_whileForm places encloses inLoop)
  · exact here (triple_advance.before fun _ => yields_forForm places encloses inLoop)
  · exact here (triple_advance.before fun _ => yields_foreachForm places encloses inLoop)
  · exact here (triple_advance.before fun _ => declared true)
  · exact here (triple_advance.before fun _ => declared false)
  · exact here (triple_advance.before fun _ => yields_deleteForm places encloses inLoop)
  · exact here (triple_advance.before fun _ => yields_returnForm places encloses inLoop)
  · exact here (triple_advance.before fun other =>
      yields_jumpForm inLoop (taken other) rfl fun inside => encloses.statement fun _ => inside)
  · exact here (triple_advance.before fun other =>
      yields_jumpForm inLoop (taken other) rfl fun inside => encloses.statement fun _ => inside)
  · exact here (triple_advance.before fun _ => yields_applyForm places encloses inLoop)
  · refine .ite (fun _ => ?_) fun _ => here (yields_expressionForm places encloses inLoop)
    refine .before ((triple_advance.framed (token.span.start = base)).given
      fun _ known => ⟨known.1, known.2.2⟩) fun other => ?_
    exact (yields_functionDeclaration places encloses inLoop _).given fun _ ⟨lies, same⟩ =>
      ⟨lies, (lies.marked _ (taken other)).file_eq, same, .nil, le_refl _⟩
  · exact here (.ite (fun _ => triple_advance.before fun _ => yields_importForm encloses inLoop)
      fun _ => yields_expressionForm places encloses inLoop)
  · exact here (yields_expressionForm places encloses inLoop)

theorem yields_statementWith :
    Yields file (Cursor.Lies file base read closed marks) (statementWith nested inLoop)
      (fun statement => Cursor.Lies file base (read ++ [statement.outline]) True [])
      fun statement => outer.statement inLoop statement.form := by
  have form {token : Token} : Yields file
      (fun cursor => cursor.Lies file token.span.start [] False marks ∧ cursor.current = token)
      (statementForm nested inLoop) (fun form => Cursor.Lies file token.span.start form.outlines True [])
      (outer.statement inLoop) := by
    refine .look (fun _ _ => rfl) fun place =>
      (yields_statementFormBy places encloses inLoop place.current _).given ?_
    rintro cursor ⟨⟨lies, rfl⟩, rfl⟩
    exact ⟨lies.unmarked.mark_current, rfl, rfl⟩
  exact triple_peekHere.before fun token => yields_node StatementForm.outlines form Statement.node
    (fun _ _ kept => kept) fun _ _ _ lies => lies.unmarked

end Nested

/-! ## Programs -/

section Programs

variable {file : String} {base : Position} (rule : Nat → TreeRule)
variable (encloses : ∀ depth, (rule (depth + 1)).Encloses (rule depth))

include encloses

/-- All readers put syntax in its place, and each level of nesting keeps the rule of its level. -/
theorem places_nestedTo (depth : Nat) : (nestedTo depth).Places file (rule depth) := by
  induction depth with
  | zero =>
    exact ⟨fun _ => yields_failHere (fun _ lies => lies.toSound) _,
      fun _ => yields_failHere (fun _ lies => lies.toSound) _⟩
  | succ depth ih =>
    exact ⟨fun floor => yields_climb ih (encloses depth) floor,
      fun inLoop => yields_statementWith ih (encloses depth) inLoop⟩

theorem sustains_statementTurn :
    Sustains file (fun statements => Cursor.Open file base (Statement.outlineList statements))
      (fun statements => Cursor.Open file base (Statement.outlineList statements))
      ((rule maxNesting).statements false) statementTurn := by
  refine fun statements => .glance (fun _ _ => rfl) fun place =>
    .ite (fun _ => .pure id fun _ opened => opened) fun _ => ?_
  refine (yields_recoveringStatement (places_nestedTo rule encloses maxNesting) false).bind
    fun found => ?_
  cases found with
  | some statement =>
    refine .pure (fun kept earlier => List.forall_mem_append.mpr
      ⟨earlier, List.forall_mem_singleton.mpr (kept statement rfl)⟩) fun cursor opened => ?_
    rw [Decided, Statement.outlineList_concat]
    exact opened
  | none =>
    refine .pure (fun _ => id) fun cursor opened => ?_
    rw [Statement.outlineOption, List.append_nil] at opened
    exact opened

/-- Every statement of an accepted program keeps the rule of the outermost level. -/
theorem statement_of_programOfTokens {rules : TagRules} {tokens : List Token} {parsed : Program}
    (accepted : programOfTokens rules tokens = .ok parsed) {statement : Statement}
    (member : statement ∈ parsed.statements) :
    (rule maxNesting).statement false statement.form := by
  rw [programOfTokens] at accepted
  split at accepted
  · next read cursor readAll =>
    split at accepted
    · next noErrors =>
      cases accepted
      obtain ⟨metadata, middle, -, rest⟩ := bind_eq_ok_iff.mp readAll
      obtain ⟨statements, last, looped, built⟩ := bind_eq_ok_iff.mp rest
      cases built
      have none : cursor.errors = [] := List.isEmpty_iff.mp noErrors
      have yields := yields_loop (fun _ _ opened => opened.toSound)
        (@sustains_statementTurn "" .start rule encloses) []
      exact yields.sound looped none (List.forall_mem_nil _) statement member
    · cases accepted
  · cases accepted

end Programs

/-! ## All readers -/

/-- All readers put syntax in its place. -/
theorem places_any (file : String) (depth : Nat) : (nestedTo depth).Places file .any :=
  places_nestedTo (fun _ => .any) (fun _ => TreeRule.encloses_any) depth

theorem steady_statementTurn : Steady (statementTurn statements) :=
  (@sustains_statementTurn "" .start (fun _ => .any) (fun _ => TreeRule.encloses_any)
    statements).toSteady

end Grammar
end PatchScript
