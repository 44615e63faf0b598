import PatchScript.Proofs.Grammar.PlacedSyntax
import PatchScript.Proofs.Grammar.Progress
import PatchScript.Proofs.Token.Partition

/-!
# Source order

The nodes of a program stand inside of each other and follow each other as they do in the
source.  The errors of a source that is no program come in source order, but for those that
refuse a target: they come after the errors found inside of it.
-/

namespace PatchScript
namespace Grammar

/-! ## Programs -/

section Programs

variable {file : String} {base : Position}

/-- The statements of a program fit behind its header. -/
theorem triple_program (rules : TagRules) :
    Triple file (Cursor.Open file base []) (program rules) fun parsed =>
      Cursor.Open file base (Statement.outlineList parsed.statements) :=
  (triple_loop (fun _ _ opened => opened.toSound) (triple_headerTurn rules) _).before fun _ =>
    (yields_loop (fun _ _ opened => opened.toSound)
      (sustains_statementTurn (fun _ => .any) fun _ => TreeRule.encloses_any) []).bind fun _ =>
        .pure (fun _ => trivial) fun _ opened => opened

end Programs

/-! ## Sources -/

/-- The tokens of a source follow each other up to the end mark. -/
theorem follow_segments (file : String) (before last : List Char) {segments : List Segment}
    (genuine : ∀ segment ∈ segments, segment.Genuine) {tokens : List Token}
    (cut : tokens = Segment.tokens file before segments ++
      [.atEnd file (before ++ (segments.flatMap Segment.text ++ last))])
    {mark : Token}
    (ends : tokens.find? Cursor.isEndMark = some mark) :
    Follow file mark.span (Position.start.after before)
      (tokens.takeWhile fun token => !Cursor.isEndMark token) := by
  induction segments generalizing before tokens with
  | nil =>
    subst cut
    cases ends
    refine ⟨rfl, ?_⟩
    rw [Token.atEnd, Position.after_append]
    exact Position.le_after _ _
  | cons segment rest ih =>
    obtain ⟨own, others⟩ := List.forall_mem_cons.mp genuine
    have start : Position.start.after before ≤ Position.start.after (before ++ segment.trivia) := by
      rw [Position.after_append]
      exact Position.le_after _ _
    have stop : Position.start.after (before ++ segment.trivia) <
        Position.start.after (before ++ segment.text) := by
      rw [Segment.text, ← List.append_assoc, Position.after_append _ (before ++ segment.trivia)]
      exact Position.lt_after _ own.nonempty
    have text : before ++ ((segment :: rest).flatMap Segment.text ++ last) =
        before ++ segment.text ++ (rest.flatMap Segment.text ++ last) := by
      simp only [List.flatMap_cons, List.append_assoc]
    rw [text, Segment.tokens, List.cons_append] at cut
    subst cut
    rw [List.find?_cons] at ends
    rw [List.takeWhile_cons]
    split at ends
    · next marked =>
      cases ends
      rw [marked]
      exact ⟨rfl, start⟩
    · next unmarked =>
      rw [unmarked]
      exact ⟨rfl, start, stop, ih (before ++ segment.text) others rfl ends⟩

/-- A cursor before the first token of a source, with nothing taken yet. -/
def Cursor.ofSource (file : String) (tokens : List Token) : Cursor :=
  (Cursor.ofTokens tokens).behind { file, start := Position.start, stop := Position.start }

variable {source file : String} {tokens : List Token}

theorem open_ofSource (scanned : scan source file = .ok tokens) :
    (Cursor.ofSource file tokens).Open file Position.start [] := by
  obtain ⟨segments, last, split, genuine, -, cut, -⟩ := scan_partition scanned
  rw [split] at cut
  have marked : (tokens.find? Cursor.isEndMark).isSome = true := by
    rw [cut, List.find?_isSome]
    exact ⟨_, List.mem_append_right _ List.mem_cons_self, rfl⟩
  obtain ⟨mark, found⟩ := Option.isSome_iff_exists.mp marked
  have follow := follow_segments file [] last genuine cut found
  have ends : (Cursor.ofSource file tokens).endSpan = mark.span := by
    simp only [Cursor.ofSource, Cursor.behind, Cursor.ofTokens, found]
  have ordered : (Cursor.ofSource file tokens).Ordered file := by
    rw [Cursor.Ordered, ends]
    exact follow
  exact
    { ordered := ordered
      inOrder := .nil
      file_errors := List.forall_mem_nil _
      errors_le := List.forall_mem_nil _
      base_le := ordered.reached_le_ahead
      fits := .nil
      passed := False.elim
      settled := False.elim
      marked := List.forall_mem_nil _ }

/-- What is read from a source is laid out well, and its errors are in order. -/
theorem exists_programOfTokens (rules : TagRules) (scanned : scan source file = .ok tokens) :
    ∃ (parsed : Program) (cursor : Cursor),
      cursor.Open file Position.start (Statement.outlineList parsed.statements) ∧
      programOfTokens rules tokens =
        if cursor.errors.isEmpty then .ok parsed else .error cursor.errors := by
  obtain ⟨_, _, _, fresh, -, -, read⟩ := exists_program rules (Cursor.ofTokens tokens)
  have resumes : Cursor.Resumes [] (Cursor.ofTokens tokens) (Cursor.ofSource file tokens) :=
    ⟨rfl, rfl, rfl, rfl⟩
  have resumed := (memoryless_program rules).resumed resumes
  have placed := (triple_program rules).placed (open_ofSource scanned)
  rw [read] at resumed
  generalize program rules (Cursor.ofSource file tokens) = result at resumed placed
  cases resumed with
  | @ok _ _ cursor same =>
    cases placed with
    | ok opened =>
      refine ⟨_, cursor, opened, ?_⟩
      rw [programOfTokens, read, same.errors]
      rfl

end Grammar

/-- How reading a source ends: it has no tokens, or the errors on record are in order, or there
are none and the statements are laid out well. -/
inductive Reading (file : String) : Except SourceError Program → Prop
  | unscanned {error} : Reading file (.error (.lex error))
  | rejected {cursor : Grammar.Cursor} :
    cursor.Sound file → cursor.errors ≠ [] → Reading file (.error (.parse cursor.errors))
  | accepted {parsed : Program} {stop : Position} :
    Outline.Fits file Position.start (Statement.outlineList parsed.statements) stop →
    Reading file (.ok parsed)

theorem reading_ofTaggedSource (rules : Grammar.TagRules) (source file : String) :
    Reading file (Program.ofTaggedSource rules source file) := by
  rw [Program.ofTaggedSource]
  cases scanned : scan source file with
  | error error => exact .unscanned
  | ok tokens =>
    obtain ⟨parsed, cursor, opened, read⟩ := Grammar.exists_programOfTokens rules scanned
    simp only [read]
    by_cases none : cursor.errors = []
    · rw [none]
      exact .accepted opened.fits
    · rw [if_neg fun empty => none (List.isEmpty_iff.mp empty)]
      exact .rejected opened.toSound none

/-- The errors of a source that is no program.  There is at least one, and they stand in the
source.  Each one starts no earlier than those before it, unless it refuses the target of an
assignment, a step or a deletion: it may then come after errors that start inside of what is
refused. -/
theorem parse_errors_inOrder {rules : Grammar.TagRules} {source file : String}
    {errors : List ParseError}
    (rejected : Program.ofTaggedSource rules source file = .error (.parse errors)) :
    errors ≠ [] ∧ (∀ error ∈ errors, error.span.file = file) ∧
      errors.Pairwise ParseError.InOrder := by
  have reading := reading_ofTaggedSource rules source file
  rw [rejected] at reading
  cases reading with
  | rejected sound some => exact ⟨some, sound.file_errors, sound.inOrder⟩

/-- A source with errors is rejected with them. -/
theorem ofTaggedSource_of_errors {rules : Grammar.TagRules} {source file : String}
    {tokens : List Token} (scanned : scan source file = .ok tokens)
    (some : Grammar.programErrors rules tokens ≠ []) :
    Program.ofTaggedSource rules source file =
      .error (.parse (Grammar.programErrors rules tokens)) := by
  rw [Grammar.programErrors] at some ⊢
  rw [Program.ofTaggedSource, scanned]
  cases read : Grammar.programOfTokens rules tokens with
  | error errors => simp only [read]
  | ok program =>
    rw [read] at some
    exact absurd rfl some

/-- A function with a faulty statement in it is stepped: the function is refused where it starts,
after the error inside of it. -/
theorem exists_refused_function :
    ∃ errors, Program.ofTaggedSource .standard "function(){)}++;" "f" = .error (.parse errors) ∧
      errors.map (fun error => error.span.start) =
        [{ line := 1, column := 12 }, { line := 1, column := 1 }] := by
  have starts : (scan "function(){)}++;" "f").map (fun tokens =>
      (Grammar.programErrors .standard tokens).map fun error => error.span.start) =
      .ok [{ line := 1, column := 12 }, { line := 1, column := 1 }] := by cbv
  cases scanned : scan "function(){)}++;" "f" with
  | error error =>
    rw [scanned] at starts
    cases starts
  | ok tokens =>
    rw [scanned] at starts
    have listed : (Grammar.programErrors .standard tokens).map (fun error => error.span.start) =
        [{ line := 1, column := 12 }, { line := 1, column := 1 }] :=
      Except.ok.inj starts
    refine ⟨_, ofTaggedSource_of_errors scanned fun none => ?_, listed⟩
    rw [none] at listed
    cases listed

theorem parse_errors_inOrder_refused :
    ∃ errors, Program.ofTaggedSource .standard "function(){)}++;" "f" = .error (.parse errors) ∧
      errors ≠ [] ∧ (∀ error ∈ errors, error.span.file = "f") ∧
      errors.Pairwise ParseError.InOrder := by
  obtain ⟨errors, rejected, -⟩ := exists_refused_function
  exact ⟨errors, rejected, parse_errors_inOrder rejected⟩

/-- Errors do not always come in the order in which they start. -/
theorem not_parse_errors_sorted :
    ¬ ∀ (rules : Grammar.TagRules) (source file : String) (errors : List ParseError),
      Program.ofTaggedSource rules source file = .error (.parse errors) →
      errors.Pairwise fun earlier later => earlier.span.start ≤ later.span.start := by
  intro sorted
  obtain ⟨errors, rejected, starts⟩ := exists_refused_function
  have ordered := List.pairwise_map.mpr (sorted _ _ _ _ rejected)
  rw [starts] at ordered
  have first := List.rel_of_pairwise_cons ordered List.mem_cons_self
  rw [Position.le_def] at first
  dsimp only at first
  omega

/-- The nodes of a program: each statement, expression, reference and function has a place that
is not empty and lies within that of the node around it, and those inside of the same node
follow each other without overlapping.  So do the statements of the program. -/
theorem program_outlines_laid {rules : Grammar.TagRules} {source file : String} {program : Program}
    (accepted : Program.ofTaggedSource rules source file = .ok program) :
    (∀ statement ∈ program.statements, statement.outline.Laid ∧ statement.span.file = file) ∧
      program.statements.Pairwise fun earlier later => earlier.span.stop ≤ later.span.start := by
  have reading := reading_ofTaggedSource rules source file
  rw [accepted] at reading
  cases reading with
  | accepted fits =>
    rw [Statement.outlineList_eq_map] at fits
    constructor
    · intro statement member
      have listed : statement.outline ∈ program.statements.map Statement.outline :=
        List.mem_map_of_mem member
      exact ⟨fits.laid _ listed, statement.span_outline ▸ (fits.within _ listed).file⟩
    · have ordered := List.pairwise_map.mp fits.ordered
      simp only [Statement.span_outline] at ordered
      exact ordered

/-- An operator in parentheses, an index, an assignment, and another statement. -/
theorem program_outlines_laid_nested :
    ∃ program, Program.ofTaggedSource .standard "x=(a+b)[c];y;" "f" = .ok program ∧
      program.statements.length = 2 ∧
      (∀ statement ∈ program.statements, statement.outline.Laid ∧ statement.span.file = "f") ∧
      program.statements.Pairwise fun earlier later => earlier.span.stop ≤ later.span.start := by
  have counted : (Program.ofTaggedSource .standard "x=(a+b)[c];y;" "f").map (fun program =>
      program.statements.length) = .ok 2 := by cbv
  cases accepted : Program.ofTaggedSource .standard "x=(a+b)[c];y;" "f" with
  | error error =>
    rw [accepted] at counted
    cases counted
  | ok program =>
    rw [accepted] at counted
    exact ⟨program, rfl, Except.ok.inj counted, program_outlines_laid accepted⟩

end PatchScript
