import Mathlib.Data.List.Nodup
import PatchScript.Proofs.Grammar.Steady
import PatchScript.Proofs.Syntax.Outline

/-!
# Where syntax and errors stand

Tokens follow each other, so what is read follows what was read before, and an error is
reported no earlier than those on record.  There is one exception: what turns out to be no
target of an assignment, a step or a deletion is refused where it starts, after all errors
inside of it.

`Cursor.Lies` says what is known at a cursor: what has been read since some position is laid out
well, errors are in order, and there are places where reading may still fail.  Readers take
such cursors to such cursors (`Yields`).

A program is accepted if no error was recorded while it was read.  Errors once recorded are never
taken back, so what a reader returns on the way to an accepted program was read without any, and
something can be said about it that readers check.
-/

namespace PatchScript

theorem Position.le_total (first second : Position) : first ≤ second ∨ second ≤ first := by
  rw [le_def, le_def]
  omega

namespace ParseError

/-- An error refuses an expression as what is assigned to, stepped or deleted. -/
def IsRefusal (error : ParseError) : Prop :=
  ∃ action, error.message = "Only variables, properties and indices can be " ++ action

/-- An error starts no earlier than another one, or refuses an expression in which that one
stands. -/
def InOrder (earlier later : ParseError) : Prop :=
  earlier.span.start ≤ later.span.start ∨
    later.IsRefusal ∧ later.span.start ≤ earlier.span.start ∧ earlier.span.start < later.span.stop

end ParseError

namespace Grammar

variable {α β : Type} {cursor after : Cursor}

/-! ## Tokens in order -/

/-- Tokens of a file follow each other, from a position to the end of the source. -/
def Follow (file : String) (ends : Span) : Position → List Token → Prop
  | position, [] => ends.file = file ∧ position ≤ ends.start
  | position, token :: rest =>
    token.span.file = file ∧ position ≤ token.span.start ∧ token.span.start < token.span.stop ∧
      Follow file ends token.span.stop rest

namespace Cursor

/-- Where the next token starts. -/
def ahead (cursor : Cursor) : Position :=
  cursor.current.span.start

/-- Where the last token taken stops. -/
def reached (cursor : Cursor) : Position :=
  cursor.previous.stop

/-- The tokens that are left follow the one taken last. -/
def Ordered (file : String) (cursor : Cursor) : Prop :=
  Follow file cursor.endSpan cursor.reached cursor.remaining

section Ordered

variable {file : String}

theorem previous_advance (present : cursor.remaining ≠ []) :
    cursor.advance.previous = cursor.current.span := by
  obtain ⟨token, rest, tokens⟩ := List.exists_cons_of_ne_nil present
  simp only [Cursor.advance, current, tokens]

section

variable (ordered : cursor.Ordered file)
include ordered

theorem Ordered.file_current : cursor.current.span.file = file := by
  obtain ⟨remaining, endSpan, previous, errors, aborted⟩ := cursor
  cases remaining with
  | nil => exact ordered.1
  | cons token rest => exact ordered.1

theorem Ordered.reached_le_ahead : cursor.reached ≤ cursor.ahead := by
  obtain ⟨remaining, endSpan, previous, errors, aborted⟩ := cursor
  cases remaining with
  | nil => exact ordered.2
  | cons token rest => exact ordered.2.1

theorem Ordered.advance : cursor.advance.Ordered file := by
  obtain ⟨remaining, endSpan, previous, errors, aborted⟩ := cursor
  cases remaining with
  | nil => exact ordered
  | cons token rest => exact ordered.2.2.2

/-- A token that is there is taken. -/
theorem Ordered.ahead_lt_advance (present : cursor.remaining ≠ []) :
    cursor.ahead < cursor.advance.reached := by
  obtain ⟨remaining, endSpan, previous, errors, aborted⟩ := cursor
  cases remaining with
  | nil => exact absurd rfl present
  | cons token rest => exact ordered.2.2.1

theorem Ordered.le_advance :
    cursor.ahead ≤ cursor.advance.ahead ∧ cursor.reached ≤ cursor.advance.reached := by
  by_cases empty : cursor.remaining = []
  · have same : cursor.advance = cursor := by
      rw [Cursor.advance, empty]
    rw [same]
    exact ⟨le_refl _, le_refl _⟩
  · have taken := ordered.ahead_lt_advance empty
    exact ⟨taken.le.trans ordered.advance.reached_le_ahead, ordered.reached_le_ahead.trans taken.le⟩

theorem Ordered.iterate_advance (count : Nat) :
    (Cursor.advance^[count] cursor).Ordered file ∧
      cursor.ahead ≤ (Cursor.advance^[count] cursor).ahead ∧
      cursor.reached ≤ (Cursor.advance^[count] cursor).reached := by
  induction count generalizing cursor with
  | zero => exact ⟨ordered, le_refl _, le_refl _⟩
  | succ count ih =>
    obtain ⟨later, ahead, reached⟩ := ih ordered.advance
    obtain ⟨aheadOnce, reachedOnce⟩ := ordered.le_advance
    rw [Function.iterate_succ_apply]
    exact ⟨later, aheadOnce.trans ahead, reachedOnce.trans reached⟩

end

/-- Moving on keeps the order. -/
theorem Moves.ordered (moves : cursor.Moves after) (ordered : cursor.Ordered file) :
    after.Ordered file ∧ cursor.ahead ≤ after.ahead ∧ cursor.reached ≤ after.reached := by
  obtain ⟨count, place⟩ := moves
  have later := Ordered.iterate_advance (show cursor.place.Ordered file from ordered) count
  rw [← place] at later
  exact later

/-- Where a token was taken, the position before it is passed. -/
theorem Moves.ahead_lt (moves : cursor.Moves after) (ordered : cursor.Ordered file)
    (shorter : after.remaining.length < cursor.remaining.length) :
    cursor.ahead < after.reached := by
  have placed : cursor.place.Ordered file := ordered
  obtain ⟨count, place⟩ := moves
  cases count with
  | zero =>
    have same : after.place.remaining = cursor.place.remaining := congrArg remaining place
    exact absurd (congrArg List.length same) (Nat.ne_of_lt shorter)
  | succ count =>
    have present : cursor.place.remaining ≠ [] :=
      List.ne_nil_of_length_pos (Nat.zero_lt_of_lt shorter)
    have later := (placed.advance.iterate_advance count).2.2
    rw [← Function.iterate_succ_apply Cursor.advance, ← place] at later
    exact (placed.ahead_lt_advance present).trans_le later

end Ordered

/-- The errors on record are in order, and stand before the next token or at it. -/
structure Sound (file : String) (cursor : Cursor) : Prop where
  ordered : cursor.Ordered file
  inOrder : cursor.errors.Pairwise ParseError.InOrder
  file_errors : ∀ error ∈ cursor.errors, error.span.file = file
  errors_le : ∀ error ∈ cursor.errors, error.span.start ≤ cursor.ahead

theorem Sound.of_moves {file : String} (sound : cursor.Sound file) (moves : cursor.Moves after)
    (same : after.errors = cursor.errors) : after.Sound file := by
  obtain ⟨ordered, ahead, -⟩ := moves.ordered sound.ordered
  refine ⟨ordered, same ▸ sound.inOrder, same ▸ sound.file_errors, ?_⟩
  rw [same]
  intro error member
  exact (sound.errors_le error member).trans ahead

end Cursor

/-- A reader has failed with an error that can be recorded. -/
structure Raised (file : String) (error : ParseError) (cursor : Cursor) : Prop where
  sound : cursor.Sound file
  file_error : error.span.file = file
  error_le : error.span.start ≤ cursor.ahead
  inOrder : ∀ earlier ∈ cursor.errors, earlier.InOrder error

section Recovery

variable {file : String} {error : ParseError}

theorem Raised.record (raised : Raised file error cursor) :
    { cursor with errors := cursor.errors ++ [error] }.Sound file where
  ordered := raised.sound.ordered
  inOrder := by
    refine List.pairwise_append.mpr ⟨raised.sound.inOrder, List.pairwise_singleton _ _, ?_⟩
    intro earlier member later isLast
    rw [List.mem_singleton.mp isLast]
    exact raised.inOrder earlier member
  file_errors := List.forall_mem_append.mpr
    ⟨raised.sound.file_errors, List.forall_mem_singleton.mpr raised.file_error⟩
  errors_le := List.forall_mem_append.mpr
    ⟨raised.sound.errors_le, List.forall_mem_singleton.mpr raised.error_le⟩

theorem Raised.recover (raised : Raised file error cursor) (startLength : Nat) :
    (cursor.recover error startLength).Sound file := by
  have recorded := raised.record
  unfold Cursor.recover
  split
  · exact raised.sound
  · dsimp only
    split
    · exact ⟨recorded.ordered, recorded.inOrder, recorded.file_errors, recorded.errors_le⟩
    · exact recorded.of_moves (Cursor.moves_synchronize _ _) (Cursor.errors_synchronize _ _)

end Recovery

/-! ## What is known at a cursor -/

/-- A place where reading may still fail. -/
inductive Mark where
  /-- At a token. -/
  | token (span : Span)
  /-- At the start of an expression that may be refused. -/
  | operand (span : Span)

namespace Mark

/-- Where a mark stands. -/
def span : Mark → Span
  | .token span | .operand span => span

/-- Whether an error at a mark may come after another one. -/
def Follows (earlier : ParseError) : Mark → Prop
  | .token span => earlier.span.start ≤ span.start
  | .operand span => earlier.span.start < span.stop

/-- An error at a mark can be recorded at a cursor. -/
structure Valid (file : String) (cursor : Cursor) (mark : Mark) : Prop where
  file_eq : mark.span.file = file
  start_le : mark.span.start ≤ cursor.ahead
  follows : ∀ earlier ∈ cursor.errors, mark.Follows earlier

end Mark

variable {span : Span}

namespace Cursor

/-- What has been read since a position fits between it and the last token.  A closed cursor
has passed the position, and all errors on record. -/
structure Lies (file : String) (base : Position) (read : List Outline) (closed : Prop)
    (marks : List Mark) (cursor : Cursor) : Prop extends Sound file cursor where
  base_le : base ≤ cursor.ahead
  fits : Outline.Fits file base read cursor.reached
  passed : closed → base < cursor.reached
  settled : closed → ∀ error ∈ cursor.errors, error.span.start < cursor.reached
  marked : ∀ mark ∈ marks, mark.Valid file cursor

/-- What has been read since a position fits. -/
abbrev Open (file : String) (base : Position) (read : List Outline) (cursor : Cursor) : Prop :=
  Lies file base read False [] cursor

namespace Lies

variable {file : String} {base : Position} {read : List Outline} {closed : Prop} {marks : List Mark}

section

variable (lies : cursor.Lies file base read closed marks)
include lies

/-- Less may be known. -/
theorem weaken {closed' : Prop} {marks' : List Mark} (closes : closed' → closed)
    (fewer : ∀ mark ∈ marks', mark ∈ marks) : cursor.Lies file base read closed' marks' :=
  { lies with
    passed := fun isClosed => lies.passed (closes isClosed)
    settled := fun isClosed => lies.settled (closes isClosed)
    marked := fun mark member => lies.marked mark (fewer mark member) }

theorem opened : cursor.Open file base read :=
  lies.weaken False.elim nofun

theorem unmarked : cursor.Lies file base read closed [] :=
  lies.weaken id nofun

/-- Something else may have been read, as long as it fits. -/
theorem refit {read' : List Outline} (fits : Outline.Fits file base read' cursor.reached) :
    cursor.Lies file base read' closed marks :=
  { lies with fits := fits }

/-- Reading may fail at the next token. -/
theorem mark_current : cursor.Lies file base read closed (.token cursor.current.span :: marks) := by
  have valid : (Mark.token cursor.current.span).Valid file cursor :=
    ⟨lies.ordered.file_current, le_refl _, lies.errors_le⟩
  exact { lies with marked := List.forall_mem_cons.mpr ⟨valid, lies.marked⟩ }

/-- Taking a token closes the cursor. -/
theorem advance : cursor.advance.Lies file base read (closed ∨ cursor.remaining ≠ []) marks := by
  have sound := lies.toSound.of_moves cursor.moves_advance (errors_advance cursor)
  obtain ⟨ahead, reached⟩ := lies.ordered.le_advance
  constructor
  case toSound => exact sound
  case base_le => exact lies.base_le.trans ahead
  case fits => exact lies.fits.mono reached
  case passed =>
    rintro (isClosed | present)
    · exact (lies.passed isClosed).trans_le reached
    · exact lies.base_le.trans_lt (lies.ordered.ahead_lt_advance present)
  case settled =>
    rw [errors_advance]
    rintro (isClosed | present) error member
    · exact (lies.settled isClosed error member).trans_le reached
    · exact (lies.errors_le error member).trans_lt (lies.ordered.ahead_lt_advance present)
  case marked =>
    intro mark member
    have valid := lies.marked mark member
    exact ⟨valid.file_eq, valid.start_le.trans ahead, (errors_advance cursor).symm ▸ valid.follows⟩

/-- A cursor is the base of what is read from there on. -/
theorem rebase : cursor.Lies file cursor.ahead [] False marks :=
  { lies with
    base_le := le_refl _
    fits := .nil
    passed := False.elim
    settled := False.elim }

/-- Recovery keeps what was read before. -/
theorem recover (moves : cursor.Moves after) {error : ParseError}
    (raised : Raised file error after) (startLength : Nat) :
    (after.recover error startLength).Open file base read := by
  obtain ⟨-, ahead, reached⟩ :=
    (moves.trans (after.moves_recover error startLength)).ordered lies.ordered
  exact { raised.recover startLength with
    base_le := lies.base_le.trans ahead
    fits := lies.fits.mono reached
    passed := False.elim
    settled := False.elim
    marked := nofun }

theorem before_ahead : Outline.Fits file base read cursor.ahead :=
  lies.fits.mono lies.ordered.reached_le_ahead

end

theorem kept {more : Prop} (lies : cursor.Lies file base read (closed ∨ more) marks) :
    cursor.Lies file base read closed marks :=
  lies.weaken .inl fun _ member => member

theorem unmark {mark : Mark} (lies : cursor.Lies file base read closed (mark :: marks)) :
    cursor.Lies file base read closed marks :=
  lies.weaken id fun _ => List.mem_cons_of_mem _

/-- Everything read since a later position makes up one node. -/
theorem node {parts : List Outline} (lies : cursor.Lies file span.start parts True marks)
    (sameFile : span.file = file) (stops : span.stop = cursor.reached)
    (before : Outline.Fits file base read span.start) (later : base ≤ span.start) :
    cursor.Lies file base (read ++ [.node span parts]) True [.operand span] := by
  obtain ⟨spanFile, start, stop⟩ := span
  dsimp only at lies sameFile stops before later
  subst sameFile stops
  have nonempty := lies.passed trivial
  have valid : (Mark.operand ⟨spanFile, start, cursor.reached⟩).Valid spanFile cursor :=
    ⟨rfl, lies.base_le, lies.settled trivial⟩
  constructor
  case toSound => exact lies.toSound
  case base_le => exact later.trans lies.base_le
  case fits => exact before.concat (lies.fits.node nonempty) ⟨rfl, later, le_refl _⟩ (le_refl _)
  case passed => exact fun _ => later.trans_lt nonempty
  case settled => exact lies.settled
  case marked => exact List.forall_mem_singleton.mpr valid

/-- What was read last is the base of what continues it. -/
theorem rebase_last {last : Outline} (lies : cursor.Lies file base (read ++ [last]) closed marks) :
    cursor.Lies file last.span.start [last] closed marks := by
  have inside := lies.fits.within_last
  have nonempty := lies.fits.laid_last.start_lt
  have passed := nonempty.trans_le inside.stop
  exact { lies with
    base_le := passed.le.trans lies.ordered.reached_le_ahead
    fits := lies.fits.only_last
    passed := fun _ => passed }

end Lies
end Cursor

/-! ## Readers -/

/-- A reader has returned as wanted, or has failed with an error that can be recorded. -/
inductive Placed (file : String)
    (post : α → Cursor → Prop) : EStateM.Result ParseError Cursor α → Prop
  | ok {value after} : post value after → Placed file post (.ok value after)
  | error {error after} : Raised file error after → Placed file post (.error error after)

/-- Where something is known, a reader returns as wanted or fails with an error that can be
recorded.  It is steady, and what it returns while no error is on record is good. -/
structure Yields (file : String) (pre : Cursor → Prop) (reader : Parse α)
    (post : α → Cursor → Prop) (good : α → Prop) : Prop extends Steady reader where
  placed : ∀ {cursor}, pre cursor → Placed file post (reader cursor)
  sound : ∀ {cursor after value}, reader cursor = .ok value after → after.errors = [] → good value

/-- A reader of which nothing is asked but where it stops. -/
abbrev Triple (file : String) (pre : Cursor → Prop) (reader : Parse α)
    (post : α → Cursor → Prop) : Prop :=
  Yields file pre reader post fun _ => True

namespace Yields

variable {file : String} {pre : Cursor → Prop}
variable {reader : Parse α} {post : α → Cursor → Prop} {good : α → Prop}
variable {middle : α → Cursor → Prop} {next : α → Parse β} {better : β → Prop}

theorem plain (steady : Steady reader)
    (placed : ∀ {cursor}, pre cursor → Placed file post (reader cursor)) :
    Triple file pre reader post :=
  ⟨steady, placed, fun _ _ => trivial⟩

theorem pure {value : α} (isGood : good value) (holds : ∀ cursor, pre cursor → post value cursor) :
    Yields file pre (Pure.pure value) post good where
  toSteady := .pure value
  placed known := .ok (holds _ known)
  sound := by
    rintro cursor after result ⟨⟩ none
    exact isGood

theorem done {value : α} (holds : ∀ cursor, pre cursor → post value cursor) :
    Triple file pre (Pure.pure value) post :=
  pure trivial holds

/-- The second of two readers may assume that the first has returned something good. -/
theorem bind {post : β → Cursor → Prop} (first : Yields file pre reader middle good)
    (second : ∀ value, Yields file (middle value) (next value) post
      fun result => good value → better result) :
    Yields file pre (reader >>= next) post better where
  toSteady := first.toSteady.bind fun value => (second value).toSteady
  placed {cursor} known := by
    have placed := first.placed known
    simp only [Bind.bind, EStateM.bind]
    generalize reader cursor = result at placed
    cases placed with
    | ok holds => exact (second _).placed holds
    | error raised => exact .error raised
  sound read none := by
    obtain ⟨value, middle, firstRead, read⟩ := bind_eq_ok_iff.mp read
    have noneMiddle := (second value).errors_eq_nil
      ((congrArg (fun result => (cursorAfter result).errors) read).trans none)
    exact (second value).sound read none (first.sound firstRead noneMiddle)

/-- Less may be asked of what is returned. -/
theorem imp {weaker : α → Prop} (yields : Yields file pre reader post good)
    (implies : ∀ value, good value → weaker value) : Yields file pre reader post weaker :=
  { yields with sound := fun read none => implies _ (yields.sound read none) }

/-- Whatever a reader returns, what comes after it can be good. -/
theorem before {post : β → Cursor → Prop} (first : Triple file pre reader middle)
    (second : ∀ value, Yields file (middle value) (next value) post better) :
    Yields file pre (reader >>= next) post better :=
  first.bind fun value => (second value).imp fun _ isGood _ => isGood

/-- More may be known before. -/
theorem given {pre' : Cursor → Prop} (yields : Yields file pre reader post good)
    (before : ∀ cursor, pre' cursor → pre cursor) : Yields file pre' reader post good :=
  { yields with placed := fun {cursor} known => yields.placed (before cursor known) }

theorem map {post : β → Cursor → Prop} {function : α → β}
    (yields : Yields file pre reader middle good)
    (implies : ∀ value, good value → better (function value))
    (after : ∀ value cursor, middle value cursor → post (function value) cursor) :
    Yields file pre (function <$> reader) post better := by
  rw [map_eq_pure_bind]
  exact yields.bind fun value => pure (implies value) (after value)

theorem ite {condition : Prop} [Decidable condition] {first second : Parse α}
    (whenTrue : condition → Yields file pre first post good)
    (whenFalse : ¬ condition → Yields file pre second post good) :
    Yields file pre (if condition then first else second) post good := by
  split
  · next holds => exact whenTrue holds
  · next fails => exact whenFalse fails

section

variable {next : Cursor → Parse α}
variable (blind : ∀ cursor recorded, next (cursor.since recorded) = next cursor)
include blind

/-- A reader may look at the cursor, but not at what is on record. -/
theorem look
    (yields : ∀ place, Yields file (fun cursor => pre cursor ∧ cursor = place) (next place) post good) :
    Yields file pre (get >>= next) post good where
  toSteady := .look blind fun cursor => (yields cursor).toSteady
  placed {cursor} known := (yields cursor).placed ⟨known, rfl⟩
  sound read none := (yields _).sound read none

/-- A reader may look at the cursor, whatever it is. -/
theorem glance (yields : ∀ place, Yields file pre (next place) post good) :
    Yields file pre (get >>= next) post good :=
  .look blind fun place => (yields place).given fun _ known => known.1

end

/-- A fact that has nothing to do with the cursor stays one. -/
theorem framed (yields : Yields file pre reader post good) (fact : Prop) :
    Yields file (fun cursor => pre cursor ∧ fact) reader
      (fun value cursor => post value cursor ∧ fact) good := by
  refine { yields with placed := fun {cursor} ⟨known, holds⟩ => ?_ }
  have placed := yields.placed known
  generalize reader cursor = result at placed
  cases placed with
  | ok kept => exact .ok ⟨kept, holds⟩
  | error raised => exact .error raised

/-- Reading goes on unless something is wrong. -/
theorem guarded {wrong : Prop} [Decidable wrong] {fail : Parse PUnit} {next : PUnit → Parse α}
    (fails : Yields file pre fail (fun _ => pre) fun _ => False)
    (goesOn : Yields file pre (next ⟨⟩) post fun result => ¬ wrong → good result) :
    Yields file pre (if wrong then fail >>= next else next ⟨⟩) post good :=
  .ite (fun _ => fails.bind fun _ => goesOn.imp fun _ _ => False.elim)
    fun right => goesOn.imp fun _ kept => kept right

end Yields

section Tokens

variable {file : String} {base : Position} {read : List Outline} {closed : Prop}
variable {marks : List Mark} {post : α → Cursor → Prop} {pre : Cursor → Prop} {good : α → Prop}
variable (symbol : Symbol) (expected : String)

/-- An error at a mark can be recorded. -/
theorem Cursor.Lies.raised (lies : cursor.Lies file base read closed marks) (message : String)
    (marked : .token span ∈ marks) : Raised file { message, span } cursor := by
  have valid := lies.marked _ marked
  exact ⟨lies.toSound, valid.file_eq, valid.start_le,
    fun earlier member => .inl (valid.follows earlier member)⟩

/-- An error at the next token can be recorded. -/
theorem Cursor.Sound.raised (sound : cursor.Sound file) (message : String) :
    Raised file { message, span := cursor.current.span } cursor :=
  ⟨sound, sound.ordered.file_current, le_refl _,
    fun earlier member => .inl (sound.errors_le earlier member)⟩

theorem yields_failAt (message : String) (marked : .token span ∈ marks) :
    Yields file (Cursor.Lies file base read closed marks) (failAt message span) post good where
  toSteady := steady_failAt message span
  placed lies := .error (lies.raised message marked)
  sound := by rintro cursor after value ⟨⟩

theorem yields_failHere (sound : ∀ cursor, pre cursor → cursor.Sound file) (message : String) :
    Yields file pre (failHere message) post good where
  toSteady := steady_failHere message
  placed {cursor} known := .error ((sound cursor known).raised message)
  sound := by rintro cursor after value ⟨⟩

theorem triple_peek :
    Triple file (Cursor.Lies file base read closed marks) peek fun token cursor =>
      cursor.Lies file base read closed (.token token.span :: marks) :=
  .plain steady_peek fun lies => .ok lies.mark_current

/-- A token that is there is the last one taken. -/
theorem triple_takeToken :
    Triple file (Cursor.Lies file base read closed marks) advance fun token cursor =>
      cursor.Lies file base read (closed ∨ token.kind ≠ .endOfFile) (.token token.span :: marks) ∧
        (token.kind ≠ .endOfFile → cursor.previous = token.span) := by
  refine .plain steady_advance fun {cursor} lies => ?_
  have present (noEnd : cursor.current.kind ≠ .endOfFile) : cursor.remaining ≠ [] :=
    Cursor.remaining_ne_nil rfl noEnd
  exact .ok ⟨lies.mark_current.advance.weaken (Or.imp_right present) fun _ member => member,
    fun noEnd => Cursor.previous_advance (present noEnd)⟩

theorem triple_advance :
    Triple file (Cursor.Lies file base read closed marks) advance fun token cursor =>
      cursor.Lies file base read (closed ∨ token.kind ≠ .endOfFile) (.token token.span :: marks) :=
  .plain steady_advance fun lies => .ok (lies.mark_current.advance.weaken
    (Or.imp_right (Cursor.remaining_ne_nil rfl)) fun _ member => member)

/-- Without another token to take, the last one taken stays the same. -/
theorem triple_takeNext {token : Token} (present : token.kind ≠ .endOfFile) :
    Triple file
      (fun cursor => cursor.Lies file base read closed (.token token.span :: marks) ∧
        (token.kind ≠ .endOfFile → cursor.previous = token.span))
      advance fun next cursor =>
        cursor.Lies file base read (closed ∨ next.kind ≠ .endOfFile)
          (.token next.span :: .token token.span :: marks) ∧
          (cursor.previous = next.span ∨ cursor.previous = token.span) := by
  refine .plain steady_advance fun {cursor} ⟨lies, last⟩ => ?_
  cases triple_advance.placed lies with
  | ok known =>
    refine .ok ⟨known, ?_⟩
    by_cases empty : cursor.remaining = []
    · have stays : cursor.advance = cursor := by
        rw [Cursor.advance, empty]
      rw [stays]
      exact .inr (last present)
    · exact .inl (Cursor.previous_advance empty)

theorem triple_atSymbol :
    Triple file (Cursor.Lies file base read closed marks) (atSymbol symbol) fun _ cursor =>
      cursor.Lies file base read closed marks := by
  refine .plain (steady_atSymbol symbol) fun {cursor} lies => ?_
  by_cases next : cursor.current.kind = .symbol symbol
  · rw [atSymbol_of_eq next]
    exact .ok lies
  · rw [atSymbol_of_ne next]
    exact .ok lies

theorem triple_takeSymbol :
    Triple file (Cursor.Lies file base read closed marks) (takeSymbol symbol) fun taken cursor =>
      cursor.Lies file base read (closed ∨ taken = true) marks := by
  refine .plain (steady_takeSymbol symbol) fun {cursor} lies => ?_
  by_cases next : cursor.current.kind = .symbol symbol
  · rw [takeSymbol_of_eq next]
    have present := Cursor.remaining_ne_nil next nofun
    exact .ok (lies.advance.weaken (Or.imp_right fun _ => present) fun _ member => member)
  · rw [takeSymbol_of_ne next]
    exact .ok (lies.weaken (Or.resolve_right · Bool.false_ne_true) fun _ member => member)

theorem triple_takeKeyword (keyword : Keyword) :
    Triple file (Cursor.Lies file base read closed marks) (takeKeyword keyword) fun _ cursor =>
      cursor.Lies file base read closed marks := by
  refine .plain (steady_takeKeyword keyword) fun {cursor} lies => ?_
  by_cases next : cursor.current.kind = .keyword keyword
  · rw [takeKeyword_of_eq next]
    exact .ok (lies.advance.weaken .inl fun _ member => member)
  · rw [takeKeyword_of_ne next]
    exact .ok lies

theorem triple_failExpected :
    Triple file (Cursor.Lies file base read closed marks) (failExpected expected) post :=
  triple_peek.before fun _ => yields_failAt _ List.mem_cons_self

/-- A symbol that has to follow closes the cursor. -/
theorem triple_expectSymbol :
    Triple file (Cursor.Lies file base read closed marks) (expectSymbol symbol expected)
      fun _ cursor => cursor.Lies file base read True marks := by
  refine (triple_takeSymbol symbol).before fun taken => .ite (fun holds => .done ?_)
    fun _ => triple_failExpected expected
  exact fun cursor lies => lies.weaken (fun _ => .inr holds) fun _ member => member

theorem triple_expectKeyword (keyword : Keyword) (expected : String) :
    Triple file (Cursor.Lies file base read closed marks) (expectKeyword keyword expected)
      fun _ cursor => cursor.Lies file base read closed marks :=
  (triple_takeKeyword keyword).before fun _ =>
    .ite (fun _ => .done fun _ lies => lies) fun _ => triple_failExpected expected

theorem triple_takeName :
    Triple file (Cursor.Lies file base read closed marks) (takeName expected) fun _ cursor =>
      cursor.Lies file base read closed marks := by
  refine triple_advance.before fun token => ?_
  split
  · exact .done fun _ lies => lies.unmark.kept
  · exact .done fun _ lies => lies.unmark.kept
  · exact yields_failAt _ List.mem_cons_self

theorem triple_takePropertyName :
    Triple file (Cursor.Lies file base read closed marks) takePropertyName fun _ cursor =>
      cursor.Lies file base read closed marks := by
  refine triple_advance.before fun token => ?_
  split
  · exact .done fun _ lies => lies.unmark.kept
  · exact yields_failAt _ List.mem_cons_self

end Tokens

/-! ## Loops -/

/-- What is known after a turn. -/
def Decided (again : α → Cursor → Prop) (done : β → Cursor → Prop) : Turn α β → Cursor → Prop
  | .again state, cursor => again state cursor
  | .done result, cursor => done result cursor

/-- What a turn decides is good. -/
def Turn.Good (state : α → Prop) (result : β → Prop) : Turn α β → Prop
  | .again next => state next
  | .done value => result value

/-- A turn keeps an invariant. -/
abbrev Sustains (file : String) (again done : α → Cursor → Prop) (invariant : α → Prop)
    (turn : α → Parse (Turn α α)) : Prop :=
  ∀ state, Yields file (again state) (turn state) (Decided again done) fun decided =>
    invariant state → decided.Good invariant invariant

section Loops

variable {file : String} {again : α → Cursor → Prop}

theorem yields_loopWithin {turn : α → Parse (Turn α β)} {done : β → Cursor → Prop}
    {invariant : α → Prop} {result : β → Prop}
    (sound : ∀ state cursor, again state cursor → cursor.Sound file)
    (step : ∀ state, Yields file (again state) (turn state) (Decided again done) fun decided =>
      invariant state → decided.Good invariant result) (bound : Nat) (state : α) :
    Yields file (again state) (loopWithin turn bound state) done fun value =>
      invariant state → result value := by
  induction bound generalizing state with
  | zero => exact yields_failHere (sound state) _
  | succ bound ih =>
    refine (step state).bind fun decided => ?_
    cases decided with
    | again next => exact (ih next).imp fun _ later kept holds => later (kept holds)
    | done result => exact .pure (fun kept holds => kept holds) fun _ holds => holds

/-- What every turn keeps is known throughout a loop. -/
theorem yields_loop {done : α → Cursor → Prop} {invariant : α → Prop}
    {turn : α → Parse (Turn α α)}
    (sound : ∀ state cursor, again state cursor → cursor.Sound file)
    (step : Sustains file again done invariant turn) (state : α) :
    Yields file (again state) (loop turn state) done fun result =>
      invariant state → invariant result :=
  .glance (fun _ _ => rfl) fun _ => yields_loopWithin sound step _ state

theorem triple_loop {turn : α → Parse (Turn α β)} {done : β → Cursor → Prop}
    (sound : ∀ state cursor, again state cursor → cursor.Sound file)
    (step : ∀ state, Triple file (again state) (turn state) (Decided again done)) (state : α) :
    Triple file (again state) (loop turn state) done := by
  have turns (state : α) : Yields file (again state) (turn state) (Decided again done) fun decided =>
      True → decided.Good (fun _ => True) fun _ => True :=
    (step state).imp fun decided _ _ => by cases decided <;> trivial
  exact .glance (fun _ _ => rfl) fun _ => (yields_loopWithin sound turns _ state).imp
    fun _ kept => kept trivial

theorem yields_commaTurn {base : Position} {read : List Outline} {closed : Prop} {marks : List Mark}
    {done : List β → Cursor → Prop} {again : List β → Cursor → Prop} {found : List β}
    {invariant : List β → Prop}
    (goesOn : ∀ cursor, cursor.Lies file base read closed marks → again found cursor)
    (stops : ∀ cursor, cursor.Lies file base read closed marks → done found cursor) :
    Yields file (Cursor.Lies file base read closed marks) (commaTurn found) (Decided again done)
      fun decided => invariant found → decided.Good invariant invariant := by
  refine (triple_takeSymbol .comma).before fun taken =>
    .ite (fun _ => .pure id ?_) fun _ => .pure id ?_
  · exact fun cursor lies => goesOn cursor lies.kept
  · exact fun cursor lies => stops cursor lies.kept

end Loops

/-! ## Readers without nested syntax -/

section Quiet

variable {file : String} {base : Position} {read : List Outline} {closed : Prop} {marks : List Mark}

/-- Parameters are read as long as they are distinct. -/
theorem sustains_parameter :
    Sustains file (fun _ => Cursor.Lies file base read closed marks)
      (fun _ => Cursor.Lies file base read closed marks) List.Nodup parameter := by
  intro found
  refine triple_peek.before fun token => (triple_takeKeyword .thisWord).before fun isRoot => ?_
  have named : Triple file (Cursor.Lies file base read closed (.token token.span :: marks))
      (Parameter.named <$> takeName "parameter name") fun _ =>
        Cursor.Lies file base read closed (.token token.span :: marks) :=
    (triple_takeName _).map (fun _ => id) fun _ _ lies => lies
  have root : Triple file (Cursor.Lies file base read closed (.token token.span :: marks))
      (Pure.pure Parameter.root) fun _ =>
        Cursor.Lies file base read closed (.token token.span :: marks) :=
    .done fun _ lies => lies
  refine .ite (fun _ => root.before fun next => ?_) fun _ => named.before fun next => ?_
  all_goals
    refine .guarded (yields_failAt _ List.mem_cons_self) ?_
    refine .imp (yields_commaTurn (fun _ lies => lies.unmark) fun _ lies => lies.unmark)
      fun _ kept fresh distinct => kept ?_
    rw [← List.concat_eq_append]
    exact distinct.concat fresh

theorem yields_functionParameters :
    Yields file (Cursor.Lies file base read closed marks) functionParameters
      (fun _ cursor => cursor.Lies file base read True marks) List.Nodup := by
  refine (triple_expectSymbol _ _).before fun _ => (triple_atSymbol _).before fun empty => ?_
  have rest (found : List Parameter) :
      Yields file (Cursor.Lies file base read True marks)
        (expectSymbol .rightParen "')' after parameters" >>= fun _ => Pure.pure found)
        (fun _ cursor => cursor.Lies file base read True marks)
        fun result => found.Nodup → result.Nodup :=
    (triple_expectSymbol _ _).before fun _ => .pure id fun _ lies => lies
  refine .ite (fun _ => (Yields.pure List.nodup_nil fun _ lies => lies).bind rest) fun _ => ?_
  exact ((yields_loop (fun _ _ lies => lies.toSound) sustains_parameter []).imp
    fun _ distinct => distinct List.nodup_nil).bind rest

/-! ## Constants and tags -/

/-- A reader keeps all that is known. -/
structure Quiet (file : String) (reader : Parse α) : Prop where
  triple : ∀ {base read closed marks},
    Triple file (Cursor.Lies file base read closed marks) reader fun _ =>
      Cursor.Lies file base read closed marks

theorem Quiet.steady {reader : Parse α} (quiet : Quiet file reader) : Steady reader :=
  (@Quiet.triple _ file reader quiet .start [] False []).toSteady

theorem triple_takeConstantKey :
    Triple file (Cursor.Lies file base read closed marks) takeConstantKey fun entry =>
      Cursor.Lies file base read closed (.token entry.2 :: marks) := by
  refine triple_advance.before fun token => ?_
  split
  · exact .done fun _ lies => lies.kept
  · exact .done fun _ lies => lies.kept
  · exact yields_failAt _ List.mem_cons_self

theorem triple_constantPart {part : List α → Parse α} (quiet : ∀ found, Quiet file (part found))
    (closing : Symbol) (expected : String) (whole : List α → Json) (found : List α) :
    Triple file (Cursor.Lies file base read closed marks)
      (constantPart closing expected part whole found)
      (Decided (fun _ => Cursor.Lies file base read closed marks)
        fun _ => Cursor.Lies file base read closed marks) := by
  refine (triple_takeSymbol _).before fun closes => .ite (fun _ => .done fun _ lies => lies.kept) ?_
  refine fun _ => ((quiet found).triple.before fun next => ?_).given fun _ => Cursor.Lies.kept
  refine (triple_takeSymbol _).before fun comma => .ite (fun _ => .done fun _ lies => lies.kept) ?_
  exact fun _ => (triple_expectSymbol _ _).before fun _ =>
    .done fun _ lies => lies.weaken (fun _ => trivial) fun _ member => member

section Constants

variable {nested : Parse Json} (quiet : Quiet file nested)

include quiet

theorem quiet_constantEntry (members : List (String × Json)) :
    Quiet file (constantEntry nested members) := by
  refine ⟨triple_takeConstantKey.before fun entry => (triple_expectSymbol _ _).before fun _ =>
    quiet.triple.before fun value => .guarded (yields_failAt _ List.mem_cons_self) ?_⟩
  exact .pure (fun _ => trivial) fun _ lies =>
    lies.weaken (fun _ => trivial) fun _ => List.mem_cons_of_mem _

theorem quiet_constantForm : Quiet file (constantForm nested) := by
  refine ⟨triple_takeToken.before fun token => ?_⟩
  split
  · exact .done fun _ known => known.1.unmark.kept
  · next sign =>
    refine (triple_takeNext (sign ▸ nofun)).before fun next => ?_
    split
    · exact .done fun _ known => known.1.unmark.unmark.kept.kept
    · refine .plain (steady_previousSpan.bind fun _ => steady_failAt _ _)
        fun known => .error (known.1.raised _ ?_)
      obtain last | last := known.2
      · exact last ▸ List.mem_cons_self
      · exact last ▸ List.mem_cons_of_mem _ List.mem_cons_self
  · exact .done fun _ known => known.1.unmark.kept
  · exact .done fun _ known => known.1.unmark.kept
  · exact .done fun _ known => known.1.unmark.kept
  · exact .done fun _ known => known.1.unmark.kept
  · exact .done fun _ known => known.1.unmark.kept
  · exact (triple_loop (fun _ _ lies => lies.toSound) (triple_constantPart (fun _ => quiet) _ _ _)
      []).given fun _ known => known.1.unmark.kept
  · exact (triple_loop (fun _ _ lies => lies.toSound) (triple_constantPart
      (quiet_constantEntry quiet) _ _ _) []).given fun _ known => known.1.unmark.kept
  · exact (yields_failAt _ List.mem_cons_self).given fun _ known => known.1

end Constants

theorem quiet_constant (depth : Nat) : Quiet file (constant depth) := by
  induction depth with
  | zero => exact ⟨yields_failHere (fun _ lies => lies.toSound) _⟩
  | succ depth ih => exact quiet_constantForm ih

theorem quiet_tagRule (rule : TagRule) : Quiet file rule.read := by
  cases rule with
  | anyConstant => exact quiet_constant maxNesting
  | version =>
    refine ⟨triple_advance.before fun token => ?_⟩
    split
    · exact .ite (fun _ => .done fun _ lies => lies.unmark.kept)
        fun _ => yields_failAt _ List.mem_cons_self
    · exact yields_failAt _ List.mem_cons_self

variable (rules : TagRules) (tags : OrderedMap Json)

theorem quiet_headerTag : Quiet file (headerTag rules tags) := by
  refine ⟨triple_advance.before fun token => ?_⟩
  split
  · next key _ =>
    cases rules.lookup key with
    | none => exact yields_failAt _ List.mem_cons_self
    | some rule =>
      refine .guarded (yields_failAt _ List.mem_cons_self) ?_
      refine (quiet_tagRule rule).triple.before fun value => (triple_expectSymbol _ _).before fun _ => ?_
      exact .pure (fun _ => trivial) fun _ lies =>
        lies.unmark.weaken (fun _ => trivial) fun _ member => member
  · exact yields_failAt _ List.mem_cons_self

theorem triple_recoveringTag :
    Triple file (Cursor.Open file base []) (recoveringTag rules tags) fun _ =>
      Cursor.Open file base [] := by
  have tag : Quiet file (headerTag rules tags) := quiet_headerTag rules tags
  refine .plain (steady_recoveringTag tag.steady) fun {cursor} opened => ?_
  have placed := tag.triple.placed opened.advance
  have moves := cursor.moves_advance.trans (tag.steady.moves cursor.advance)
  simp only [recoveringTag]
  generalize headerTag rules tags cursor.advance = result at placed moves
  cases placed with
  | ok known => exact .ok known.opened
  | error raised => exact .ok (opened.recover moves raised _)

theorem triple_headerTurn :
    Triple file (Cursor.Open file base []) (headerTurn rules tags)
      (Decided (fun _ => Cursor.Open file base []) fun _ => Cursor.Open file base []) := by
  refine .glance (fun _ _ => rfl) fun place => (triple_atSymbol _).before fun atTag => ?_
  exact .ite (fun _ => .done fun _ opened => opened)
    fun _ => (triple_recoveringTag rules tags).before fun _ => .done fun _ opened => opened

theorem steady_headerTurn : Steady (headerTurn rules tags) :=
  (@triple_headerTurn "" .start rules tags).toSteady

end Quiet

end Grammar
end PatchScript
