import PatchScript.Proofs.Source.Positions
import PatchScript.Proofs.Token.Lexeme

/-!
# The partition of a source

A source that can be cut into tokens is a sequence of segments, each some trivia and then a
lexeme, and of trivia at the end.  There is one token for each lexeme, which is the token of
the lexeme read by itself, and it stands where the text before it leads to.
-/

namespace PatchScript

/-- Text between tokens: blanks, line breaks, and comments that end with their line. -/
inductive Trivia : List Char → Prop where
  | nil : Trivia []
  | blank {c : Char} {rest : List Char} :
    c ∈ [' ', '\r', '\t', '\n'] → Trivia rest → Trivia (c :: rest)
  | comment {text rest : List Char} :
    '\n' ∉ text → Trivia rest → Trivia ('#' :: text ++ '\n' :: rest)

/-- Text after the last token, where a comment can end with the source. -/
inductive FinalTrivia : List Char → Prop where
  | closed {text : List Char} : Trivia text → FinalTrivia text
  | openComment {before text : List Char} :
    Trivia before → '\n' ∉ text → FinalTrivia (before ++ '#' :: text)

/-- A token of a source, as it is written, and the trivia before it. -/
structure Segment where
  trivia : List Char
  lexeme : List Char
  kind : TokenKind

namespace Segment

/-- The text of a segment. -/
def text (segment : Segment) : List Char :=
  segment.trivia ++ segment.lexeme

/-- The tokens of segments that follow a text. -/
def tokens (file : String) : List Char → List Segment → List Token
  | _, [] => []
  | before, segment :: rest =>
    { kind := segment.kind
      span :=
        { file := file
          start := Position.start.after (before ++ segment.trivia)
          stop := Position.start.after (before ++ segment.text) } } ::
      tokens file (before ++ segment.text) rest

end Segment

/-- The token at the end of a text. -/
def Token.atEnd (file : String) (text : List Char) : Token where
  kind := .endOfFile
  span :=
    { file := file, start := Position.start.after text, stop := Position.start.after text }

/-- The lexeme of a segment follows trivia, and is the whole of a line that has its token and no
other. -/
structure Segment.Genuine (segment : Segment) : Prop where
  trivia : Trivia segment.trivia
  nonempty : segment.lexeme ≠ []
  inline : '\n' ∉ segment.lexeme
  alone : ∀ file, scan (String.ofList segment.lexeme) file =
    .ok (Segment.tokens file [] [{ segment with trivia := [] }] ++ [.atEnd file segment.lexeme])

namespace Scan

variable {c : Char} {rest skipped source text used : List Char} {kind : TokenKind}

/-! ## Trivia -/

theorem isBlank_iff : isBlank c = true ↔ c ∈ [' ', '\r', '\t', '\n'] := by
  simp only [isBlank, Bool.or_eq_true, beq_iff_eq, List.mem_cons, List.not_mem_nil, or_false,
    or_assoc]

/-- A comment goes on to the end of its line. -/
theorem triviaLength_comment (inline : '\n' ∉ text) :
    triviaLength true text = text.length ∧
      ∀ rest, triviaLength true (text ++ '\n' :: rest) =
        text.length + 1 + triviaLength false rest := by
  induction text with
  | nil =>
    refine ⟨rfl, fun rest => ?_⟩
    rw [List.nil_append, triviaLength, if_pos rfl]
    exact Nat.add_comm ..
  | cons c text ih =>
    rw [List.mem_cons, not_or] at inline
    obtain ⟨whole, closed⟩ := ih inline.2
    have goesOn : (c != '\n') = true := bne_iff_ne.mpr (Ne.symm inline.1)
    constructor
    · rw [triviaLength, if_pos rfl, goesOn, whole, List.length_cons]
    · intro rest
      rw [List.cons_append, triviaLength, if_pos rfl, goesOn, closed, List.length_cons]
      omega

/-- What is skipped of a text before its first token, and what is left. -/
structure Skips (source skipped rest : List Char) : Prop where
  split : source = skipped ++ rest
  counted : triviaLength false source = skipped.length
  ended : (rest = [] ∧ FinalTrivia skipped) ∨
    (Trivia skipped ∧ ∃ c more, rest = c :: more ∧ isBlank c = false ∧ c ≠ '#')

theorem Skips.blank (isBlank : isBlank c = true) (skips : Skips source skipped rest) :
    Skips (c :: source) (c :: skipped) rest where
  split := congrArg _ skips.split
  counted := by
    rw [triviaLength, if_neg Bool.false_ne_true, if_pos isBlank, skips.counted, List.length_cons]
  ended := by
    have member := isBlank_iff.mp isBlank
    obtain ⟨isEnd, final⟩ | ⟨trivia, next⟩ := skips.ended
    · refine .inl ⟨isEnd, ?_⟩
      cases final with
      | closed trivia => exact .closed (.blank member trivia)
      | openComment before inline => exact .openComment (.blank member before) inline
    · exact .inr ⟨.blank member trivia, next⟩

theorem triviaLength_hash (text : List Char) :
    triviaLength false ('#' :: text) = triviaLength true text + 1 :=
  rfl

theorem Skips.comment (inline : '\n' ∉ text) (skips : Skips source skipped rest) :
    Skips ('#' :: text ++ '\n' :: source) ('#' :: text ++ '\n' :: skipped) rest where
  split := by
    rw [skips.split]
    simp
  counted := by
    rw [List.cons_append, triviaLength_hash, (triviaLength_comment inline).2, skips.counted]
    simp only [List.length_cons, List.length_append]
    omega
  ended := by
    obtain ⟨isEnd, final⟩ | ⟨trivia, next⟩ := skips.ended
    · refine .inl ⟨isEnd, ?_⟩
      cases final with
      | closed trivia => exact .closed (.comment inline trivia)
      | @openComment before open' trivia inlineLast =>
        have joined : '#' :: text ++ '\n' :: (before ++ '#' :: open') =
            ('#' :: text ++ '\n' :: before) ++ '#' :: open' := by simp
        rw [joined]
        exact .openComment (.comment inline trivia) inlineLast
    · exact .inr ⟨.comment inline trivia, next⟩

/-- What is skipped before a token, or at the end, is trivia. -/
theorem exists_skips (source : List Char) : ∃ skipped rest, Skips source skipped rest := by
  -- A comment is skipped in one go, so the induction is on the length.
  induction size : source.length using Nat.strongRecOn generalizing source with
  | ind size ih =>
    subst size
    cases source with
    | nil => exact ⟨[], [], rfl, rfl, .inl ⟨rfl, .closed .nil⟩⟩
    | cons c source =>
      by_cases blank : isBlank c = true
      · obtain ⟨skipped, rest, skips⟩ := ih source.length (Nat.lt_succ_self _) source rfl
        exact ⟨c :: skipped, rest, skips.blank blank⟩
      by_cases hash : c = '#'
      · subst hash
        by_cases closes : '\n' ∈ source
        · obtain ⟨text, after, rfl, inline⟩ := List.eq_append_cons_of_mem closes
          have shorter : after.length < ('#' :: (text ++ '\n' :: after)).length := by
            simp only [List.length_cons, List.length_append]
            omega
          obtain ⟨skipped, rest, skips⟩ := ih after.length shorter after rfl
          exact ⟨_, rest, skips.comment inline⟩
        · refine ⟨'#' :: source, [], (List.append_nil _).symm, ?_,
            .inl ⟨rfl, .openComment .nil closes⟩⟩
          rw [triviaLength_hash, (triviaLength_comment closes).1, List.length_cons]
      · refine ⟨[], c :: source, rfl, ?_, .inr ⟨.nil, c, source, rfl, ?_, hash⟩⟩
        · rw [triviaLength, if_neg Bool.false_ne_true, if_neg blank, if_neg hash, List.length_nil]
        · exact Bool.eq_false_iff.mpr blank

theorem skips_end : Skips [] [] [] := ⟨rfl, rfl, .inl ⟨rfl, .closed .nil⟩⟩

/-- Before a token nothing is skipped. -/
theorem skips_nil (notBlank : isBlank c = false) (notHash : c ≠ '#') (more : List Char) :
    Skips (c :: more) [] (c :: more) := by
  refine ⟨rfl, ?_, .inr ⟨.nil, c, more, rfl, notBlank, notHash⟩⟩
  rw [triviaLength, if_neg Bool.false_ne_true, notBlank, if_neg Bool.false_ne_true, if_neg notHash,
    List.length_nil]

/-! ## One token after the other -/

section Tokens

variable (file : String) (position : Position)

theorem Skips.take (skips : Skips source skipped rest) :
    source.take (triviaLength false source) = skipped := by
  rw [skips.counted, skips.split, List.take_left]

theorem Skips.drop (skips : Skips source skipped rest) :
    source.drop (triviaLength false source) = rest := by
  rw [skips.counted, skips.split, List.drop_left]

theorem tokensFrom_end (skips : Skips source skipped []) :
    tokensFrom file position source =
      .ok [{ kind := .endOfFile
             span :=
              { file := file, start := position.after skipped, stop := position.after skipped } }] := by
  rw [tokensFrom, skips.take]
  split
  next => rfl
  next c rest shape =>
    rw [skips.drop] at shape
    cases shape

/-- Where a text cannot be cut, and why. -/
theorem tokensFrom_fault (skips : Skips source skipped (c :: rest)) {fault : Fault}
    (failed : readToken c rest = .error fault) :
    tokensFrom file position source =
      .error
        { message := fault.message
          file := file
          position := position.after (skipped ++ (c :: rest).take fault.offset) } := by
  rw [tokensFrom, skips.take]
  split
  next shape =>
    rw [skips.drop] at shape
    cases shape
  next first more shape =>
    rw [skips.drop] at shape
    cases shape
    rw [failed, Position.after_append]

/-- A token and those that follow it. -/
theorem tokensFrom_token {after : List Char} (skips : Skips source skipped (c :: (used ++ after)))
    (read : readToken c (used ++ after) = .ok (kind, used.length + 1)) :
    tokensFrom file position source =
      (tokensFrom file (position.after (skipped ++ c :: used)) after).map fun others =>
        { kind := kind
          span :=
            { file := file
              start := position.after skipped
              stop := position.after (skipped ++ c :: used) } } :: others := by
  rw [tokensFrom, skips.take]
  split
  next shape =>
    rw [skips.drop] at shape
    cases shape
  next first more shape =>
    rw [skips.drop] at shape
    cases shape
    simp only [read, Nat.add_sub_cancel, List.drop_left, List.take_succ_cons, List.take_left,
      ← Position.after_append]
    cases tokensFrom file (position.after (skipped ++ c :: used)) after with
    | error error => rfl
    | ok others => rfl

end Tokens

/-- A lexeme by itself is cut into its token and no other. -/
theorem scan_lexeme (notBlank : isBlank c = false) (notHash : c ≠ '#')
    (read : readToken c used = .ok (kind, used.length + 1)) (file : String) :
    scan (String.ofList (c :: used)) file =
      .ok (Segment.tokens file [] [{ trivia := [], lexeme := c :: used, kind := kind }] ++
        [.atEnd file (c :: used)]) := by
  have first : Skips (c :: used) [] (c :: (used ++ [])) := by
    simpa using skips_nil notBlank notHash used
  rw [scan, String.toList_ofList, tokensFrom_token file _ first (by simpa using read),
    tokensFrom_end file _ skips_end]
  rfl

/-- The rest of a source after a text is cut into segments. -/
theorem exists_segments {file : String} (before : List Char) {tokens : List Token}
    (scanned : tokensFrom file (Position.start.after before) source = .ok tokens) :
    ∃ segments last, source = segments.flatMap Segment.text ++ last ∧
      (∀ segment ∈ segments, segment.Genuine) ∧ FinalTrivia last ∧
      tokens = Segment.tokens file before segments ++ [.atEnd file (before ++ source)] := by
  induction size : source.length using Nat.strongRecOn generalizing before source tokens with
  | ind size ih =>
    subst size
    obtain ⟨skipped, rest, skips⟩ := exists_skips source
    have split := skips.split
    obtain ⟨rfl, final⟩ | ⟨trivia, c, more, rfl, notBlank, notHash⟩ := skips.ended
    · rw [tokensFrom_end file _ skips, ← Position.after_append] at scanned
      cases scanned
      rw [List.append_nil] at split
      subst split
      exact ⟨[], source, rfl, nofun, final, rfl⟩
    · cases read : readToken c more with
      | error fault =>
        rw [tokensFrom_fault file _ skips read] at scanned
        cases scanned
      | ok pair =>
        obtain ⟨kind, length⟩ := pair
        obtain ⟨used, rfl, ⟨after, rfl⟩, inline, alone⟩ := exists_lexeme read
        rw [tokensFrom_token file _ skips read] at scanned
        simp only [← Position.after_append] at scanned
        obtain ⟨others, later, rfl⟩ := map_eq_ok_iff.mp scanned
        have shorter : after.length < source.length := by
          rw [split]
          simp only [List.length_append, List.length_cons]
          omega
        obtain ⟨segments, last, rfl, genuine, final, rfl⟩ := ih _ shorter _ later rfl
        let segment : Segment := { trivia := skipped, lexeme := c :: used, kind := kind }
        have first : segment.Genuine :=
          ⟨trivia, List.cons_ne_nil _ _, inline, scan_lexeme notBlank notHash alone⟩
        refine ⟨segment :: segments, last, ?_, ?_, final, ?_⟩
        · rw [split]
          simp [segment, Segment.text]
        · exact List.forall_mem_cons.mpr ⟨first, genuine⟩
        · rw [split]
          simp [segment, Segment.text, Segment.tokens]

end Scan

/-! ## Where tokens stand -/

/-- The tokens of segments stand one after the other, each in one line. -/
theorem Segment.tokens_ordered (file : String) (before : List Char) {segments : List Segment}
    (genuine : ∀ segment ∈ segments, segment.Genuine) :
    (∀ token ∈ tokens file before segments,
      Position.start.after before ≤ token.span.start ∧ token.span.start < token.span.stop ∧
        token.span.stop ≤ Position.start.after (before ++ segments.flatMap text) ∧
        token.span.start.line = token.span.stop.line) ∧
      (tokens file before segments).Pairwise fun earlier later =>
        earlier.span.stop ≤ later.span.start := by
  induction segments generalizing before with
  | nil => exact ⟨nofun, .nil⟩
  | cons segment rest ih =>
    obtain ⟨own, others⟩ := List.forall_mem_cons.mp genuine
    obtain ⟨placed, ordered⟩ := ih (before ++ segment.text) others
    have start : Position.start.after before ≤ Position.start.after (before ++ segment.trivia) := by
      rw [Position.after_append]
      exact Position.le_after _ _
    have stop : Position.start.after (before ++ segment.text) =
        (Position.start.after (before ++ segment.trivia)).after segment.lexeme := by
      rw [text, ← List.append_assoc, Position.after_append]
    have within : Position.start.after before ≤ Position.start.after (before ++ segment.text) :=
      start.trans (stop ▸ Position.le_after _ _)
    constructor
    · intro token member
      rw [List.flatMap_cons, ← List.append_assoc]
      obtain rfl | later := List.mem_cons.mp member
      · refine ⟨start, ?_, ?_, ?_⟩
        · dsimp only
          rw [stop]
          exact Position.lt_after _ own.nonempty
        · rw [Position.after_append _ (before ++ segment.text)]
          exact Position.le_after _ _
        · dsimp only
          rw [stop]
          exact (Position.line_after _ own.inline).symm
      · obtain ⟨after, rest⟩ := placed token later
        exact ⟨within.trans after, rest⟩
    · refine .cons (fun token later => ?_) ordered
      exact (placed token later).1

/-- A source that can be cut into tokens is a sequence of segments and of trivia at the end.
There is one token for each segment, and one for the end of the source.  Each stands where the
text before it leads to, in one line, and they follow each other.  Positions are counted
character by character. -/
theorem scan_partition {source file : String} {tokens : List Token}
    (scanned : scan source file = .ok tokens) :
    ∃ segments last, source.toList = segments.flatMap Segment.text ++ last ∧
      (∀ segment ∈ segments, segment.Genuine) ∧ FinalTrivia last ∧
      tokens = Segment.tokens file [] segments ++ [.atEnd file source.toList] ∧
      (∀ token ∈ Segment.tokens file [] segments,
        token.span.start < token.span.stop ∧ token.span.start.line = token.span.stop.line) ∧
      (tokens.Pairwise fun earlier later =>
        earlier.span.start < later.span.start ∧ earlier.span.stop ≤ later.span.start) ∧
      ∀ (position : Position) (c : Char), 1 ≤ position.column → position.advance c =
        if c = '\n' then { line := position.line + 1, column := 1 }
        else if c = '\t' then
          { line := position.line, column := 4 * ((position.column - 1) / 4 + 1) + 1 }
        else { line := position.line, column := position.column + 1 } := by
  obtain ⟨segments, last, split, genuine, final, rfl⟩ := Scan.exists_segments [] scanned
  obtain ⟨placed, ordered⟩ := Segment.tokens_ordered file [] genuine
  refine ⟨segments, last, split, genuine, final, rfl, fun token member => ?_, ?_,
    fun position c counted => Position.advance_eq counted c⟩
  · exact ⟨(placed token member).2.1, (placed token member).2.2.2⟩
  · rw [List.pairwise_append]
    refine ⟨ordered.imp_of_mem fun {earlier _} member _ follows =>
      ⟨(placed earlier member).2.1.trans_le follows, follows⟩, List.pairwise_singleton _ _, ?_⟩
    intro earlier member atEnd isEnd
    rw [List.mem_singleton.mp isEnd]
    have before : earlier.span.stop ≤ Position.start.after source.toList := by
      rw [split, Position.after_append]
      exact (placed earlier member).2.2.1.trans (Position.le_after _ _)
    exact ⟨(placed earlier member).2.1.trans_le before, before⟩

/-- A tab, an escape, a comment and a line break. -/
theorem scan_partition_tabbedComment :
    ∃ tokens, scan "a\t= \"\\n\" # c\n;" "f" = .ok tokens ∧ tokens.length = 5 ∧
      ∃ segments last, "a\t= \"\\n\" # c\n;".toList = segments.flatMap Segment.text ++ last ∧
        (∀ segment ∈ segments, segment.Genuine) ∧ FinalTrivia last ∧
        tokens = Segment.tokens "f" [] segments ++ [.atEnd "f" "a\t= \"\\n\" # c\n;".toList] := by
  have counted : (scan "a\t= \"\\n\" # c\n;" "f").map List.length = .ok 5 := by cbv
  obtain ⟨tokens, scanned, size⟩ := Scan.map_eq_ok_iff.mp counted
  obtain ⟨segments, last, split, genuine, final, same, _⟩ := scan_partition scanned
  exact ⟨tokens, scanned, size, segments, last, split, genuine, final, same⟩

end PatchScript
