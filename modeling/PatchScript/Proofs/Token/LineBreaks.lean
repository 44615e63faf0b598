import PatchScript.Proofs.Token.Partition

/-!
# Line breaks between sources

Nothing that cutting a source into tokens keeps in mind outlasts a line break: no token and no
comment goes on after one, and a literal that is still open there is a fault.  So two texts with
a line break between them are cut like each of them by itself, the second one as many lines
further down as the first one has, and its columns as they were.
-/

namespace PatchScript

/-! ## Further down -/

/-- The same column some lines further down. -/
def Position.below (position : Position) (lines : Nat) : Position :=
  { position with line := position.line + lines }

/-- The same columns some lines further down. -/
def Span.below (span : Span) (lines : Nat) : Span :=
  { span with start := span.start.below lines, stop := span.stop.below lines }

/-- The same token some lines further down. -/
def Token.below (token : Token) (lines : Nat) : Token :=
  { token with span := token.span.below lines }

/-- The same error some lines further down. -/
def LexError.below (error : LexError) (lines : Nat) : LexError :=
  { error with position := error.position.below lines }

namespace Position

section

variable (position : Position)

theorem below_advance (lines : Nat) (c : Char) :
    (position.below lines).advance c = (position.advance c).below lines := by
  simp only [advance, below]
  split
  · rw [Nat.add_right_comm]
  · split <;> rfl

theorem below_after (lines : Nat) (text : List Char) :
    (position.below lines).after text = (position.after text).below lines := by
  induction text generalizing position with
  | nil => rfl
  | cons c text ih => rw [after_cons, after_cons, below_advance, ih]

theorem line_advance (c : Char) : (position.advance c).line = position.line + [c].count '\n' := by
  rw [advance]
  split
  next isBreak => simp [isBreak]
  next inline => split <;> simp [inline]

/-- Every line break in a text leads one line further down. -/
theorem line_after_eq (text : List Char) :
    (position.after text).line = position.line + text.count '\n' := by
  induction text generalizing position with
  | nil => rfl
  | cons c text ih =>
    rw [after_cons, ih, line_advance, Nat.add_assoc, ← List.count_append, List.singleton_append]

end

/-- After a line break all lines look alike. -/
theorem after_newline (text : List Char) :
    start.after (text ++ ['\n']) = start.below (text.count '\n' + 1) := by
  have line := line_after_eq start text
  rw [after_append, after_cons, after_nil, advance, if_pos rfl, line, Nat.add_assoc]
  rfl

end Position

namespace Scan

variable {later whole : Except LexError (List Token)} {rest skipped source : List Char}
variable {c : Char} {accepts : Char → Bool} {fault : Fault} {before : List Char} (file : String)

/-! ## Tokens before a line break -/

/-- What has no line break in it stands before the first one. -/
theorem prefix_of_inline {used text : List Char} (inline : '\n' ∉ used)
    (head : used <+: text ++ '\n' :: rest) : used <+: text := by
  induction text generalizing used with
  | nil =>
    cases used with
    | nil => exact List.nil_prefix
    | cons c used =>
      obtain ⟨rfl, -⟩ := List.cons_prefix_cons.mp head
      exact absurd List.mem_cons_self inline
  | cons c text ih =>
    cases used with
    | nil => exact List.nil_prefix
    | cons first used =>
      obtain ⟨rfl, tail⟩ := List.cons_prefix_cons.mp head
      exact List.cons_prefix_cons.mpr
        ⟨rfl, ih (fun member => inline (List.mem_cons_of_mem first member)) tail⟩

theorem takeWhile_append_newline (refuses : accepts '\n' = false) (text rest : List Char) :
    (text ++ '\n' :: rest).takeWhile accepts = text.takeWhile accepts := by
  induction text with
  | nil => simp [refuses]
  | cons c text ih => simp only [List.cons_append, List.takeWhile_cons, ih]

theorem dropWhile_append_newline (refuses : accepts '\n' = false) (text rest : List Char) :
    (text ++ '\n' :: rest).dropWhile accepts = text.dropWhile accepts ++ '\n' :: rest := by
  induction text with
  | nil => simp [refuses]
  | cons c text ih =>
    rw [List.cons_append, List.dropWhile_cons, List.dropWhile_cons, ih]
    split <;> rfl

theorem nameOf_append_newline (text rest : List Char) :
    nameOf (text ++ '\n' :: rest) = nameOf text :=
  takeWhile_append_newline rfl text rest

theorem readNumber_append_newline (text rest : List Char) :
    readNumber (text ++ '\n' :: rest) = readNumber text := by
  have digits (text : List Char) :
      (text ++ '\n' :: rest).takeWhile Char.isDigit = text.takeWhile Char.isDigit :=
    takeWhile_append_newline rfl text rest
  have others : (text ++ '\n' :: rest).dropWhile Char.isDigit =
      text.dropWhile Char.isDigit ++ '\n' :: rest :=
    dropWhile_append_newline rfl text rest
  rw [readNumber, readNumber, drop_length_takeWhile, drop_length_takeWhile, digits, others]
  cases text.dropWhile Char.isDigit with
  | nil => rfl
  | cons c more =>
    by_cases point : c = '.'
    · subst point
      simp only [List.cons_append, digits]
    · rw [List.cons_append]
      split
      next same => exact absurd (List.cons.inj same).1 point
      next =>
        split
        next same => exact absurd (List.cons.inj same).1 point
        next => rfl

theorem longestMatch_append_newline (text rest : List Char) :
    Symbol.trie.longestMatch (text ++ '\n' :: rest) = Symbol.trie.longestMatch text := by
  refine Trie.longestMatch_eq_iff.mpr
    ((Symbol.trie.isLongest_longestMatch text).of_heads fun used value => ?_)
  obtain ⟨symbol, found⟩ := Option.ne_none_iff_exists'.mp value
  have inline := newline_not_mem_symbol (Trie.mem_of_find?_ofTable found)
  exact ⟨fun head => head.trans (List.prefix_append _ _), prefix_of_inline inline⟩

/-- A literal is closed before a line break or not at all. -/
theorem readQuoted_append_newline (quote : Quote) (text rest : List Char)
    (found : List Char × Nat) :
    readQuoted quote.char 1 0 [] (text ++ '\n' :: rest) = .ok found ↔
      readQuoted quote.char 1 0 [] text = .ok found := by
  constructor
  · intro read
    obtain ⟨items, after, same⟩ := exists_items read
    have inline : '\n' ∉ items.flatMap QuotedItem.text ++ [quote.char] := by
      rw [List.mem_append, List.mem_singleton, not_or]
      exact ⟨newline_not_mem_items items, by cases quote <;> decide⟩
    obtain ⟨after, rfl⟩ := prefix_of_inline inline ⟨after, by rw [same]; simp⟩
    rw [List.append_assoc, List.append_assoc, List.singleton_append, readQuoted_items] at read
    rw [List.append_assoc, List.singleton_append, readQuoted_items, read]
  · intro read
    obtain ⟨items, after, rfl⟩ := exists_items read
    rw [readQuoted_items] at read
    rw [List.append_assoc, List.cons_append, readQuoted_items, read]

/-- A token is read alike before a line break and at the end, or cannot be read at either. -/
theorem readToken_append_newline (c : Char) (text rest : List Char) (token : TokenKind × Nat) :
    readToken c (text ++ '\n' :: rest) = .ok token ↔ readToken c text = .ok token := by
  have name := nameOf_append_newline (c :: text) rest
  have number := readNumber_append_newline (c :: text) rest
  have symbol := longestMatch_append_newline (c :: text) rest
  rw [List.cons_append] at name number symbol
  have quoted (quote : Quote) : readToken quote.char (text ++ '\n' :: rest) = .ok token ↔
      readToken quote.char text = .ok token := by
    simp only [quote.readToken_char, map_eq_ok_iff, readQuoted_append_newline]
  by_cases doubled : c = '"'
  · exact doubled ▸ quoted .double
  by_cases single : c = '\''
  · exact single ▸ quoted .single
  rw [readToken.eq_def, readToken.eq_def, name, number, symbol, if_neg doubled, if_neg doubled,
    if_neg single, if_neg single]
  split
  · cases text with
    | nil =>
      constructor
      all_goals
        intro same
        cases same
    | cons first text =>
      rw [List.cons_append, ← List.cons_append, nameOf_append_newline]
      exact .rfl
  · rfl

/-! ## Trivia before a line break -/

/-- Trivia is skipped before whatever is skipped after it. -/
theorem Skips.trivia (trivia : Trivia before) (skips : Skips source skipped rest) :
    Skips (before ++ source) (before ++ skipped) rest := by
  induction trivia with
  | nil => exact skips
  | blank member _ ih => exact ih.blank (isBlank_iff.mpr member)
  | comment inline _ ih =>
    have longer := ih.comment inline
    simpa only [List.cons_append, List.append_assoc] using longer

/-- Trivia at the end of a text is skipped together with the line break after it. -/
theorem Skips.finalTrivia (final : FinalTrivia before) (skips : Skips source skipped rest) :
    Skips (before ++ '\n' :: source) (before ++ '\n' :: skipped) rest := by
  cases final with
  | closed trivia => exact (skips.blank rfl).trivia trivia
  | openComment trivia inline =>
    have longer := (skips.comment inline).trivia trivia
    simpa only [List.cons_append, List.append_assoc] using longer

/-- What is skipped leads on to where the first token stands. -/
theorem tokensFrom_skipped (position : Position) (skips : Skips source skipped rest) :
    tokensFrom file position source = tokensFrom file (position.after skipped) rest := by
  obtain ⟨rfl, -⟩ | ⟨-, c, more, rfl, notBlank, notHash⟩ := skips.ended
  · rw [tokensFrom_end file position skips, tokensFrom_end file _ skips_end]
    rfl
  · have alone := skips_nil notBlank notHash more
    cases read : readToken c more with
    | error fault =>
      rw [tokensFrom_fault file position skips read, tokensFrom_fault file _ alone read,
        Position.after_append, List.nil_append]
    | ok token =>
      obtain ⟨kind, length⟩ := token
      obtain ⟨used, rfl, ⟨after, rfl⟩, -, -⟩ := exists_lexeme read
      rw [tokensFrom_token file position skips read, tokensFrom_token file _ alone read,
        Position.after_append, List.nil_append]
      rfl

/-- Where a text has no more tokens, the next one is cut as it stands. -/
theorem tokensFrom_finalTrivia (position : Position) {first : List Char}
    (final : FinalTrivia first) (second : List Char) :
    tokensFrom file position (first ++ '\n' :: second) =
      tokensFrom file (position.after (first ++ ['\n'])) second := by
  obtain ⟨skipped, rest, skips⟩ := exists_skips second
  rw [tokensFrom_skipped file position (skips.finalTrivia final), tokensFrom_skipped file _ skips,
    ← Position.after_append, List.append_assoc, List.singleton_append]

/-! ## Sources one below the other -/

/-- What a source is cut into, some lines further down. -/
def below (lines : Nat) : Except LexError (List Token) → Except LexError (List Token)
  | .ok tokens => .ok (tokens.map fun token => token.below lines)
  | .error error => .error (error.below lines)

/-- A source is cut alike further down. -/
theorem tokensFrom_below (lines : Nat) (position : Position) (source : List Char) :
    tokensFrom file (position.below lines) source = below lines (tokensFrom file position source) := by
  induction size : source.length using Nat.strongRecOn generalizing position source with
  | ind size ih =>
    subst size
    obtain ⟨skipped, rest, skips⟩ := exists_skips source
    obtain ⟨rfl, -⟩ | ⟨-, c, more, rfl, -, -⟩ := skips.ended
    · rw [tokensFrom_end file _ skips, tokensFrom_end file position skips, Position.below_after]
      rfl
    · cases read : readToken c more with
      | error fault =>
        rw [tokensFrom_fault file _ skips read, tokensFrom_fault file position skips read,
          Position.below_after]
        rfl
      | ok token =>
        obtain ⟨kind, length⟩ := token
        obtain ⟨used, rfl, ⟨after, rfl⟩, -, -⟩ := exists_lexeme read
        have shorter : after.length < source.length := by
          rw [skips.split]
          simp only [List.length_append, List.length_cons]
          omega
        have later := ih _ shorter (position.after (skipped ++ c :: used)) after rfl
        rw [tokensFrom_token file _ skips read, tokensFrom_token file position skips read,
          Position.below_after, Position.below_after, later]
        cases tokensFrom file (position.after (skipped ++ c :: used)) after <;> rfl

/-- How two texts with a line break between them are cut: like the second one where the first
one can be cut, and not at all where it cannot. -/
inductive Joined (later : Except LexError (List Token)) :
    Except LexError (List Token) → Except LexError (List Token) → Prop where
  | ok (tokens : List Token) (last : Token) :
    Joined later (.ok (tokens ++ [last])) (later.map fun others => tokens ++ others)
  | error (error error' : LexError) : Joined later (.error error) (.error error')

theorem Joined.eq_of_ok {tokens : List Token} {last : Token}
    (joined : Joined later (.ok (tokens ++ [last])) whole) :
    whole = later.map fun others => tokens ++ others := by
  generalize same : tokens ++ [last] = all at joined
  cases joined with
  | ok tokens' last' => rw [(List.append_inj' same rfl).1]

theorem Joined.exists_error {error : LexError} (joined : Joined later (.error error) whole) :
    ∃ error', whole = .error error' := by
  cases joined with
  | error _ error' => exact ⟨error', rfl⟩

/-- The first text has no tokens. -/
theorem Joined.nil (later : Except LexError (List Token)) (last : Token) :
    Joined later (.ok [last]) later := by
  have both : Joined later (.ok ([] ++ [last])) (later.map fun others => [] ++ others) :=
    .ok [] last
  cases later <;> exact both

/-- One more token before both texts. -/
theorem Joined.cons {first : Except LexError (List Token)} (joined : Joined later first whole)
    (token : Token) :
    Joined later (first.map fun others => token :: others)
      (whole.map fun others => token :: others) := by
  cases joined with
  | ok tokens last =>
    have both : Joined later (.ok (token :: tokens ++ [last]))
        (later.map fun others => token :: tokens ++ others) := .ok (token :: tokens) last
    cases later <;> exact both
  | error error error' => exact .error error error'

/-- Two texts with a line break between them. -/
theorem joined_tokensFrom (position : Position) (first second : List Char) :
    Joined (tokensFrom file (position.after (first ++ ['\n'])) second)
      (tokensFrom file position first)
      (tokensFrom file position (first ++ '\n' :: second)) := by
  induction size : first.length using Nat.strongRecOn generalizing position first with
  | ind size ih =>
    subst size
    obtain ⟨skipped, rest, skips⟩ := exists_skips first
    have split := skips.split
    obtain ⟨rfl, final⟩ | ⟨trivia, c, more, rfl, notBlank, notHash⟩ := skips.ended
    · rw [List.append_nil] at split
      subst split
      rw [tokensFrom_end file position skips, tokensFrom_finalTrivia file position final]
      exact .nil _ _
    · have whole : Skips (first ++ '\n' :: second) skipped (c :: (more ++ '\n' :: second)) := by
        have longer := (skips_nil notBlank notHash (more ++ '\n' :: second)).trivia trivia
        rwa [List.append_nil, ← List.cons_append, ← List.append_assoc, ← split] at longer
      have same := readToken_append_newline c more second
      cases read : readToken c more with
      | error fault =>
        cases readWhole : readToken c (more ++ '\n' :: second) with
        | error fault' =>
          rw [tokensFrom_fault file position skips read,
            tokensFrom_fault file position whole readWhole]
          exact .error _ _
        | ok token =>
          rw [(same token).mp readWhole] at read
          cases read
      | ok token =>
        obtain ⟨kind, length⟩ := token
        have readWhole := (same _).mpr read
        obtain ⟨used, rfl, ⟨after, rfl⟩, -, -⟩ := exists_lexeme read
        rw [List.append_assoc] at whole readWhole
        rw [tokensFrom_token file position skips read,
          tokensFrom_token file position whole readWhole]
        have shorter : after.length < first.length := by
          rw [split]
          simp only [List.length_append, List.length_cons]
          omega
        have joined := ih _ shorter (position.after (skipped ++ c :: used)) after rfl
        have place : (position.after (skipped ++ c :: used)).after (after ++ ['\n']) =
            position.after (first ++ ['\n']) := by
          rw [← Position.after_append, split]
          simp only [List.append_assoc, List.cons_append]
        rw [place] at joined
        exact joined.cons _

end Scan

/-- Two texts with a line break between them.  If the first can be cut into tokens, the whole is
cut into these, without the mark of their end, and into those of the second text, as many lines
further down as the first text and the line break take up; and if the second text cannot be cut,
neither can the whole, with the same message at the same place further down.  If the first text
cannot be cut, neither can the whole. -/
theorem scan_line_break (first second file : String) :
    (∀ tokens last, scan first file = .ok (tokens ++ [last]) →
      scan (first ++ "\n" ++ second) file =
        match scan second file with
        | .ok others =>
          .ok (tokens ++ others.map fun token => token.below (first.toList.count '\n' + 1))
        | .error error => .error (error.below (first.toList.count '\n' + 1))) ∧
    (∀ error, scan first file = .error error →
      ∃ error', scan (first ++ "\n" ++ second) file = .error error') := by
  have joined := Scan.joined_tokensFrom file Position.start first.toList second.toList
  have text : (first ++ "\n" ++ second).toList = first.toList ++ '\n' :: second.toList := by simp
  rw [Position.after_newline, Scan.tokensFrom_below] at joined
  simp only [scan, text]
  constructor
  · intro tokens last scanned
    rw [scanned] at joined
    rw [joined.eq_of_ok]
    cases Scan.tokensFrom file Position.start second.toList <;> rfl
  · intro error scanned
    rw [scanned] at joined
    exact joined.exists_error

/-- A comment that ends with the first text, and a tab at the start of the second. -/
theorem scan_line_break_openComment :
    ∃ tokens last others, scan "a. # b" "f" = .ok (tokens ++ [last]) ∧ tokens.length = 2 ∧
      scan "\tc" "f" = .ok others ∧ others.length = 2 ∧
      scan ("a. # b" ++ "\n" ++ "\tc") "f" = .ok (tokens ++ others.map fun token => token.below 1) := by
  have counted : (scan "a. # b" "f").map List.length = .ok 3 := by cbv
  have countedAfter : (scan "\tc" "f").map List.length = .ok 2 := by cbv
  obtain ⟨all, scanned, size⟩ := Scan.map_eq_ok_iff.mp counted
  obtain ⟨others, scannedAfter, sizeAfter⟩ := Scan.map_eq_ok_iff.mp countedAfter
  obtain rfl | ⟨tokens, last, rfl⟩ := all.eq_nil_or_concat'
  · cases size
  · rw [List.length_append, List.length_singleton] at size
    refine ⟨tokens, last, others, scanned, by omega, scannedAfter, sizeAfter, ?_⟩
    rw [(scan_line_break "a. # b" "\tc" "f").1 tokens last scanned, scannedAfter]
    rfl

end PatchScript
