import PatchScript.Proofs.Frames.NearestBinding
import PatchScript.Proofs.Grammar.Lookahead
import PatchScript.Proofs.Token.Partition

/-!
# Identifiers

The grammar calls a text an identifier by its characters, without reading it as a source.  It
agrees with the scanner: the identifiers are the texts that are read as one word and are not
quoted.  Hence an import needs an alias unless the name of the library is such a word.
-/

namespace PatchScript

/-- The kinds of the tokens of a source. -/
def tokenKinds (source file : String) : Except LexError (List TokenKind) :=
  (scan source file).map fun tokens => tokens.map Token.kind

namespace Scan

variable {c : Char} {rest : List Char} {name : String} {length : Nat}

/-- A literal is longer than the text it stands for, by its quotes at least. -/
theorem length_lt_of_readQuoted {quote : Char} {offset skip total : Nat}
    {decoded text result : List Char} (shorter : decoded.length ≤ offset)
    (found : readQuoted quote offset skip decoded text = .ok (result, total)) :
    result.length < total := by
  fun_induction readQuoted quote offset skip decoded text <;> grind

/-- A word that is read is quoted, or it is a name and no keyword. -/
theorem readToken_eq_word (found : readToken c rest = .ok (.word name, length)) :
    name.length < length ∨ isNameStart c = true ∧ name.toList = nameOf (c :: rest) ∧
      Keyword.ofText? name = none := by
  by_cases starts : isNameStart c = true
  · rw [readToken_of_isNameStart starts] at found
    unfold wordKind at found
    split at found
    · cases found
    · next noKeyword =>
      cases found
      exact .inr ⟨starts, String.toList_ofList, noKeyword⟩
  unfold readToken at found
  split at found
  · obtain ⟨_, _, ⟨⟩⟩ := map_eq_ok_iff.mp found
  split at found
  · obtain ⟨_, quoted, ⟨⟩⟩ := map_eq_ok_iff.mp found
    exact .inl (by simpa using length_lt_of_readQuoted (Nat.zero_le 1) quoted)
  · grind [readNumber]

end Scan

namespace Grammar

theorem isIdentifier_iff {name : String} :
    isIdentifier name = true ↔ ∃ c rest, name.toList = c :: rest ∧ Scan.isNameStart c = true ∧
      Scan.nameOf (c :: rest) = c :: rest ∧ Keyword.ofText? name = none := by
  unfold isIdentifier
  split
  · next empty => simp [empty]
  · next c rest shape =>
    simp only [shape, Bool.and_eq_true, List.all_eq_true, Option.isNone_iff_eq_none]
    constructor
    · rintro ⟨⟨starts, parts⟩, noKeyword⟩
      refine ⟨c, rest, rfl, starts, List.takeWhile_eq_self_iff.mpr ?_, noKeyword⟩
      exact List.forall_mem_cons.mpr ⟨Scan.isNamePart_of_isNameStart starts, parts⟩
    · rintro ⟨_, _, ⟨⟩, starts, whole, noKeyword⟩
      exact ⟨⟨starts, (List.forall_mem_cons.mp (List.takeWhile_eq_self_iff.mp whole)).2⟩, noKeyword⟩

/-- An identifier is read as one word, and behind a dollar sign as one variable. -/
theorem tokenKinds_of_isIdentifier {name : String} (identifier : isIdentifier name = true)
    (file : String) :
    tokenKinds name file = .ok [.word name, .endOfFile] ∧
      tokenKinds ("$" ++ name) file = .ok [.variable name, .endOfFile] := by
  obtain ⟨c, rest, shape, starts, whole, noKeyword⟩ := isIdentifier_iff.mp identifier
  have named : String.ofList (c :: rest) = name := shape ▸ String.ofList_toList
  have notBlank : Scan.isBlank c = false := by
    have blanks : ∀ c ∈ [' ', '\r', '\t', '\n'], Scan.isNameStart c = false := by
      simp [Scan.isNameStart]
    exact Bool.eq_false_iff.mpr fun blank =>
      Scan.ne_of_isNameStart starts (blanks c (Scan.isBlank_iff.mp blank)) rfl
  have bare : Scan.readToken c rest = .ok (.word name, rest.length + 1) := by
    rw [Scan.readToken_of_isNameStart starts, whole, named, Scan.wordKind, noKeyword]
    rfl
  have dollar : Scan.readToken '$' (c :: rest) = .ok (.variable name, (c :: rest).length + 1) := by
    change (if Scan.isNameStart c then _ else _) = _
    rw [if_pos starts, whole, named]
  have marked : "$" ++ name = String.ofList ('$' :: c :: rest) := by
    rw [← named, ← String.toList_inj]
    simp
  constructor
  · have scanned := Scan.scan_lexeme notBlank (Scan.ne_of_isNameStart starts rfl) bare file
    rw [named] at scanned
    rw [tokenKinds, scanned]
    rfl
  · rw [tokenKinds, marked, Scan.scan_lexeme rfl (by decide) dollar]
    rfl

/-- A text that is read as one word, and that word is the text, is an identifier. -/
theorem isIdentifier_of_tokenKinds {name file : String}
    (read : tokenKinds name file = .ok [.word name, .endOfFile]) : isIdentifier name = true := by
  obtain ⟨tokens, scanned, kinds⟩ := Scan.map_eq_ok_iff.mp read
  obtain ⟨skipped, rest, skips⟩ := Scan.exists_skips name.toList
  have split := congrArg List.length skips.split
  obtain ⟨rfl, -⟩ | ⟨-, c, more, rfl, -⟩ := skips.ended
  · rw [scan, Scan.tokensFrom_end file _ skips] at scanned
    cases scanned
    cases kinds
  · cases token : Scan.readToken c more with
    | error fault =>
      rw [scan, Scan.tokensFrom_fault file _ skips token] at scanned
      cases scanned
    | ok pair =>
      obtain ⟨kind, length⟩ := pair
      obtain ⟨used, rfl, ⟨after, rfl⟩, -⟩ := Scan.exists_lexeme token
      rw [scan, Scan.tokensFrom_token file _ skips token] at scanned
      obtain ⟨others, -, rfl⟩ := Scan.map_eq_ok_iff.mp scanned
      cases (List.cons.inj kinds).1
      rw [List.length_append, List.length_cons, List.length_append] at split
      obtain quoted | ⟨starts, same, noKeyword⟩ := Scan.readToken_eq_word token
      -- The text would have to be longer than the word it is.
      · rw [← String.length_toList] at quoted
        omega
      · have whole : Scan.nameOf (c :: (used ++ after)) = c :: (used ++ after) := by
          refine (List.takeWhile_prefix _).eq_of_length_le ?_
          rw [Scan.nameOf] at same
          rw [← same]
          simp only [List.length_cons, List.length_append]
          omega
        exact isIdentifier_iff.mpr ⟨c, _, same.trans whole, starts, whole, noKeyword⟩

/-! ## Imports without an alias -/

section Imports

variable (rules : TagRules) (library : String) (word text stop last : Span)

/-- Why an import without an alias is refused. -/
def unnamedImport : ParseError where
  message := "Library name \"" ++ library ++ "\" is not a valid identifier; name it with 'as'"
  span := text

theorem statement_import :
    statement maxNesting false
        { remaining := [⟨.keyword .importWord, word⟩, ⟨.string library, text⟩,
            ⟨.symbol .semicolon, stop⟩]
          endSpan := last, previous := word, errors := [], aborted := false } =
      if isIdentifier library then
        .ok (.node (word.through stop) (.importLibrary library library))
          { remaining := [], endSpan := last, previous := stop, errors := [], aborted := false }
      else
        .error (unnamedImport library text)
          { remaining := [⟨.symbol .semicolon, stop⟩]
            endSpan := last, previous := text, errors := [], aborted := false } := by
  change ((if isIdentifier library then _ else _) >>= _ : Parse _) _ = _
  split <;> rfl

/-- An import without an alias binds the name of the library if it is an identifier, and is
refused otherwise. -/
theorem programOfTokens_import :
    programOfTokens rules
        [⟨.keyword .importWord, word⟩, ⟨.string library, text⟩, ⟨.symbol .semicolon, stop⟩,
          ⟨.endOfFile, last⟩] =
      if isIdentifier library then
        .ok { metadata := .empty
              statements := [.node (word.through stop) (.importLibrary library library)] }
      else .error [unnamedImport library text] := by
  have read := statement_import library word text stop last
  split
  · next named =>
    rw [if_pos named] at read
    exact programOfTokens_of_statement rules nofun nofun read rfl rfl
  · next unnamed =>
    rw [if_neg unnamed] at read
    obtain ⟨_, recovering⟩ := recoveringStatement_of_error read rfl
    exact Eq.trans (programOfTokens_of_recovering rules nofun nofun recovering rfl) rfl

end Imports
end Grammar

/-- An import that succeeds binds the library to the name. -/
theorem Evaluate.bound_of_import {below : Interpreter} {context : Context} {span : Span}
    {library binding : String} {store after : Store} {signal : Signal}
    (ran : statement below context (.node span (.importLibrary library binding)) store =
      .ok signal after) :
    ∃ value imported, below.importLibrary library span store = .ok value imported ∧
      (context.scope.inner.index < imported.frames.table.size →
        after.frames.get? context.scope binding = some value) := by
  obtain ⟨value, imported, loaded, ran⟩ := bind_eq_ok_iff.mp ran
  obtain ⟨_, _, declared, ⟨⟩⟩ := bind_eq_ok_iff.mp ran
  refine ⟨value, imported, loaded, fun present => ?_⟩
  have declared := Run.mapError_eq_ok_iff.mp declared
  rw [declare, Run.changeFrames_apply] at declared
  have entered : imported.frames.Declared context.scope binding value false _ :=
    Frames.declared_declare present value false
  rw [Frames.declare] at entered
  split at declared
  · next change planned =>
    cases declared
    rw [planned] at entered
    cases entered with
    | declared _ _ entry =>
      change List.findSome? (fun ref => ((imported.frames.commit change).get ref).get? binding)
        (context.scope.inner :: _) = _
      rw [List.findSome?_cons, Frame.get?_eq_entry, entry]
      rfl
  · cases declared

/-- The identifiers are the texts that are read as one word, and behind a dollar sign as one
variable.  An import without an alias binds the name of the library if it is such a text, and is
no program otherwise. -/
theorem identifiers_are_bare_words (name file : String) :
    (Grammar.isIdentifier name = true ↔ tokenKinds name file = .ok [.word name, .endOfFile]) ∧
    (∀ rules source, tokenKinds source file =
        .ok [.keyword .importWord, .string name, .symbol .semicolon, .endOfFile] →
      (tokenKinds name file = .ok [.word name, .endOfFile] →
        ∃ span, Program.ofTaggedSource rules source file =
          .ok { metadata := .empty, statements := [.node span (.importLibrary name name)] }) ∧
      (tokenKinds name file ≠ .ok [.word name, .endOfFile] →
        ∃ error, Program.ofTaggedSource rules source file = .error (.parse [error]))) ∧
    (∀ below context span store signal after,
      Evaluate.statement below context (.node span (.importLibrary name name)) store =
        .ok signal after →
      ∃ value imported, below.importLibrary name span store = .ok value imported ∧
        (context.scope.inner.index < imported.frames.table.size →
          after.frames.get? context.scope name = some value)) ∧
    (tokenKinds name file = .ok [.word name, .endOfFile] →
      tokenKinds ("$" ++ name) file = .ok [.variable name, .endOfFile]) := by
  have agrees : Grammar.isIdentifier name = true ↔
      tokenKinds name file = .ok [.word name, .endOfFile] :=
    ⟨fun identifier => (Grammar.tokenKinds_of_isIdentifier identifier file).1,
      Grammar.isIdentifier_of_tokenKinds⟩
  refine ⟨agrees, fun rules source spelled => ?_, fun _ _ _ _ _ _ => Evaluate.bound_of_import,
    fun bare => (Grammar.tokenKinds_of_isIdentifier (agrees.mpr bare) file).2⟩
  obtain ⟨tokens, scanned, kinds⟩ := Scan.map_eq_ok_iff.mp spelled
  simp only [List.map_eq_cons_iff, List.map_eq_nil_iff] at kinds
  obtain ⟨⟨_, word⟩, _, rfl, ⟨⟩, ⟨_, text⟩, _, rfl, ⟨⟩, ⟨_, stop⟩, _, rfl, ⟨⟩, ⟨_, last⟩, _, rfl,
    ⟨⟩, rfl⟩ := kinds
  rw [Program.ofTaggedSource, scanned]
  simp only [Grammar.programOfTokens_import]
  constructor
  · intro bare
    rw [if_pos (agrees.mpr bare)]
    exact ⟨_, rfl⟩
  · intro other
    rw [if_neg (mt agrees.mp other)]
    exact ⟨_, rfl⟩

/-- The name of a library that is a word, and one that is not. -/
theorem identifiers_are_bare_words_imports :
    (∃ span, Program.ofSource "import \"math\";" "f" =
      .ok { metadata := .empty, statements := [.node span (.importLibrary "math" "math")] }) ∧
      ∃ error, Program.ofSource "import \"no-name\";" "f" = .error (.parse [error]) := by
  have word := identifiers_are_bare_words "math" "f"
  have other := identifiers_are_bare_words "no-name" "f"
  refine ⟨(word.2.1 _ _ (by cbv)).1 (word.1.mp (by decide)), (other.2.1 _ _ (by cbv)).2 ?_⟩
  exact mt other.1.mpr (by decide)

end PatchScript
