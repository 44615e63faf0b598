import PatchScript.Proofs.Token.LineBreaks

/-!
# Quoted literals

A literal is one token of a source, and nothing else can start with a quote.  So every text has
a literal, in which only the double quote, the backslash and the line break are escaped.
-/

namespace PatchScript

/-! ## Tokens -/

/-- Before a quote nothing is skipped. -/
theorem Quote.skips_char (quote : Quote) (text : List Char) :
    Scan.Skips (quote.char :: text) [] (quote.char :: text) := by
  refine Scan.skips_nil ?_ ?_ text
  · cases quote <;> rfl
  · cases quote <;> decide

namespace QuotedItem

variable {quote : Quote}

/-- The token of a literal at the start of a source. -/
def token (file : String) (items : List (QuotedItem quote)) : Token where
  kind := quote.kind (decoded items)
  span :=
    { file := file, start := Position.start, stop := Position.start.after (literal items) }

/-- A source that starts with a literal is cut into its token and those of the rest. -/
theorem scan_literal_append (file : String) (items : List (QuotedItem quote)) (rest : List Char) :
    scan (String.ofList (literal items ++ rest)) file =
      (Scan.tokensFrom file (Position.start.after (literal items)) rest).map fun others =>
        token file items :: others := by
  have whole : literal items ++ rest =
      quote.char :: (items.flatMap text ++ [quote.char] ++ rest) := rfl
  have counted : 1 + (items.flatMap text).length + 1 =
      (items.flatMap text ++ [quote.char]).length + 1 := by
    rw [List.length_append, List.length_singleton, Nat.add_comm 1]
  have read : Scan.readToken quote.char (items.flatMap text ++ [quote.char] ++ rest) =
      .ok (quote.kind (decoded items), (items.flatMap text ++ [quote.char]).length + 1) := by
    rw [quote.readToken_char, ← List.append_cons, Scan.readQuoted_items, counted]
    rfl
  rw [scan, String.toList_ofList, whole,
    Scan.tokensFrom_token file Position.start (quote.skips_char _) read]
  rfl

/-- A source that starts with a quote starts with a literal if it can be cut at all. -/
theorem exists_literal {file : String} {text : List Char} {tokens : List Token}
    (scanned : scan (String.ofList (quote.char :: text)) file = .ok tokens) :
    ∃ (items : List (QuotedItem quote)) (rest : List Char),
      quote.char :: text = literal items ++ rest := by
  rw [scan, String.toList_ofList] at scanned
  cases read : Scan.readToken quote.char text with
  | error fault =>
    rw [Scan.tokensFrom_fault file _ (quote.skips_char text) read] at scanned
    cases scanned
  | ok token =>
    rw [quote.readToken_char] at read
    obtain ⟨_, quoted, -⟩ := Scan.map_eq_ok_iff.mp read
    obtain ⟨items, rest, rfl⟩ := Scan.exists_items quoted
    exact ⟨items, rest, by simp [literal]⟩

end QuotedItem

/-! ## Quoting a text -/

namespace Text

/-- A character between double quotes, escaped only if it must be. -/
def quotedChar (c : Char) : List Char :=
  if c = '"' then ['\\', '"']
  else if c = '\\' then ['\\', '\\']
  else if c = '\n' then ['\\', 'n']
  else [c]

/-- A text between double quotes. -/
def quoted (text : String) : List Char :=
  '"' :: (text.toList.flatMap quotedChar ++ ['"'])

theorem exists_item (c : Char) :
    ∃ item : QuotedItem .double, item.text = quotedChar c ∧ item.meaning = c := by
  rw [quotedChar]
  split
  next isQuote => exact ⟨.escaped (.simple .doubleQuote), rfl, isQuote.symm⟩
  next notQuote =>
    split
    next isBackslash => exact ⟨.escaped (.simple .backslash), rfl, isBackslash.symm⟩
    next notBackslash =>
      split
      next isBreak => exact ⟨.escaped (.simple .lineBreak), rfl, isBreak.symm⟩
      next inline => exact ⟨.raw c (by simp [Quote.char, notQuote, notBackslash, inline]), rfl, rfl⟩

/-- A text between double quotes is a literal that stands for the text. -/
theorem exists_items_quoted (text : String) :
    ∃ items : List (QuotedItem .double), QuotedItem.literal items = quoted text ∧
      QuotedItem.decoded items = text := by
  have each (chars : List Char) : ∃ items : List (QuotedItem .double),
      items.flatMap QuotedItem.text = chars.flatMap quotedChar ∧
        items.map QuotedItem.meaning = chars := by
    induction chars with
    | nil => exact ⟨[], rfl, rfl⟩
    | cons c chars ih =>
      obtain ⟨item, written, means⟩ := exists_item c
      obtain ⟨items, allWritten, allMean⟩ := ih
      refine ⟨item :: items, ?_, ?_⟩
      · rw [List.flatMap_cons, List.flatMap_cons, written, allWritten]
      · rw [List.map_cons, means, allMean]
  obtain ⟨items, written, means⟩ := each text.toList
  refine ⟨items, ?_, ?_⟩
  · rw [QuotedItem.literal, written]
    rfl
  · rw [QuotedItem.decoded, means, String.ofList_toList]

end Text

/-- A literal by itself is cut into its token, a string in double quotes and a word in single
ones, whose text is what the items of the literal stand for one by one.  A source that starts
with a quote and can be cut into tokens starts with a literal, and the first token is that of
the literal.  So every text, between double quotes and with these, backslashes and line breaks
escaped, is read back. -/
theorem quoted_literals_decoded (file : String) :
    (∀ (quote : Quote) (items : List (QuotedItem quote)),
      scan (String.ofList (QuotedItem.literal items)) file =
        .ok [QuotedItem.token file items, .atEnd file (QuotedItem.literal items)]) ∧
    (∀ (quote : Quote) (text : List Char) (tokens : List Token),
      scan (String.ofList (quote.char :: text)) file = .ok tokens →
      ∃ (items : List (QuotedItem quote)) (rest : List Char) (others : List Token),
        quote.char :: text = QuotedItem.literal items ++ rest ∧
          tokens = QuotedItem.token file items :: others) ∧
    ∀ text : String,
      scan (String.ofList (Text.quoted text)) file =
        .ok [{ kind := .string text
               span :=
                { file := file
                  start := Position.start
                  stop := Position.start.after (Text.quoted text) } },
          .atEnd file (Text.quoted text)] := by
  have alone (quote : Quote) (items : List (QuotedItem quote)) :
      scan (String.ofList (QuotedItem.literal items)) file =
        .ok [QuotedItem.token file items, .atEnd file (QuotedItem.literal items)] := by
    have cut := QuotedItem.scan_literal_append file items []
    rw [List.append_nil, Scan.tokensFrom_end file _ Scan.skips_end] at cut
    exact cut
  refine ⟨alone, fun quote text tokens scanned => ?_, fun text => ?_⟩
  · obtain ⟨items, rest, same⟩ := QuotedItem.exists_literal scanned
    rw [same, QuotedItem.scan_literal_append] at scanned
    obtain ⟨others, -, rfl⟩ := Scan.map_eq_ok_iff.mp scanned
    exact ⟨items, rest, others, same, rfl⟩
  · obtain ⟨items, written, means⟩ := Text.exists_items_quoted text
    have cut := alone .double items
    rw [QuotedItem.token, written, means] at cut
    exact cut

/-- A keyword between single quotes, with two escapes and the other quote, before a sum. -/
theorem quoted_literals_decoded_keyword :
    ∃ tokens, scan "'\\u0069\\x66\"' + x" "f" = .ok tokens ∧ tokens.length = 4 ∧
      ∃ (items : List (QuotedItem .single)) (rest : List Char) (others : List Token),
        "'\\u0069\\x66\"' + x".toList = QuotedItem.literal items ++ rest ∧
          tokens = QuotedItem.token "f" items :: others := by
  have source : "'\\u0069\\x66\"' + x" =
      String.ofList (Quote.single.char :: "\\u0069\\x66\"' + x".toList) := by decide
  have counted : (scan "'\\u0069\\x66\"' + x" "f").map List.length = .ok 4 := by cbv
  obtain ⟨tokens, scanned, size⟩ := Scan.map_eq_ok_iff.mp counted
  refine ⟨tokens, scanned, size, ?_⟩
  rw [source] at scanned ⊢
  rw [String.toList_ofList]
  exact (quoted_literals_decoded "f").2.1 .single _ tokens scanned

end PatchScript
