import PatchScript.Proofs.Token.LongestMatch
import PatchScript.Proofs.Token.QuotedItems

/-!
# Lexemes

A token that is read takes up a part of the text, its lexeme.  The lexeme is not empty, has
no line break in it, and read by itself gives the same token: whatever follows a lexeme is
at most looked at to see where it ends.
-/

namespace PatchScript
namespace Scan

variable {text rest : List Char} {length : Nat}

/-! ## Names and numbers -/

section Taken

variable (accepts : Char → Bool) (text : List Char)

theorem takeWhile_takeWhile : (text.takeWhile accepts).takeWhile accepts = text.takeWhile accepts :=
  List.takeWhile_eq_self_iff.mpr fun _ member => List.mem_takeWhile_imp member

theorem newline_not_mem_takeWhile (refuses : accepts '\n' = false) :
    '\n' ∉ text.takeWhile accepts := by
  intro member
  have accepted := List.mem_takeWhile_imp member
  rw [refuses] at accepted
  cases accepted

theorem drop_length_takeWhile :
    text.drop (text.takeWhile accepts).length = text.dropWhile accepts := by
  have dropped := congrArg (List.drop (text.takeWhile accepts).length)
    (List.takeWhile_append_dropWhile (p := accepts) (l := text))
  rw [List.drop_left] at dropped
  exact dropped.symm

end Taken

/-- A number without a fraction. -/
theorem readNumber_whole
    (ends : ∀ rest, text.dropWhile Char.isDigit = '.' :: rest → rest.takeWhile Char.isDigit = []) :
    readNumber text =
      (.number (Decimal.ofDecimalDigits (text.takeWhile Char.isDigit) []),
        (text.takeWhile Char.isDigit).length) := by
  rw [readNumber, drop_length_takeWhile]
  dsimp only
  split
  next rest point =>
    rw [ends rest point]
    rfl
  next => rfl

/-- A number with a fraction. -/
theorem readNumber_fraction (point : text.dropWhile Char.isDigit = '.' :: rest)
    (nonempty : rest.takeWhile Char.isDigit ≠ []) :
    readNumber text =
      (.number (Decimal.ofDecimalDigits (text.takeWhile Char.isDigit)
          (rest.takeWhile Char.isDigit)),
        (text.takeWhile Char.isDigit).length + 1 + (rest.takeWhile Char.isDigit).length) := by
  rw [readNumber, drop_length_takeWhile, point]
  exact if_neg (mt List.isEmpty_iff.mp nonempty)

/-- A number is read from its digits and its point alone. -/
theorem readNumber_eq {kind : TokenKind} (found : readNumber text = (kind, length)) :
    ∃ used after, text = used ++ after ∧ length = used.length ∧ '\n' ∉ used ∧
      text.takeWhile Char.isDigit <+: used ∧ readNumber used = (kind, length) := by
  have split := List.takeWhile_append_dropWhile (p := Char.isDigit) (l := text)
  have inline := newline_not_mem_takeWhile Char.isDigit text rfl
  have digits (c : Char) (member : c ∈ text.takeWhile Char.isDigit) : c.isDigit = true :=
    List.mem_takeWhile_imp member
  by_cases fraction : ∃ rest, text.dropWhile Char.isDigit = '.' :: rest ∧
      rest.takeWhile Char.isDigit ≠ []
  · obtain ⟨rest, point, nonempty⟩ := fraction
    rw [readNumber_fraction point nonempty] at found
    cases found
    have tail := List.takeWhile_append_dropWhile (p := Char.isDigit) (l := rest)
    generalize text.takeWhile Char.isDigit = whole at split inline digits ⊢
    have decimals := takeWhile_takeWhile Char.isDigit rest
    have inlineDecimals := newline_not_mem_takeWhile Char.isDigit rest rfl
    generalize rest.takeWhile Char.isDigit = decimal at nonempty tail decimals inlineDecimals ⊢
    have taken : (whole ++ '.' :: decimal).takeWhile Char.isDigit = whole := by
      rw [List.takeWhile_append_of_pos digits]
      exact List.append_nil whole
    have dropped : (whole ++ '.' :: decimal).dropWhile Char.isDigit = '.' :: decimal := by
      rw [List.dropWhile_append_of_pos digits]
      rfl
    refine ⟨whole ++ '.' :: decimal, rest.dropWhile Char.isDigit, ?_, ?_, ?_,
      List.prefix_append _ _, ?_⟩
    · rw [List.append_assoc, List.cons_append, tail, ← point, split]
    · rw [List.length_append, List.length_cons, Nat.add_assoc, Nat.add_comm 1]
    · rw [List.mem_append, List.mem_cons]
      rintro (inWhole | isPoint | inFraction)
      · exact inline inWhole
      · cases isPoint
      · exact inlineDecimals inFraction
    · rw [readNumber_fraction dropped (decimals.symm ▸ nonempty), taken, decimals]
  · have ends (rest : List Char) (point : text.dropWhile Char.isDigit = '.' :: rest) :
        rest.takeWhile Char.isDigit = [] :=
      Classical.byContradiction fun nonempty => fraction ⟨rest, point, nonempty⟩
    rw [readNumber_whole ends] at found
    cases found
    refine ⟨_, _, split.symm, rfl, inline, List.prefix_rfl, ?_⟩
    have dropped : (text.takeWhile Char.isDigit).dropWhile Char.isDigit = [] :=
      List.dropWhile_eq_nil_iff.mpr digits
    rw [readNumber_whole (by rw [dropped]; nofun), takeWhile_takeWhile]

/-! ## Tokens -/

theorem newline_not_mem_symbol {symbol : Symbol} (member : (text, symbol) ∈ Symbol.table) :
    '\n' ∉ text := by
  have inline : ∀ entry ∈ Symbol.table, '\n' ∉ entry.1 := by decide
  exact inline _ member

/-- A token is read from its lexeme alone: the text that it takes up. -/
structure Lexeme (c : Char) (rest : List Char) (kind : TokenKind) (used : List Char) : Prop where
  head : used <+: rest
  inline : '\n' ∉ c :: used
  alone : readToken c used = .ok (kind, used.length + 1)

section Tokens

variable {c : Char} {kind : TokenKind}

theorem lexeme_quoted (quote : Quote) (found : readToken quote.char rest = .ok (kind, length)) :
    ∃ used, length = used.length + 1 ∧ Lexeme quote.char rest kind used := by
  rw [quote.readToken_char] at found
  obtain ⟨_, quoted, ⟨⟩⟩ := map_eq_ok_iff.mp found
  obtain ⟨items, after, rfl⟩ := exists_items quoted
  rw [readQuoted_items] at quoted
  cases quoted
  refine ⟨items.flatMap QuotedItem.text ++ [quote.char], ?_, ⟨after, by simp⟩, ?_, ?_⟩
  · simp [Nat.add_comm]
  · have opens : '\n' ≠ quote.char := by cases quote <;> decide
    rw [List.mem_cons, List.mem_append, List.mem_singleton, not_or, not_or]
    exact ⟨opens, newline_not_mem_items items, opens⟩
  · rw [quote.readToken_char, readQuoted_items]
    simp [Except.map, Nat.add_comm]

theorem isNamePart_of_isNameStart (starts : isNameStart c = true) : isNamePart c = true := by
  rw [isNameStart, Bool.or_eq_true] at starts
  rw [isNamePart, Bool.or_eq_true, Char.isAlphanum, Bool.or_eq_true]
  exact starts.imp_left .inl

theorem nameOf_cons (starts : isNameStart c = true) (text : List Char) :
    nameOf (c :: text) = c :: nameOf text := by
  rw [nameOf, List.takeWhile_cons, isNamePart_of_isNameStart starts]
  rfl

theorem nameOf_nameOf (text : List Char) : nameOf (nameOf text) = nameOf text :=
  takeWhile_takeWhile isNamePart text

theorem lexeme_variable (found : readToken '$' rest = .ok (kind, length)) :
    ∃ used, length = used.length + 1 ∧ Lexeme '$' rest kind used := by
  cases rest with
  | nil => cases found
  | cons first more =>
    have read (text : List Char) : readToken '$' (first :: text) =
        if isNameStart first then
          .ok (.variable (String.ofList (nameOf (first :: text))),
            (nameOf (first :: text)).length + 1)
        else .error { message := "Expected a variable name after '$'", offset := 1 } := rfl
    rw [read] at found
    split at found <;> cases found
    next starts =>
      refine ⟨nameOf (first :: more), rfl, List.takeWhile_prefix _, ?_, ?_⟩
      · rw [List.mem_cons, not_or]
        exact ⟨by decide, newline_not_mem_takeWhile isNamePart _ rfl⟩
      · rw [nameOf_cons starts, read, if_pos starts, ← nameOf_cons starts, nameOf_nameOf]

theorem lexeme_number (isDigit : c.isDigit = true)
    (read : ∀ text, readToken c text = .ok (readNumber (c :: text)))
    (found : readToken c rest = .ok (kind, length)) :
    ∃ used, length = used.length + 1 ∧ Lexeme c rest kind used := by
  rw [read] at found
  obtain ⟨used, after, same, rfl, inline, ⟨decimals, digits⟩, alone⟩ :=
    readNumber_eq (Except.ok.inj found)
  rw [List.takeWhile_cons, isDigit] at digits
  cases digits
  refine ⟨_, rfl, ⟨after, (List.cons.inj same).2.symm⟩, inline, ?_⟩
  exact (read _).trans (congrArg _ alone)

section

variable (starts : isNameStart c = true)
include starts

theorem ne_of_isNameStart {excluded : Char} (refused : isNameStart excluded = false) :
    c ≠ excluded := by
  rintro rfl
  exact Bool.false_ne_true (refused.symm.trans starts)

theorem not_isDigit_of_isNameStart : c.isDigit = false := by
  simp only [isNameStart, Char.isAlpha, Char.isUpper, Char.isLower, Bool.or_eq_true,
    decide_eq_true_eq, beq_iff_eq, Char.isDigit, UInt32.le_iff_toNat_le] at starts ⊢
  obtain starts | rfl := starts
  · grind
  · rfl

theorem readToken_of_isNameStart (rest : List Char) :
    readToken c rest =
      .ok (wordKind (String.ofList (nameOf (c :: rest))), (nameOf (c :: rest)).length) := by
  have other {excluded : Char} : isNameStart excluded = false → c ≠ excluded :=
    ne_of_isNameStart starts
  rw [readToken.eq_def, if_neg (other rfl), if_neg (other rfl), if_neg (other rfl),
    not_isDigit_of_isNameStart starts]
  exact if_pos starts

theorem lexeme_word (found : readToken c rest = .ok (kind, length)) :
    ∃ used, length = used.length + 1 ∧ Lexeme c rest kind used := by
  rw [readToken_of_isNameStart starts] at found
  cases found
  refine ⟨nameOf rest, by rw [nameOf_cons starts, List.length_cons], List.takeWhile_prefix _, ?_, ?_⟩
  · rw [← nameOf_cons starts]
    exact newline_not_mem_takeWhile isNamePart _ rfl
  · rw [readToken_of_isNameStart starts, ← nameOf_cons starts, nameOf_nameOf, nameOf_cons starts,
      List.length_cons]

end

theorem lexeme_symbol
    (read : ∀ text, readToken c text =
      match Symbol.trie.longestMatch (c :: text) with
      | some (symbol, length) => .ok (.symbol symbol, length)
      | none => .error (unexpected c))
    (found : readToken c rest = .ok (kind, length)) :
    ∃ used, length = used.length + 1 ∧ Lexeme c rest kind used := by
  rw [read] at found
  split at found <;> cases found
  next symbol longest =>
    obtain ⟨used, after, same, nonempty, rfl, member, again⟩ := Trie.longestMatch_eq_some longest
    obtain ⟨first, used, rfl⟩ := List.exists_cons_of_ne_nil nonempty
    cases same
    refine ⟨used, rfl, List.prefix_append _ _, newline_not_mem_symbol member, ?_⟩
    rw [read, Symbol.trie, again]
    rfl

/-- Every token that is read has a lexeme. -/
theorem exists_lexeme (found : readToken c rest = .ok (kind, length)) :
    ∃ used, length = used.length + 1 ∧ Lexeme c rest kind used := by
  by_cases doubled : c = '"'
  · subst doubled
    exact lexeme_quoted .double found
  by_cases single : c = '\''
  · subst single
    exact lexeme_quoted .single found
  by_cases dollar : c = '$'
  · subst dollar
    exact lexeme_variable found
  by_cases digit : c.isDigit = true
  · refine lexeme_number digit (fun text => ?_) found
    rw [readToken.eq_def, if_neg doubled, if_neg single, if_neg dollar, if_pos digit]
  by_cases starts : isNameStart c = true
  · exact lexeme_word starts found
  · refine lexeme_symbol (fun text => ?_) found
    rw [readToken.eq_def, if_neg doubled, if_neg single, if_neg dollar, if_neg digit]
    exact if_neg starts

end Tokens

end Scan
end PatchScript
