import Mathlib
import PatchScript.Token.Scan

/-!
# Items of literals

A quoted literal is a sequence of items between two quotes.  An item is a character that stands
for itself, or an escape: a backslash with a letter, or with `x` or `u` and hexadecimal digits.
A literal is read as the characters that its items stand for, and nothing else that starts with
a quote is read at all.
-/

namespace PatchScript

/-- A hexadecimal digit, as it is written. -/
structure HexDigit where
  /-- What it counts. -/
  value : Fin 16
  /-- Whether it is written as a capital, if it is a letter. -/
  isCapital : Bool

namespace HexDigit

/-- The character that a digit is written as. -/
def char (digit : HexDigit) : Char :=
  let digits := if digit.isCapital then "0123456789ABCDEF" else "0123456789abcdef"
  digits.toList.getD digit.value '0'

/-- The number that digits spell after those of another number. -/
def after (number : Nat) (digits : List HexDigit) : Nat :=
  digits.foldl (fun number digit => number * 16 + digit.value) number

/-- The number that digits spell. -/
def number (digits : List HexDigit) : Nat :=
  after 0 digits

end HexDigit

/-- The letters that make an escape by themselves. -/
inductive EscapeLetter where
  | lineBreak | carriageReturn | tab | backspace | nul | doubleQuote | singleQuote | backslash

namespace EscapeLetter

/-- How a letter is written. -/
def char : EscapeLetter → Char
  | .lineBreak => 'n'
  | .carriageReturn => 'r'
  | .tab => 't'
  | .backspace => 'b'
  | .nul => '0'
  | .doubleQuote => '"'
  | .singleQuote => '\''
  | .backslash => '\\'

/-- What a letter stands for after a backslash. -/
def meaning : EscapeLetter → Char
  | .lineBreak => '\n'
  | .carriageReturn => '\r'
  | .tab => '\t'
  | .backspace => '\x08'
  | .nul => '\x00'
  | .doubleQuote => '"'
  | .singleQuote => '\''
  | .backslash => '\\'

end EscapeLetter

/-- What can follow a backslash. -/
inductive Escape where
  | simple (letter : EscapeLetter)
  /-- `x` and two digits. -/
  | byte (high low : HexDigit)
  /-- `u` and four digits, which do not spell a surrogate. -/
  | codePoint (first second third fourth : HexDigit)
    (scalar : ¬ (0xD800 ≤ HexDigit.number [first, second, third, fourth] ∧
      HexDigit.number [first, second, third, fourth] ≤ 0xDFFF))

namespace Escape

/-- The first character after the backslash. -/
def char : Escape → Char
  | .simple letter => letter.char
  | .byte _ _ => 'x'
  | .codePoint _ _ _ _ _ => 'u'

/-- The digits after that. -/
def digits : Escape → List HexDigit
  | .simple _ => []
  | .byte high low => [high, low]
  | .codePoint first second third fourth _ => [first, second, third, fourth]

/-- The character that an escape stands for. -/
def meaning : Escape → Char
  | .simple letter => letter.meaning
  | escape => Char.ofNat (HexDigit.number escape.digits)

end Escape

/-- The quotes that a literal can stand in. -/
inductive Quote where
  | double | single

namespace Quote

/-- The character that opens and closes a literal. -/
def char : Quote → Char
  | .double => '"'
  | .single => '\''

/-- The token of a literal: a string, or a word even if it is the text of a keyword. -/
def kind (quote : Quote) (text : String) : TokenKind :=
  match quote with
  | .double => .string text
  | .single => .word text

end Quote

/-- What a literal in quotes is made of. -/
inductive QuotedItem (quote : Quote) where
  /-- A character that stands for itself. -/
  | raw (c : Char) (plain : c ∉ [quote.char, '\\', '\n'])
  | escaped (escape : Escape)

namespace QuotedItem

variable {quote : Quote}

/-- How an item is written. -/
def text : QuotedItem quote → List Char
  | .raw c _ => [c]
  | .escaped escape => '\\' :: escape.char :: escape.digits.map HexDigit.char

/-- The character that an item stands for. -/
def meaning : QuotedItem quote → Char
  | .raw c _ => c
  | .escaped escape => escape.meaning

/-- A literal as it is written. -/
def literal (items : List (QuotedItem quote)) : List Char :=
  quote.char :: (items.flatMap text ++ [quote.char])

/-- The text that a literal stands for. -/
def decoded (items : List (QuotedItem quote)) : String :=
  String.ofList (items.map meaning)

end QuotedItem

/-! ## Digits -/

namespace HexDigit

theorem hexValue?_char (digit : HexDigit) : Text.hexValue? digit.char = some digit.value := by
  obtain ⟨value, isCapital⟩ := digit
  revert value isCapital
  decide

/-- Digits are ASCII characters, so that there are few to look at. -/
theorem lt_of_hexValue? {c : Char} {value : Nat} (found : Text.hexValue? c = some value) :
    c.toNat < 128 := by
  have bounds : (48 ≤ c.toNat ∧ c.toNat ≤ 57) ∨ (97 ≤ c.toNat ∧ c.toNat ≤ 102) ∨
      (65 ≤ c.toNat ∧ c.toNat ≤ 70) := by
    rw [Text.hexValue?] at found
    split at found
    next isDigit =>
      simp only [Char.isDigit, Bool.and_eq_true, decide_eq_true_eq, UInt32.le_iff_toNat_le] at isDigit
      exact .inl isDigit
    next =>
      split at found
      next isSmall => exact .inr (.inl isSmall)
      next =>
        split at found
        next isCapital => exact .inr (.inr isCapital)
        next => cases found
  omega

theorem exists_of_hexValue? {c : Char} {value : Nat} (found : Text.hexValue? c = some value) :
    ∃ digit : HexDigit, digit.char = c ∧ digit.value = value := by
  have written : ∀ code < 128, ∀ number ∈ Text.hexValue? (Char.ofNat code),
      ∃ value isCapital, (HexDigit.mk value isCapital).char = Char.ofNat code ∧ value = number := by
    decide
  have small := lt_of_hexValue? found
  rw [← Char.ofNat_toNat c] at found
  obtain ⟨digit, isCapital, same, counts⟩ := written c.toNat small value found
  rw [Char.ofNat_toNat] at same
  exact ⟨⟨digit, isCapital⟩, same, counts⟩

theorem after_lt (number : Nat) (digits : List HexDigit) :
    after number digits < (number + 1) * 16 ^ digits.length := by
  induction digits generalizing number with
  | nil => simp [after]
  | cons digit digits ih =>
    have small := digit.value.isLt
    calc after number (digit :: digits) = after (number * 16 + digit.value) digits := rfl
      _ < (number * 16 + digit.value + 1) * 16 ^ digits.length := ih _
      _ ≤ ((number + 1) * 16) * 16 ^ digits.length := Nat.mul_le_mul_right _ (by omega)
      _ = (number + 1) * 16 ^ (digit :: digits).length := by
        rw [List.length_cons, Nat.pow_succ', Nat.mul_assoc]

/-- Two digits spell a character. -/
theorem isValidChar_byte (high low : HexDigit) : (number [high, low]).isValidChar := by
  have small : number [high, low] < (0 + 1) * 16 ^ 2 := after_lt 0 [high, low]
  exact .inl (by omega)

/-- Four digits spell a character unless they spell a surrogate. -/
theorem isValidChar_iff (first second third fourth : HexDigit) :
    (number [first, second, third, fourth]).isValidChar ↔
      ¬ (0xD800 ≤ number [first, second, third, fourth] ∧
        number [first, second, third, fourth] ≤ 0xDFFF) := by
  have small : number [first, second, third, fourth] < (0 + 1) * 16 ^ 4 :=
    after_lt 0 [first, second, third, fourth]
  rw [Nat.isValidChar]
  omega

end HexDigit

namespace Scan

theorem map_eq_ok_iff {ε α β : Type} {f : α → β} {first : Except ε α} {result : β} :
    first.map f = .ok result ↔ ∃ value, first = .ok value ∧ f value = result := by
  cases first <;> simp [Except.map]

theorem hexNumber?_digits (code : Nat) (digits : List HexDigit) (rest : List Char) :
    hexNumber? code digits.length (digits.map HexDigit.char ++ rest) =
      some (HexDigit.after code digits) := by
  induction digits generalizing code with
  | nil => rw [List.length_nil, hexNumber?, HexDigit.after, List.foldl_nil]
  | cons digit digits ih =>
    rw [List.map_cons, List.cons_append, List.length_cons, hexNumber?, digit.hexValue?_char]
    exact ih _

theorem exists_digits {code count value : Nat} {text : List Char}
    (found : hexNumber? code count text = some value) :
    ∃ digits rest, text = digits.map HexDigit.char ++ rest ∧ digits.length = count ∧
      HexDigit.after code digits = value := by
  fun_induction hexNumber? code count text with
  | case1 code text => exact ⟨[], text, rfl, rfl, Option.some.inj found⟩
  | case2 => cases found
  | case3 => cases found
  | case4 code count c text number read ih =>
    obtain ⟨digit, rfl, rfl⟩ := HexDigit.exists_of_hexValue? read
    obtain ⟨digits, rest, rfl, rfl, rfl⟩ := ih found
    exact ⟨digit :: digits, rest, rfl, rfl, rfl⟩

theorem readHexEscape_digits {digits : List HexDigit} (valid : (HexDigit.number digits).isValidChar)
    (rest : List Char) :
    readHexEscape digits.length (digits.map HexDigit.char ++ rest) =
      .ok (Char.ofNat (HexDigit.number digits), digits.length) := by
  rw [readHexEscape, hexNumber?_digits]
  exact if_pos valid

theorem exists_digits_of_readHexEscape {count length : Nat} {text : List Char} {meant : Char}
    (found : ((readHexEscape count text).map fun found => (found.1, found.2 + 1)) =
      .ok (meant, length)) :
    ∃ digits rest, text = digits.map HexDigit.char ++ rest ∧ digits.length = count ∧
      length = digits.length + 1 ∧ (HexDigit.number digits).isValidChar ∧
      Char.ofNat (HexDigit.number digits) = meant := by
  obtain ⟨_, read, ⟨⟩⟩ := map_eq_ok_iff.mp found
  unfold readHexEscape at read
  split at read
  · cases read
  · next number =>
    obtain ⟨digits, rest, rfl, rfl, rfl⟩ := exists_digits number
    split at read <;> cases read
    next valid => exact ⟨digits, rest, rfl, rfl, rfl, valid, rfl⟩

/-! ## Escapes -/

/-- An escape is read as what it stands for, whatever follows. -/
theorem readEscape_escape (escape : Escape) (rest : List Char) :
    readEscape escape.char (escape.digits.map HexDigit.char ++ rest) =
      .ok (escape.meaning, escape.digits.length + 1) := by
  cases escape with
  | simple letter => cases letter <;> rfl
  | byte high low =>
    have read := readHexEscape_digits (HexDigit.isValidChar_byte high low) rest
    exact congrArg (Except.map fun found => (found.1, found.2 + 1)) read
  | codePoint first second third fourth scalar =>
    have valid := (HexDigit.isValidChar_iff first second third fourth).mpr scalar
    have read := readHexEscape_digits valid rest
    exact congrArg (Except.map fun found => (found.1, found.2 + 1)) read

theorem exists_escapeLetter {c meant : Char} (found : escapedChar? c = some meant) :
    ∃ letter : EscapeLetter, letter.char = c ∧ letter.meaning = meant := by
  unfold escapedChar? at found
  split at found <;> cases found
  exacts [⟨.lineBreak, rfl, rfl⟩, ⟨.carriageReturn, rfl, rfl⟩, ⟨.tab, rfl, rfl⟩,
    ⟨.backspace, rfl, rfl⟩, ⟨.nul, rfl, rfl⟩, ⟨.doubleQuote, rfl, rfl⟩, ⟨.singleQuote, rfl, rfl⟩,
    ⟨.backslash, rfl, rfl⟩]

/-- Nothing but an escape can follow a backslash. -/
theorem exists_escape {c meant : Char} {text : List Char} {length : Nat}
    (found : readEscape c text = .ok (meant, length)) :
    ∃ (escape : Escape) (rest : List Char), escape.char = c ∧
      text = escape.digits.map HexDigit.char ++ rest ∧ length = escape.digits.length + 1 ∧
      escape.meaning = meant := by
  cases simple : escapedChar? c with
  | some _ =>
    simp only [readEscape, simple] at found
    cases found
    obtain ⟨letter, rfl, rfl⟩ := exists_escapeLetter simple
    exact ⟨.simple letter, text, rfl, rfl, rfl, rfl⟩
  | none =>
    simp only [readEscape, simple] at found
    split at found
    next isX =>
      obtain ⟨digits, rest, rfl, two, rfl, -, rfl⟩ := exists_digits_of_readHexEscape found
      obtain ⟨high, low, rfl⟩ := List.length_eq_two.mp two
      exact ⟨.byte high low, rest, isX.symm, rfl, rfl, rfl⟩
    next =>
      split at found
      next isU =>
        obtain ⟨digits, rest, rfl, four, rfl, valid, rfl⟩ := exists_digits_of_readHexEscape found
        cases digits with
        | nil => cases four
        | cons first digits =>
          obtain ⟨second, third, fourth, rfl⟩ := List.length_eq_three.mp (Nat.succ.inj four)
          have scalar := (HexDigit.isValidChar_iff first second third fourth).mp valid
          exact ⟨.codePoint first second third fourth scalar, rest, isU.symm, rfl, rfl, rfl⟩
      next => cases found

/-! ## Literals -/

variable {quote : Char}

theorem readQuoted_close (quote : Char) (offset : Nat) (decoded rest : List Char) :
    readQuoted quote offset 0 decoded (quote :: rest) = .ok (decoded.reverse, offset + 1) := by
  rw [readQuoted.eq_def]
  exact if_pos rfl

theorem readQuoted_newline (opened : '\n' ≠ quote) (offset : Nat) (decoded rest : List Char) :
    ∃ fault, readQuoted quote offset 0 decoded ('\n' :: rest) = .error fault := by
  rw [readQuoted.eq_def]
  exact ⟨_, (if_neg opened).trans (if_pos rfl)⟩

theorem readQuoted_escape (opened : '\\' ≠ quote) (offset : Nat) (decoded : List Char)
    (letter : Char) (more : List Char) :
    readQuoted quote offset 0 decoded ('\\' :: letter :: more) =
      match readEscape letter more with
      | .error message => .error { message := message, offset := offset }
      | .ok (meant, length) =>
        readQuoted quote (offset + 1) length (meant :: decoded) (letter :: more) := by
  rw [readQuoted.eq_def]
  exact (if_neg opened).trans ((if_neg (by decide)).trans (if_pos rfl))

theorem readQuoted_plain {c : Char} (opened : c ≠ quote) (inline : c ≠ '\n') (plain : c ≠ '\\')
    (offset : Nat) (decoded rest : List Char) :
    readQuoted quote offset 0 decoded (c :: rest) =
      readQuoted quote (offset + 1) 0 (c :: decoded) rest := by
  rw [readQuoted.eq_def]
  exact (if_neg opened).trans ((if_neg inline).trans (if_neg plain))

/-- What an escape has used up is passed over. -/
theorem readQuoted_skip (quote : Char) (offset : Nat) (decoded used rest : List Char) :
    readQuoted quote offset used.length decoded (used ++ rest) =
      readQuoted quote (offset + used.length) 0 decoded rest := by
  induction used generalizing offset with
  | nil => rfl
  | cons c used ih =>
    rw [List.cons_append, List.length_cons, readQuoted, ih, Nat.add_right_comm, Nat.add_assoc]

section Items

variable {quote : Quote} (offset : Nat) (decoded rest : List Char) (items : List (QuotedItem quote))

/-- An item of a literal is read as what it stands for. -/
theorem readQuoted_item (item : QuotedItem quote) :
    readQuoted quote.char offset 0 decoded (item.text ++ rest) =
      readQuoted quote.char (offset + item.text.length) 0 (item.meaning :: decoded) rest := by
  cases item with
  | raw c plain =>
    simp only [List.mem_cons, List.not_mem_nil, or_false, not_or] at plain
    exact readQuoted_plain plain.1 plain.2.2 plain.2.1 offset decoded rest
  | escaped escape =>
    have opened : '\\' ≠ quote.char := by cases quote <;> decide
    have skipped := readQuoted_skip quote.char (offset + 1) (escape.meaning :: decoded)
      (escape.char :: escape.digits.map HexDigit.char) rest
    rw [List.length_cons, List.length_map, List.cons_append] at skipped
    simp only [QuotedItem.text, QuotedItem.meaning, List.cons_append, List.length_cons,
      List.length_map]
    rw [readQuoted_escape opened, readEscape_escape]
    dsimp only
    rw [skipped, Nat.add_assoc, Nat.add_comm 1]

/-- A literal is read item by item, up to the closing quote. -/
theorem readQuoted_items :
    readQuoted quote.char offset 0 decoded (items.flatMap QuotedItem.text ++ quote.char :: rest) =
      .ok (decoded.reverse ++ items.map QuotedItem.meaning,
        offset + (items.flatMap QuotedItem.text).length + 1) := by
  induction items generalizing offset decoded with
  | nil => simpa using readQuoted_close quote.char offset decoded rest
  | cons item items ih =>
    rw [List.flatMap_cons, List.append_assoc, readQuoted_item, ih]
    simp [Nat.add_assoc]

variable {offset decoded rest}

/-- Whatever is read after an opening quote is a literal. -/
theorem exists_items {text result : List Char} {total : Nat}
    (found : readQuoted quote.char offset 0 decoded text = .ok (result, total)) :
    ∃ (items : List (QuotedItem quote)) (rest : List Char),
      text = items.flatMap QuotedItem.text ++ quote.char :: rest := by
  -- An escape is passed over in one go, so the induction is on the length.
  induction size : text.length using Nat.strongRecOn generalizing offset decoded text with
  | ind size ih =>
    subst size
    -- The first item is read, and the rest is shorter.
    have next (item : QuotedItem quote) (more : List Char) (same : text = item.text ++ more)
        (nonempty : item.text ≠ []) :
        ∃ (items : List (QuotedItem quote)) (rest : List Char),
          text = items.flatMap QuotedItem.text ++ quote.char :: rest := by
      subst same
      rw [readQuoted_item] at found
      have shorter : more.length < (item.text ++ more).length := by
        have positive := List.length_pos_iff.mpr nonempty
        rw [List.length_append]
        omega
      obtain ⟨items, rest, rfl⟩ := ih more.length shorter found rfl
      exact ⟨item :: items, rest, by rw [List.flatMap_cons, List.append_assoc]⟩
    cases text with
    | nil => cases found
    | cons c text =>
      by_cases closes : c = quote.char
      · exact ⟨[], text, by rw [closes]; rfl⟩
      by_cases breaks : c = '\n'
      · subst breaks
        obtain ⟨fault, failed⟩ := readQuoted_newline closes offset decoded text
        rw [failed] at found
        cases found
      by_cases escapes : c = '\\'
      · subst escapes
        cases text with
        | nil =>
          rw [readQuoted.eq_def] at found
          simp only [if_neg closes, if_neg breaks] at found
          cases found
        | cons letter more =>
          have read := found
          rw [readQuoted_escape closes] at read
          cases spelled : readEscape letter more with
          | error message =>
            rw [spelled] at read
            cases read
          | ok pair =>
            obtain ⟨meant, length⟩ := pair
            obtain ⟨escape, rest, rfl, rfl, -, -⟩ := exists_escape spelled
            exact next (.escaped escape) rest rfl (List.cons_ne_nil _ _)
      · exact next (.raw c (by simp [closes, breaks, escapes])) text rfl (List.cons_ne_nil _ _)

/-- A literal is closed before its line ends. -/
theorem newline_not_mem_items : '\n' ∉ items.flatMap QuotedItem.text := by
  rw [List.mem_flatMap]
  rintro ⟨item, -, member⟩
  cases item with
  | raw c plain => exact plain (by rw [← List.mem_singleton.mp member]; simp)
  | escaped escape =>
    obtain isBreak | member := List.mem_cons.mp member
    · cases isBreak
    obtain isBreak | member := List.mem_cons.mp member
    · cases escape with
      | simple letter => cases letter <;> cases isBreak
      | _ => cases isBreak
    · obtain ⟨digit, -, isBreak⟩ := List.mem_map.mp member
      exact nomatch isBreak ▸ digit.hexValue?_char

end Items

end Scan

theorem Quote.readToken_char (quote : Quote) (text : List Char) :
    Scan.readToken quote.char text =
      (Scan.readQuoted quote.char 1 0 [] text).map fun found =>
        (quote.kind (String.ofList found.1), found.2) := by
  cases quote <;> rfl


end PatchScript
