import PatchScript.Json.Reader
import PatchScript.Proofs.InsertionOrder
import Mathlib.Data.String.Basic

/-!
# The size of documents that are read

Everything that is read takes up room in the text it is read from: a string at least as many
bytes as it has, and an array at least as many as it has items.
-/

namespace PatchScript
namespace Json

open String (utf8Len)

variable {text rest : List Char} {readItem : List Char → Option (Json × List Char)}
variable {limit bound : Nat}

/-- The strings and names of a document have at most a number of bytes, and its arrays at
most as many items. -/
inductive Sized (limit : Nat) : Json → Prop where
  | null : Sized limit .null
  | bool (value : Bool) : Sized limit (.bool value)
  | number (value : JsonNumber) : Sized limit (.number value)
  | string {text : String} : text.utf8ByteSize ≤ limit → Sized limit (.string text)
  | array {items : List Json} :
    items.length ≤ limit → (∀ item ∈ items, Sized limit item) → Sized limit (.array items)
  | object {members : List (String × Json)} :
    (∀ member ∈ members, member.1.utf8ByteSize ≤ limit) →
    (∀ member ∈ members, Sized limit member.2) → Sized limit (.object members)

theorem Sized.mono {larger : Nat} {json : Json} (sized : Sized limit json)
    (grows : limit ≤ larger) : Sized larger json := by
  induction sized with
  | null => exact .null
  | bool value => exact .bool value
  | number value => exact .number value
  | string fits => exact .string (fits.trans grows)
  | array fits _ ih => exact .array (fits.trans grows) ih
  | object fits _ ih => exact .object (fun member isMember => (fits member isMember).trans grows) ih

/-! ## Strings -/

theorem utf8Len_skipBlanks_le (text : List Char) : utf8Len (skipBlanks text) ≤ utf8Len text :=
  String.utf8Len_le_of_sublist (List.dropWhile_sublist _)

/-- What follows a character takes up less than the text. -/
theorem utf8Len_lt_of_skipBlanks {c : Char} (begins : skipBlanks text = c :: rest) :
    utf8Len rest < utf8Len text := by
  have blanks := utf8Len_skipBlanks_le text
  have positive := c.utf8Size_pos
  rw [begins, String.utf8Len_cons] at blanks
  omega

theorem utf8Len_of_readUnit? {found : Nat} (reads : readUnit? text = some (found, rest)) :
    utf8Len rest + 4 ≤ utf8Len text := by
  unfold readUnit? at reads
  split at reads
  · next a b c d more =>
    simp only [Option.bind_eq_bind, Option.bind_eq_some_iff] at reads
    obtain ⟨_, _, _, _, _, _, _, _, returned⟩ := reads
    cases returned
    have first := a.utf8Size_pos
    have second := b.utf8Size_pos
    have third := c.utf8Size_pos
    have fourth := d.utf8Size_pos
    simp only [String.utf8Len_cons]
    omega
  · cases reads

theorem utf8Len_of_readUnicode? {meant : Char} (reads : readUnicode? text = some (meant, rest)) :
    utf8Len rest + 4 ≤ utf8Len text := by
  obtain ⟨⟨unit, more⟩, first, reads⟩ := Option.bind_eq_some_iff.mp reads
  have consumed := utf8Len_of_readUnit? first
  simp only at reads
  split at reads
  · split at reads
    · obtain ⟨⟨low, final⟩, second, reads⟩ := Option.bind_eq_some_iff.mp reads
      have consumedLow := utf8Len_of_readUnit? second
      simp only at reads
      split at reads
      · obtain rfl : final = rest := congrArg Prod.snd (Option.some.inj reads)
        simp only [String.utf8Len_cons] at consumed
        omega
      · cases reads
    · cases reads
  · split at reads
    · cases reads
    · obtain rfl : more = rest := congrArg Prod.snd (Option.some.inj reads)
      exact consumed

/-- An escape takes up as many bytes as the character it stands for. -/
theorem utf8Len_of_readEscape? {meant : Char} (reads : readEscape? text = some (meant, rest)) :
    meant.utf8Size + utf8Len rest ≤ utf8Len text := by
  unfold readEscape? at reads
  split at reads
  case h_9 more =>
    have consumed := utf8Len_of_readUnicode? reads
    have small := meant.utf8Size_le_four
    simp only [String.utf8Len_cons]
    omega
  case h_10 => cases reads
  all_goals
    cases reads
    exact Nat.le_trans (Nat.add_le_add_right (by decide) _) (Nat.le_of_eq (Nat.add_comm _ _))

/-- A string takes up as many bytes as it has, and one for the closing quote. -/
theorem utf8Len_of_readString? {read found : String}
    (reads : readString? bound read text = some (found, rest)) :
    found.utf8ByteSize + utf8Len rest < read.utf8ByteSize + utf8Len text := by
  fun_induction readString? bound read text with
  | case1 | case2 | case4 | case6 => cases reads
  | case3 more read rest =>
    cases reads
    have quote := '"'.utf8Size_pos
    rw [String.utf8Len_cons]
    omega
  | case5 more read text meant rest escape _ ih =>
    have consumed := utf8Len_of_readEscape? escape
    have later := ih reads
    rw [String.utf8ByteSize_push] at later
    rw [String.utf8Len_cons]
    omega
  | case7 more read c text _ _ _ ih =>
    have later := ih reads
    rw [String.utf8ByteSize_push] at later
    rw [String.utf8Len_cons]
    omega

/-! ## Numbers -/

theorem utf8Len_of_readFraction? {fraction : Option (List Char)}
    (reads : readFraction? text = some (fraction, rest)) : utf8Len rest ≤ utf8Len text := by
  unfold readFraction? at reads
  split at reads
  · simp only at reads
    split at reads
    · cases reads
    · cases reads
      exact String.utf8Len_le_of_sublist ((List.drop_sublist _ _).cons _)
  · cases reads
    exact Nat.le_refl _

theorem utf8Len_of_readExponent? {found : Bool × List Char}
    (reads : readExponent? text = some (found, rest)) : utf8Len rest ≤ utf8Len text := by
  have digits {negative : Bool} {text : List Char}
      (reads : readExponent?.digits negative text = some (found, rest)) :
      rest.Sublist text := by
    simp only [readExponent?.digits] at reads
    split at reads
    · cases reads
    · cases reads
      exact List.drop_sublist _ _
  refine String.utf8Len_le_of_sublist ?_
  unfold readExponent? at reads
  split at reads
  · exact (digits reads).cons _
  · exact (digits reads).cons _
  · exact digits reads

theorem utf8Len_of_readPower? {exponent : Option (Bool × List Char)}
    (reads : readPower? text = some (exponent, rest)) : utf8Len rest ≤ utf8Len text := by
  have marked {mark : Char} {more : List Char}
      (reads : (readExponent? more).map (fun found => (some found.1, found.2)) =
        some (exponent, rest)) :
      utf8Len rest ≤ utf8Len (mark :: more) := by
    obtain ⟨found, present, returned⟩ := Option.map_eq_some_iff.mp reads
    cases returned
    have consumed := utf8Len_of_readExponent? present
    rw [String.utf8Len_cons]
    omega
  unfold readPower? at reads
  split at reads
  · exact marked reads
  · exact marked reads
  · cases reads
    exact Nat.le_refl _

/-! ## Readers of values -/

/-- What a reader reads fits into the text that it takes up. -/
def Economical (reader : List Char → Option (Json × List Char)) : Prop :=
  ∀ {text rest : List Char} {json : Json}, reader text = some (json, rest) →
    utf8Len rest < utf8Len text ∧ Sized (utf8Len text) json

theorem economical_readNumber? (negative : Bool) : Economical (readNumber? negative) := by
  intro text rest json reads
  simp only [readNumber?] at reads
  split at reads
  · cases reads
  · next present =>
    obtain ⟨⟨fraction, afterFraction⟩, readsFraction, reads⟩ := Option.bind_eq_some_iff.mp reads
    obtain ⟨⟨exponent, afterExponent⟩, readsExponent, reads⟩ := Option.bind_eq_some_iff.mp reads
    obtain ⟨value, _, returned⟩ := Option.bind_eq_some_iff.mp reads
    cases returned
    refine ⟨?_, .number value⟩
    have consumedFraction := utf8Len_of_readFraction? readsFraction
    have consumedExponent := utf8Len_of_readPower? readsExponent
    -- At least one digit stands before the point.
    have digits : utf8Len (text.takeWhile Char.isDigit) ≠ 0 := by
      rw [Ne, String.utf8Len_eq_zero]
      exact fun none => present (by rw [none]; rfl)
    have whole : utf8Len text = utf8Len (text.takeWhile Char.isDigit) +
        utf8Len (text.drop (text.takeWhile Char.isDigit).length) := by
      rw [← String.utf8Len_append]
      conv_lhs => rw [← List.take_append_drop (text.takeWhile Char.isDigit).length text]
      rw [← List.prefix_iff_eq_take.mp (List.takeWhile_prefix _)]
    simp only at consumedFraction consumedExponent ⊢
    omega

/-- Items take up a byte each, and one for what follows them. -/
theorem sized_of_readItems? (economical : Economical readItem) {read items : List Json}
    (room : read.length + utf8Len text ≤ limit) (sized : ∀ item ∈ read, Sized limit item)
    (reads : readItems? readItem bound read text = some (items, rest)) :
    utf8Len rest < utf8Len text ∧ items.length ≤ limit ∧ ∀ item ∈ items, Sized limit item := by
  fun_induction readItems? readItem bound read text with
  | case1 | case2 | case5 => cases reads
  | case3 more read text item after found later goesOn ih =>
    obtain ⟨consumed, sizedItem⟩ := economical found
    have blanks := utf8Len_skipBlanks_le after
    rw [goesOn, String.utf8Len_cons] at blanks
    have whole := ih (by rw [List.length_cons]; omega)
      (List.forall_mem_cons.mpr ⟨sizedItem.mono (by omega), sized⟩) reads
    exact ⟨by omega, whole.2⟩
  | case4 more read text item after found later ends =>
    obtain ⟨consumed, sizedItem⟩ := economical found
    have blanks := utf8Len_skipBlanks_le after
    rw [ends, String.utf8Len_cons] at blanks
    cases reads
    refine ⟨by omega, ?_, fun other member => ?_⟩
    · rw [List.length_reverse, List.length_cons]
      omega
    · obtain rfl | earlier := List.mem_cons.mp (List.mem_reverse.mp member)
      · exact sizedItem.mono (by omega)
      · exact sized other earlier

/-- The names and the values of members are not larger than a limit. -/
def SizedMembers (limit : Nat) (members : List (String × Json)) : Prop :=
  ∀ member ∈ members, member.1.utf8ByteSize ≤ limit ∧ Sized limit member.2

theorem SizedMembers.insert {members : List (String × Json)} (sized : SizedMembers limit members)
    {name : String} {value : Json} (fits : name.utf8ByteSize ≤ limit)
    (sizedValue : Sized limit value) : SizedMembers limit (Entries.insert name value members) := by
  intro member isMember
  obtain rfl | earlier := Entries.mem_of_mem_insert isMember
  · exact ⟨fits, sizedValue⟩
  · exact sized member earlier

theorem sized_of_member (economical : Economical readItem) {name : String} {value : Json}
    {quoted afterName more afterValue : List Char} (opened : skipBlanks text = '"' :: quoted)
    (named : readString? bound "" quoted = some (name, afterName))
    (separated : skipBlanks afterName = ':' :: more)
    (found : readItem more = some (value, afterValue)) :
    utf8Len afterValue < utf8Len text ∧ name.utf8ByteSize ≤ utf8Len text ∧
      Sized (utf8Len text) value := by
  have beforeName := utf8Len_skipBlanks_le text
  have inName := utf8Len_of_readString? named
  have beforeValue := utf8Len_skipBlanks_le afterName
  obtain ⟨consumed, sized⟩ := economical found
  rw [opened, String.utf8Len_cons] at beforeName
  rw [separated, String.utf8Len_cons] at beforeValue
  rw [String.utf8ByteSize_empty] at inName
  exact ⟨by omega, by omega, sized.mono (by omega)⟩

theorem sized_of_readMembers? (economical : Economical readItem) {nameBound : Nat}
    {read members : List (String × Json)} (room : utf8Len text ≤ limit)
    (sized : SizedMembers limit read)
    (reads : readMembers? readItem nameBound bound read text = some (members, rest)) :
    utf8Len rest < utf8Len text ∧ SizedMembers limit members := by
  fun_induction readMembers? readItem nameBound bound read text with
  | case4 more read text quoted opened name afterName named colon separated value afterValue found
      read' later goesOn ih =>
      obtain ⟨consumed, fits, sizedValue⟩ := sized_of_member economical opened named separated found
      have blanks := utf8Len_skipBlanks_le afterValue
      rw [goesOn, String.utf8Len_cons] at blanks
      have whole := ih (by omega) (sized.insert (fits.trans room) (sizedValue.mono room)) reads
      exact ⟨by omega, whole.2⟩
  | case5 more read text quoted opened name afterName named colon separated value afterValue found
      read' later ends =>
      obtain ⟨consumed, fits, sizedValue⟩ := sized_of_member economical opened named separated found
      have blanks := utf8Len_skipBlanks_le afterValue
      rw [ends, String.utf8Len_cons] at blanks
      obtain ⟨rfl, rfl⟩ := Prod.mk.inj (Option.some.inj reads)
      exact ⟨by omega, sized.insert (fits.trans room) (sizedValue.mono room)⟩
  | _ => cases reads

/-- A value fits into the text that it is read from. -/
theorem economical_readValue? (bound depth : Nat) : Economical (readValue? bound depth) := by
  induction depth using Nat.strong_induction_on with
  | h depth ih =>
  intro text rest json reads
  unfold readValue? at reads
  split at reads
  -- The words.
  case h_1 more begins | h_2 more begins | h_3 more begins =>
    have blanks := utf8Len_lt_of_skipBlanks begins
    cases reads
    simp only [String.utf8Len_cons] at blanks
    exact ⟨by omega, by constructor⟩
  case h_4 quoted begins =>
    obtain ⟨⟨found, after⟩, read, returned⟩ := Option.map_eq_some_iff.mp reads
    have blanks := utf8Len_lt_of_skipBlanks begins
    have inString := utf8Len_of_readString? read
    rw [String.utf8ByteSize_empty] at inString
    cases returned
    exact ⟨(by omega : utf8Len after < _), .string (by omega : found.utf8ByteSize ≤ _)⟩
  case h_5 more begins =>
    have blanks := utf8Len_lt_of_skipBlanks begins
    cases depth with
    | zero => cases reads
    | succ depth =>
      simp only at reads
      split at reads
      · next after closes =>
        have closed := utf8Len_lt_of_skipBlanks closes
        cases reads
        exact ⟨by omega, .array (Nat.zero_le _) fun _ member => absurd member List.not_mem_nil⟩
      · obtain ⟨⟨items, after⟩, read, returned⟩ := Option.map_eq_some_iff.mp reads
        have further := utf8Len_skipBlanks_le more
        have sized := sized_of_readItems? (ih depth depth.lt_succ_self)
          (by rw [List.length_nil]; omega : _ ≤ utf8Len text)
          (fun _ member => absurd member List.not_mem_nil) read
        cases returned
        exact ⟨(by omega : utf8Len after < _), .array sized.2.1 sized.2.2⟩
  case h_6 more begins =>
    have blanks := utf8Len_lt_of_skipBlanks begins
    cases depth with
    | zero => cases reads
    | succ depth =>
      simp only at reads
      split at reads
      · next after closes =>
        have closed := utf8Len_lt_of_skipBlanks closes
        cases reads
        exact ⟨by omega, .object (fun _ member => absurd member List.not_mem_nil)
          fun _ member => absurd member List.not_mem_nil⟩
      · obtain ⟨⟨members, after⟩, read, returned⟩ := Option.map_eq_some_iff.mp reads
        have further := utf8Len_skipBlanks_le more
        have sized := sized_of_readMembers? (ih depth depth.lt_succ_self)
          (by omega : _ ≤ utf8Len text) (fun _ member => absurd member List.not_mem_nil) read
        cases returned
        exact ⟨(by omega : utf8Len after < _),
          .object (fun member isMember => (sized.2 member isMember).1)
            fun member isMember => (sized.2 member isMember).2⟩
  case h_7 more begins =>
    have blanks := utf8Len_lt_of_skipBlanks begins
    obtain ⟨consumed, sized⟩ := economical_readNumber? true reads
    exact ⟨by omega, sized.mono (by omega)⟩
  case h_8 =>
    have blanks := utf8Len_skipBlanks_le text
    obtain ⟨consumed, sized⟩ := economical_readNumber? false reads
    exact ⟨by omega, sized.mono blanks⟩

/-- Everything in a document fits into its text. -/
theorem sized_of_ofText? {text : String} {json : Json} (reads : ofText? text = some json) :
    Sized text.utf8ByteSize json := by
  unfold ofText? at reads
  split at reads
  · next found rest read =>
    split at reads
    · cases reads
      rw [← String.utf8Len_toList]
      exact (economical_readValue? _ _ read).2
    · cases reads
  · cases reads

end Json
end PatchScript
