import PatchScript.Native.Arrays
import PatchScript.Native.Strings
import PatchScript.Proofs.Text.Replacement
import PatchScript.Proofs.Traversal
import Mathlib.Algebra.BigOperators.Group.List.Basic
import Mathlib.Algebra.Ring.Nat
import Mathlib.Data.String.Basic

/-!
# The size of texts

How many bytes the functions on texts write.  What is cut out of a text is not larger than
the text; what is put together is as large as its parts, and where the size is checked it is
within the limit.
-/

namespace PatchScript

variable {text written : String}

/-! ## The size limit -/

theorem checkLength_eq_ok_iff {length : Nat} :
    checkLength length = .ok () ↔ length ≤ maxSequenceLength := by
  unfold checkLength
  split <;> simp_all

theorem repetitions_eq_ok {length count times : Nat}
    (counted : repetitions length count = .ok times) : length * times ≤ maxSequenceLength := by
  obtain ⟨_, checked, returned⟩ := except_bind_eq_ok_iff.mp counted
  have fits := checkLength_eq_ok_iff.mp checked
  cases returned
  split <;> omega

/-- Where nothing is repeated, the count does not matter. -/
theorem map_repetitions {α : Type} {length count : Nat} (build : Nat → α)
    (same : length = 0 → build 0 = build count) :
    (repetitions length count).map build =
      (checkLength (length * count)).map fun _ => build count := by
  rw [repetitions]
  cases checkLength (length * count) with
  | error kind => rfl
  | ok _ =>
    by_cases empty : length = 0
    · simp only [if_pos empty, ← same empty]
      rfl
    · simp only [if_neg empty]
      rfl

namespace Text

variable {separator : List Char}

/-- A text, or the refusal of one beyond the limit. -/
def limited (text : String) : Except ErrorKind String :=
  if text.utf8ByteSize ≤ maxSequenceLength then .ok text
  else .error (.sizeLimitExceeded maxSequenceLength)

theorem limited_eq_ok_iff :
    limited text = .ok written ↔ text = written ∧ written.utf8ByteSize ≤ maxSequenceLength := by
  unfold limited
  split
  · next fits =>
    rw [Except.ok.injEq]
    exact ⟨fun same => ⟨same, same ▸ fits⟩, And.left⟩
  · next large =>
    constructor
    · intro same
      cases same
    · rintro ⟨rfl, fits⟩
      exact absurd fits large

/-! ## Cutting -/

/-- What is cut out of a text is not larger than the text. -/
theorem bytes_le_of_sublist {chars : List Char} (sublist : chars.Sublist text.toList) :
    (String.ofList chars).utf8ByteSize ≤ text.utf8ByteSize := by
  rw [String.utf8ByteSize_ofList, ← String.utf8Len_toList]
  exact String.utf8Len_le_of_sublist sublist

theorem bytes_trim_le (text : String) : (trim text).utf8ByteSize ≤ text.utf8ByteSize := by
  have leading : (text.toList.dropWhile isBlank).Sublist text.toList := List.dropWhile_sublist _
  have trailing : ((text.toList.dropWhile isBlank).reverse.dropWhile isBlank).reverse.Sublist
      (text.toList.dropWhile isBlank).reverse.reverse :=
    (List.dropWhile_sublist _).reverse
  rw [List.reverse_reverse] at trailing
  exact bytes_le_of_sublist (trailing.trans leading)

theorem sublist_intercalate {piece : List Char} {parts : List (List Char)}
    (member : piece ∈ parts) : piece.Sublist (separator.intercalate parts) := by
  induction parts with
  | nil => cases member
  | cons first rest ih =>
    cases rest with
    | nil => simp_all
    | cons second rest =>
      rw [List.intercalate_cons_cons]
      obtain rfl | later := List.mem_cons.mp member
      · simp
      · exact (ih later).trans (List.sublist_append_right _ _)

/-- The parts of a text are not larger than the text. -/
theorem bytes_le_of_mem_split {separator : String} {piece : List Char}
    (member : piece ∈ split separator.toList text.toList) :
    (String.ofList piece).utf8ByteSize ≤ text.utf8ByteSize := by
  refine bytes_le_of_sublist ?_
  rw [← exchanged_self text separator, exchanged, toList_join_parts]
  exact sublist_intercalate member

/-! ## Putting together -/

theorem repeated_eq_join (text : String) (count : Nat) :
    repeated text count = String.join (List.replicate count text) := by
  have appended (written : String) :
      appendRepeated text count written = written ++ String.join (List.replicate count text) := by
    induction count generalizing written with
    | zero => simp [appendRepeated]
    | succ count ih => simp [appendRepeated, ih, List.replicate_succ, String.append_assoc]
  rw [repeated, appended, String.empty_append]

theorem bytes_repeated (text : String) (count : Nat) :
    (repeated text count).utf8ByteSize = text.utf8ByteSize * count := by
  rw [repeated_eq_join]
  induction count with
  | zero => rfl
  | succ count ih =>
    rw [List.replicate_succ, String.join_cons, String.utf8ByteSize_append, ih, Nat.mul_succ,
      Nat.add_comm]

theorem bytes_join (separator first : String) (rest : List String) :
    (join separator (first :: rest)).utf8ByteSize =
      ((first :: rest).map String.utf8ByteSize).sum + rest.length * separator.utf8ByteSize := by
  induction rest generalizing first with
  | nil =>
    simp only [join, List.foldl_nil, List.map_cons, List.map_nil, List.sum_cons, List.sum_nil,
      List.length_nil, Nat.zero_mul, Nat.add_zero]
  | cons second rest ih =>
    have joined : join separator (first :: second :: rest) =
        join separator ((first ++ separator ++ second) :: rest) := rfl
    rw [joined, ih, List.map_cons, List.sum_cons, List.map_cons, List.sum_cons,
      List.map_cons, List.sum_cons, String.utf8ByteSize_append, String.utf8ByteSize_append,
      List.length_cons, Nat.succ_mul]
    omega

end Text

/-! ## Functions on texts -/

namespace StringFunction

theorem bytes_sliceText_le {part : String} {start : Int} {stop : Option Int}
    (sliced : sliceText text start stop = .ok part) : part.utf8ByteSize ≤ text.utf8ByteSize := by
  obtain ⟨bounds, _, returned⟩ := except_bind_eq_ok_iff.mp sliced
  cases returned
  exact Text.bytes_le_of_sublist ((List.drop_sublist _ _).trans (List.take_sublist _ _))

theorem bytes_charText_le {part : String} {index : Int} (found : charText text index = .ok part) :
    part.utf8ByteSize ≤ text.utf8ByteSize := by
  obtain ⟨position, _, returned⟩ := except_bind_eq_ok_iff.mp found
  cases returned
  refine Text.bytes_le_of_sublist ?_
  cases present : text.toList[position]? with
  | none => exact List.nil_sublist _
  | some c => exact List.singleton_sublist.mpr (List.mem_of_getElem? present)

/-- A text that is repeated within the limit. -/
theorem repeated_of_repetitions (text : String) (count : Nat) :
    (repetitions text.utf8ByteSize count).map (Text.repeated text) =
      Text.limited (Text.repeated text count) := by
  rw [map_repetitions, Text.limited, Text.bytes_repeated, checkLength]
  · split <;> rfl
  · intro empty
    have nothing (count : Nat) : Text.repeated text count = "" := by
      rw [← String.utf8ByteSize_eq_zero_iff, Text.bytes_repeated, empty, Nat.zero_mul]
    rw [nothing, nothing]

theorem repeatText_of_nonneg (text : String) (count : Nat) :
    repeatText text count = Text.limited (Text.repeated text count) := by
  rw [← repeated_of_repetitions, repeatText, if_neg (Int.not_lt.mpr (Int.natCast_nonneg count)),
    Int.toNat_natCast]
  cases repetitions text.utf8ByteSize count <;> rfl

theorem bytes_repeatText_le {count : Int} (repeats : repeatText text count = .ok written) :
    written.utf8ByteSize ≤ maxSequenceLength := by
  cases count with
  | ofNat count => exact (Text.limited_eq_ok_iff.mp (repeatText_of_nonneg text count ▸ repeats)).2
  | negSucc count =>
    rw [repeatText, if_pos (Int.negSucc_lt_zero count)] at repeats
    cases repeats

/-- Between the parts of a text, another is as large as what separated them would be. -/
theorem bytes_exchanged (text old new : String) :
    let count := (Text.split old.toList text.toList).length - 1
    (Text.exchanged text old new).utf8ByteSize + count * old.utf8ByteSize =
      text.utf8ByteSize + count * new.utf8ByteSize := by
  have whole := Text.exchanged_self text old
  unfold Text.exchanged at whole ⊢
  generalize Text.split old.toList text.toList = parts at whole ⊢
  rw [← whole]
  cases parts with
  | nil => simp [Text.join]
  | cons first rest =>
    rw [List.map_cons, Text.bytes_join, Text.bytes_join]
    simp only [List.length_map, List.length_cons, Nat.add_sub_cancel]
    omega

variable {old new : String}

/-- Replacing a text by one that is longer is checked. -/
theorem replaceText_of_longer (text : String) (nonempty : old ≠ "")
    (longer : old.utf8ByteSize < new.utf8ByteSize) :
    replaceText text old new = Text.limited (Text.exchanged text old new) := by
  have size := bytes_exchanged text old new
  have larger := Nat.mul_le_mul_left ((Text.split old.toList text.toList).length - 1)
    (Nat.le_of_lt longer)
  have predicted : ((Text.split old.toList text.toList).length - 1) *
      (new.utf8ByteSize - old.utf8ByteSize) + text.utf8ByteSize =
        (Text.exchanged text old new).utf8ByteSize := by
    rw [Nat.mul_sub]
    simp only at size
    omega
  rw [replaceText, if_neg (by simpa using nonempty)]
  simp only [if_pos longer, predicted]
  rw [Text.limited, checkLength]
  split <;> rfl

/-- Replacing a text by one that is not longer does not write more. -/
theorem replaceText_of_le (text : String) (nonempty : old ≠ "")
    (notLonger : new.utf8ByteSize ≤ old.utf8ByteSize) :
    replaceText text old new = .ok (Text.exchanged text old new) ∧
      (Text.exchanged text old new).utf8ByteSize ≤ text.utf8ByteSize := by
  constructor
  · rw [replaceText, if_neg (by simpa using nonempty)]
    simp only [if_neg (Nat.not_lt.mpr notLonger)]
    rfl
  · have size := bytes_exchanged text old new
    have smaller := Nat.mul_le_mul_left ((Text.split old.toList text.toList).length - 1) notLonger
    simp only at size
    omega

theorem bytes_replaceText_le (replaced : replaceText text old new = .ok written) :
    written.utf8ByteSize ≤ text.utf8ByteSize ∨ written.utf8ByteSize ≤ maxSequenceLength := by
  by_cases empty : old = ""
  · subst empty
    cases replaced
  · by_cases longer : old.utf8ByteSize < new.utf8ByteSize
    · rw [replaceText_of_longer text empty longer] at replaced
      exact .inr (Text.limited_eq_ok_iff.mp replaced).2
    · obtain ⟨returned, small⟩ := replaceText_of_le text empty (Nat.not_lt.mp longer)
      cases returned.symm.trans replaced
      exact .inl small

end StringFunction

namespace ArrayFunction

variable {store : Store} {separator : String} {items : List Value}

theorem joinAfter_eq {joined : String} (fits : joined.utf8ByteSize ≤ maxSequenceLength) :
    joinAfter store separator items joined =
      Text.limited (Text.join separator (joined :: items.map store.displayText)) := by
  induction items generalizing joined with
  | nil => exact (if_pos fits).symm
  | cons item items ih =>
    have size : (joined ++ separator ++ store.displayText item).utf8ByteSize =
        joined.utf8ByteSize + separator.utf8ByteSize + (store.displayText item).utf8ByteSize := by
      rw [String.utf8ByteSize_append, String.utf8ByteSize_append]
    have joins : Text.join separator (joined :: (item :: items).map store.displayText) =
        Text.join separator ((joined ++ separator ++ store.displayText item) ::
          items.map store.displayText) := rfl
    rw [joinAfter, joins, ← size, checkLength]
    split
    · next small => exact ih small
    · next large =>
      -- What is written already does not get smaller.
      refine (if_neg fun small => large (Nat.le_trans ?_ small)).symm
      rw [Text.bytes_join, List.map_cons, List.sum_cons, Nat.add_assoc]
      exact Nat.le_add_right _ _

theorem joinItems_eq :
    joinItems store separator items =
      Text.limited (Text.join separator (items.map store.displayText)) := by
  cases items with
  | nil => rfl
  | cons item items =>
    rw [joinItems, checkLength]
    split
    · next small => exact joinAfter_eq small
    · next large =>
      refine (if_neg fun small => large (Nat.le_trans ?_ small)).symm
      rw [List.map_cons, Text.bytes_join, List.map_cons, List.sum_cons, Nat.add_assoc]
      exact Nat.le_add_right _ _

theorem bytes_joinItems_le (joins : joinItems store separator items = .ok written) :
    written.utf8ByteSize ≤ maxSequenceLength :=
  (Text.limited_eq_ok_iff.mp (joinItems_eq ▸ joins)).2

end ArrayFunction
end PatchScript
