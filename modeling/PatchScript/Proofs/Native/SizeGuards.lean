import PatchScript.Proofs.Evaluate.Indices

/-!
# Exact size guards

Operators and native functions that check the size of what they build refuse exactly what is
beyond the limit.  The size is predicted before anything is built, or checked while parts are
put together; either way the outcome is given by the text or the items that should come out.
-/

namespace PatchScript

variable {store : Store} {text : String} {items : List Value} {operation : Run Value}

/-! ## Guarded results -/

/-- An operation returns a text, or reports that it is beyond the limit. -/
def BuildsText (report : ErrorKind → EvalError) (store : Store) (operation : Run Value)
    (text : String) : Prop :=
  operation store =
    if text.utf8ByteSize ≤ maxSequenceLength then .ok (.string text) store
    else .error (.error (report (.sizeLimitExceeded maxSequenceLength))) store

/-- An operation returns a new array of items, or reports that they are beyond the limit. -/
structure BuildsArray (report : ErrorKind → EvalError) (store : Store) (operation : Run Value)
    (items : List Value) : Prop where
  within : items.length ≤ maxSequenceLength → ∃ ref after,
    operation store = .ok (.array ref) after ∧ store.Added ref items after
  beyond : maxSequenceLength < items.length →
    operation store = .error (.error (report (.sizeLimitExceeded maxSequenceLength))) store

theorem buildsText_of_limited
    (builds : operation store =
      (Run.lift (Text.limited text) >>= fun built => pure (.string built)) store) :
    BuildsText .ofKind store operation text := by
  rw [BuildsText, builds, Text.limited]
  split <;> rfl

theorem buildsArray_of_checked {contents : Array Value}
    (builds : operation store =
      (Run.lift (checkLength contents.size) >>= fun _ => Run.newArray contents) store) :
    BuildsArray .ofKind store operation contents.toList where
  within fits := by
    rw [Array.length_toList] at fits
    rw [builds, checkLength, if_pos fits]
    exact ⟨_, _, rfl, store.added_addArray contents⟩
  beyond large := by
    rw [Array.length_toList] at large
    rw [builds, checkLength, if_neg (Nat.not_le.mpr large)]
    rfl

/-- A native function reports what its body refuses under its name. -/
theorem Native.buildsText_dispatch {function : Native} {kinds : List ParamKind} {site : CallSite}
    {arguments : List Value} (overload : function.overload? arguments.length = some kinds)
    (accepted : function.checkArguments 1 kinds arguments = .ok ())
    (builds : BuildsText .ofKind store (function.body site arguments) text) :
    BuildsText (function.report site.span) store (function.dispatch site arguments) text := by
  rw [BuildsText, dispatch_of_accepted overload accepted, Run.mapError, builds]
  by_cases fits : text.utf8ByteSize ≤ maxSequenceLength
  · rw [if_pos fits, if_pos fits]
  · rw [if_neg fits, if_neg fits]
    rfl

/-! ## Repetition -/

section Repetition

variable {x : Float} {count : Nat}

theorem Operator.repeatCount_of_integral (integral : Decimal.integer? x = some (count : Int)) :
    repeatCount x = .ok count := by
  simp only [repeatCount, integral]

theorem Operator.repeatCount_of_not_natural
    (notNatural : ∀ count : Nat, Decimal.integer? x ≠ some (count : Int)) :
    repeatCount x = .error (Value.notInteger "non-negative integer repeat count" x) := by
  unfold repeatCount
  split
  · next count natural => exact absurd natural (notNatural count)
  · rfl

theorem Operator.toList_appendRepeated (items : Array Value) (count : Nat) (written : Array Value) :
    (appendRepeated items count written).toList =
      written.toList ++ (List.replicate count items.toList).flatten := by
  induction count generalizing written with
  | zero => simp [appendRepeated]
  | succ count ih => simp [appendRepeated, ih, List.replicate_succ]

theorem Run.bind_lift_map {α β γ : Type} (result : Except ErrorKind α) (build : α → β)
    (next : β → Run γ) :
    (Run.lift (result.map build) >>= next) =
      Run.lift result >>= fun found => next (build found) := by
  cases result <;> rfl

theorem buildsText_multiply (store : Store) (text : String)
    (integral : Decimal.integer? x = some (count : Int)) :
    BuildsText .ofKind store (Operator.binary .mul (.string text) (.number x))
      (String.join (List.replicate count text)) := by
  refine buildsText_of_limited ?_
  rw [← Text.repeated_eq_join, ← StringFunction.repeated_of_repetitions, Run.bind_lift_map]
  simp only [Operator.binary, Operator.multiply, Operator.repeatCount_of_integral integral]
  rfl

theorem buildsArray_multiply (store : Store) (ref : ArrayRef)
    (integral : Decimal.integer? x = some (count : Int)) :
    BuildsArray .ofKind store (Operator.binary .mul (.array ref) (.number x))
      (List.replicate count (store.array ref).toList).flatten := by
  let repeated (times : Nat) := Operator.appendRepeated (store.array ref) times #[]
  have contents (times : Nat) : (repeated times).toList =
      (List.replicate times (store.array ref).toList).flatten := by
    rw [Operator.toList_appendRepeated, Array.toList_empty, List.nil_append]
  have size : (repeated count).size = (store.array ref).size * count := by
    rw [Regime.size_appendRepeated, Array.size_empty, Nat.zero_add]
  -- Items that are none are not repeated, which makes no difference.
  have same (none : (store.array ref).size = 0) : repeated 0 = repeated count := by
    rw [← Array.toList_inj, contents, contents, Array.eq_empty_of_size_eq_zero none]
    simp
  rw [← contents]
  refine buildsArray_of_checked ?_
  rw [size, ← Run.bind_lift_map _ (fun _ => repeated count), ← map_repetitions repeated same,
    Run.bind_lift_map]
  simp only [Operator.binary, Operator.multiply, Operator.repeatCount_of_integral integral]
  rfl

variable (site : CallSite) (store : Store) (text : String)

theorem buildsText_repeated (integral : Decimal.integer? x = some (count : Int)) :
    BuildsText ((Native.strings .repeated).report site.span) store
      ((Native.strings .repeated).dispatch site [.string text, .number x])
      (String.join (List.replicate count text)) := by
  refine Native.buildsText_dispatch rfl
    (by simp [Native.checkArguments, ParamKind.accepts, integral]) (buildsText_of_limited ?_)
  rw [← Text.repeated_eq_join, ← StringFunction.repeatText_of_nonneg]
  simp only [Native.body, StringFunction.body, integerArgument_of_integral integral, pure_bind]

/-- A number that is not a count is refused by operators, and in its own way by the native
function. -/
theorem refused_of_not_natural
    (notNatural : ∀ count : Nat, Decimal.integer? x ≠ some (count : Int)) :
    ∃ error, (Native.strings .repeated).dispatch site [.string text, .number x] store =
      .error (.error error) store := by
  cases integral : Decimal.integer? x with
  | none =>
    have rejected : (Native.strings .repeated).checkArguments 1 [.string, .integer]
        [.string text, .number x] =
          .error ((Native.strings .repeated).argumentError 2 .integer (.number x)) := by
      simp [Native.checkArguments, ParamKind.accepts, integral]
    exact ⟨_, Native.dispatch_of_rejected rfl rejected⟩
  | some index =>
    cases index with
    | ofNat count => exact absurd integral (notNatural count)
    | negSucc count =>
      rw [Native.dispatch_of_accepted rfl
        (by simp [Native.checkArguments, ParamKind.accepts, integral])]
      simp only [Native.body, StringFunction.body, integerArgument_of_integral integral,
        pure_bind, StringFunction.repeatText, if_pos (Int.negSucc_lt_zero count)]
      exact ⟨_, rfl⟩

end Repetition

theorem buildsText_join (site : CallSite) (store : Store) (ref : ArrayRef) (separator : String) :
    BuildsText ((Native.arrays .join).report site.span) store
      ((Native.arrays .join).dispatch site [.array ref, .string separator])
      (separator.intercalate ((store.array ref).toList.map store.displayText)) := by
  refine Native.buildsText_dispatch rfl rfl (buildsText_of_limited ?_)
  rw [← Text.join_eq_intercalate, ← ArrayFunction.joinItems_eq]
  rfl

/-! ## All guarded operations -/

/-- What becomes of every operation that guards its size. -/
structure SizeGuards (site : CallSite) (store : Store) : Prop where
  addTexts (first second : String) :
    BuildsText .ofKind store (Operator.binary .add (.string first) (.string second))
      (first ++ second)
  addArrays (first second : ArrayRef) :
    BuildsArray .ofKind store (Operator.binary .add (.array first) (.array second))
      ((store.array first).toList ++ (store.array second).toList)
  repeatText (text : String) {x : Float} {count : Nat} : Decimal.integer? x = some (count : Int) →
    BuildsText .ofKind store (Operator.binary .mul (.string text) (.number x))
      (String.join (List.replicate count text))
  repeatArray (ref : ArrayRef) {x : Float} {count : Nat} :
    Decimal.integer? x = some (count : Int) →
    BuildsArray .ofKind store (Operator.binary .mul (.array ref) (.number x))
      (List.replicate count (store.array ref).toList).flatten
  repeated (text : String) {x : Float} {count : Nat} : Decimal.integer? x = some (count : Int) →
    BuildsText ((Native.strings .repeated).report site.span) store
      ((Native.strings .repeated).dispatch site [.string text, .number x])
      (String.join (List.replicate count text))
  join (ref : ArrayRef) (separator : String) :
    BuildsText ((Native.arrays .join).report site.span) store
      ((Native.arrays .join).dispatch site [.array ref, .string separator])
      (separator.intercalate ((store.array ref).toList.map store.displayText))
  /-- The text that comes out is the only one in which the matches are replaced. -/
  replace (text : String) {old new : String} :
    old ≠ "" → old.utf8ByteSize < new.utf8ByteSize →
    ∃ result : String, (∀ chars, Text.Replaced old.toList new.toList text.toList chars ↔
        chars = result.toList) ∧
      BuildsText ((Native.strings .replace).report site.span) store
        ((Native.strings .replace).dispatch site [.string text, .string old, .string new]) result
  /-- Counts are natural numbers, of 63 bits. -/
  refused (text : String) (ref : ArrayRef) {x : Float} :
    (∀ count : Nat, Decimal.integer? x ≠ some (count : Int)) →
    (∀ container, container = .string text ∨ container = .array ref →
      Operator.binary .mul container (.number x) store = .error (.error (.ofKind
        (Value.notInteger "non-negative integer repeat count" x))) store) ∧
    ∃ error, (Native.strings .repeated).dispatch site [.string text, .number x] store =
      .error (.error error) store
  sameRepetition (text : String) (x : Float) (value : Value) (after : Store) :
    Operator.binary .mul (.string text) (.number x) store = .ok value after ↔
      (Native.strings .repeated).dispatch site [.string text, .number x] store = .ok value after

/-- Whatever is checked is refused exactly if it is beyond the limit. -/
theorem size_guards_exact (site : CallSite) (store : Store) : SizeGuards site store where
  addTexts first second := by
    refine buildsText_of_limited ?_
    rw [Text.limited, String.utf8ByteSize_append]
    simp only [Operator.binary, Operator.add, checkLength]
    split <;> rfl
  addArrays first second := by
    rw [← Array.toList_append]
    refine buildsArray_of_checked ?_
    rw [Operator.add_arrays, Array.size_append]
  repeatText text _ _ := buildsText_multiply store text
  repeatArray ref _ _ := buildsArray_multiply store ref
  repeated text _ _ := buildsText_repeated site store text
  join := buildsText_join site store
  replace text _ new nonempty longer := by
    have replaced := Text.replaced_exchanged nonempty text new
    refine ⟨_, fun chars => ⟨replaced.unique (by simpa using nonempty), ?_⟩, ?_⟩
    · rintro rfl
      exact replaced
    · refine Native.buildsText_dispatch rfl rfl (buildsText_of_limited ?_)
      rw [← StringFunction.replaceText_of_longer text nonempty longer]
      rfl
  refused text ref _ notNatural := by
    refine ⟨?_, refused_of_not_natural site store text notNatural⟩
    rintro _ (rfl | rfl)
    all_goals
      simp only [Operator.binary, Operator.multiply, Operator.repeatCount_of_not_natural notNatural]
      rfl
  sameRepetition text x value after := by
    by_cases natural : ∃ count : Nat, Decimal.integer? x = some (count : Int)
    · obtain ⟨count, integral⟩ := natural
      rw [buildsText_multiply store text integral, buildsText_repeated site store text integral]
      split
      · rfl
      · simp
    · have notNatural (count : Nat) : Decimal.integer? x ≠ some (count : Int) := fun integral =>
        natural ⟨count, integral⟩
      obtain ⟨error, refused⟩ := refused_of_not_natural site store text notNatural
      rw [refused]
      simp only [Operator.binary, Operator.multiply, Operator.repeatCount_of_not_natural notNatural]
      constructor <;> intro same <;> cases same

open SizeLimit (place)

/-- An empty text can be repeated more often than anything else. -/
theorem size_guards_exact_empty :
    Decimal.integer? 4611686018427387904 = some ((4611686018427387904 : Nat) : Int) ∧
      ∃ text, Operator.binary .mul (.string "") (.number 4611686018427387904) .empty =
        .ok (.string text) .empty ∧ text.utf8ByteSize = 0 := by
  have integral : Decimal.integer? 4611686018427387904 =
      some ((4611686018427387904 : Nat) : Int) := rfl
  have size : (String.join (List.replicate 4611686018427387904 "")).utf8ByteSize = 0 := by
    rw [← Text.repeated_eq_join, Text.bytes_repeated, String.utf8ByteSize_empty, Nat.zero_mul]
  have built := (size_guards_exact place .empty).repeatText "" integral
  rw [BuildsText, size, if_pos (Nat.zero_le _)] at built
  exact ⟨integral, _, built, size⟩

/-- Not every natural number is a count: an empty text is not repeated more often than integers
of 64 bits can say. -/
theorem not_size_guards_exact :
    Operator.binary .mul (.string "") (.number 9223372036854775808) .empty =
      .error (.error (.ofKind
        (Value.notInteger "non-negative integer repeat count" 9223372036854775808))) .empty :=
  rfl

end PatchScript
