import PatchScript.Operator
import PatchScript.Native.Dispatch
import PatchScript.Proofs.Json.Sizes
import PatchScript.Proofs.Native.Callbacks
import PatchScript.Proofs.Run.Regime
import PatchScript.Proofs.Text.Bytes

/-!
# Operators and native functions under a regime

Operators and native functions keep to every regime: given values that may be used,
they return one, and change only what they are meant to.  Where a function builds something
without checking its length, it must be given that the length fits.
-/

namespace PatchScript

variable {items : Array Value} {arguments : List Value} {left right value : Value}

/-! ## What native functions change and build -/

/-- The container that a function changes in place. -/
def Native.mutated? : Native → List Value → Option Value
  | .arrays function, .array ref :: _ =>
    match function with
    | .push | .pop | .insert | .removeAt | .fill => some (.array ref)
    | _ => none
  | .objects function, .object ref :: _ =>
    match function with
    | .remove | .merge => some (.object ref)
    | _ => none
  | _, _ => none

/-- A call that returns is one of the function itself. -/
theorem Native.body_of_dispatch {function : Native} {site : CallSite} {store after : Store}
    (called : function.dispatch site arguments store = .ok value after) :
    function.body site arguments store = .ok value after := by
  unfold dispatch at called
  cases overload : function.overload? arguments.length with
  | none =>
    rw [overload] at called
    cases called
  | some kinds =>
    simp only [overload] at called
    cases checks : function.checkArguments 1 kinds arguments with
    | error kind =>
      rw [checks] at called
      cases called
    | ok _ =>
      rw [checks] at called
      exact Run.mapError_eq_ok_iff.mp called

namespace StringFunction

/-- The length of what a function builds without checking it. -/
def unchecked? : StringFunction → List Value → Option Nat
  | .upper, [.string text] => some (Text.upper text).utf8ByteSize
  | .lower, [.string text] => some (Text.lower text).utf8ByteSize
  | .split, [.string text, .string separator] =>
    some (Text.split separator.toList text.toList).length
  | .replaceRegex, [.string text, .string pattern, .string replacement] =>
    match regex pattern with
    | .ok found => some (Regex.replaceAll found text replacement).utf8ByteSize
    | .error _ => none
  | _, _ => none

end StringFunction

/-- The length of what a function builds without checking it. -/
def ArrayFunction.unchecked? (store : Store) : ArrayFunction → List Value → Option Nat
  | .push, [.array ref, _] => some ((store.array ref).size + 1)
  | .insert, [.array ref, _, _] => some ((store.array ref).size + 1)
  | _, _ => none

/-- The length of what a function builds without checking it. -/
def ObjectFunction.unchecked? (store : Store) : ObjectFunction → List Value → Option Nat
  | .keys, [.object ref] => some (store.object ref).size
  | .values, [.object ref] => some (store.object ref).size
  | .entries, [.object ref] => some (store.object ref).size
  | _, _ => none

/-- The length of what a function builds without checking it. -/
def JsonFunction.unchecked? (store : Store) : JsonFunction → List Value → Option Nat
  | .stringify, [value] => (store.toJson value).toOption.map fun json => json.compact.utf8ByteSize
  | .pretty, [value] => (store.toJson value).toOption.map fun json => json.pretty.utf8ByteSize
  | _, _ => none

/-- The length of what a function builds without checking it. -/
def Native.unchecked? (store : Store) (function : Native) (arguments : List Value) : Option Nat :=
  match function with
  | .strings function => function.unchecked? arguments
  | .arrays function => function.unchecked? store arguments
  | .objects function => function.unchecked? store arguments
  | .json function => function.unchecked? store arguments
  | .math _ | .debug _ => none

namespace Regime

variable {regime : Regime} {store : Store} {op : BinaryOp}

/-! ## Contents -/

theorem GoodItems.of_list {items : List Value} (fits : regime.Fits items.length)
    (good : ∀ item ∈ items, regime.Good store item) : regime.GoodItems store items.toArray :=
  ⟨fits, fun item member => good item (List.mem_toArray.mp member)⟩

section

variable {map : OrderedMap Value} (good : regime.GoodEntries store map.entries)
include good

theorem GoodEntries.insert {key : String} (fits : regime.Fits key.utf8ByteSize)
    (goodValue : regime.Good store value) :
    regime.GoodEntries store (map.insert key value).entries := by
  intro entry member
  obtain rfl | present := Entries.mem_of_mem_insert member
  · exact ⟨fits, goodValue⟩
  · exact good entry present

theorem GoodEntries.insertAll {added : List (String × Value)}
    (goodAdded : regime.GoodEntries store added) :
    regime.GoodEntries store (map.insertAll added).entries := by
  intro entry member
  exact (OrderedMap.mem_of_mem_insertAll member).elim (good entry) (goodAdded entry)

end

variable [lawful : regime.Lawful]

theorem stable_good : regime.Stable regime.Good := fun _ _ _ kept good => lawful.stable kept good

/-- A function and an item that it is called for. -/
theorem stable_goodPair {callback : Value} :
    regime.Stable fun store item => regime.Good store callback ∧ regime.Good store item :=
  fun _ _ _ kept good => ⟨lawful.stable kept good.1, lawful.stable kept good.2⟩

theorem stable_goodEntry : regime.Stable regime.GoodEntry :=
  fun _ _ _ kept good => ⟨good.1, lawful.stable kept good.2⟩

theorem GoodEntries.later {later : Store} {entries : List (String × Value)}
    (good : regime.GoodEntries store entries) (kept : regime.Kept store later) :
    regime.GoodEntries later entries :=
  fun entry member => ⟨(good entry member).1, lawful.stable kept (good entry member).2⟩

/-! ## Documents -/

mutual

/-- A document is added to the store if everything in it fits. -/
theorem kept_ofJson {limit : Nat} (fits : regime.Fits limit) :
    ∀ (json : Json) (store : Store), json.Sized limit →
      regime.Kept store (store.ofJson json).2 ∧
        regime.Good (store.ofJson json).2 (store.ofJson json).1
  | .null, store, _ => ⟨lawful.refl store, lawful.null store⟩
  | .bool value, store, _ => ⟨lawful.refl store, lawful.boolean store value⟩
  | .number value, store, _ => ⟨lawful.refl store, lawful.number store value.toFloat⟩
  | .string text, store, sized => by
    cases sized with
    | string small => exact ⟨lawful.refl store, lawful.string.mpr (lawful.smaller small fits)⟩
  | .array items, store, sized => by
    cases sized with
    | array small sized =>
      obtain ⟨kept, size, good⟩ := kept_ofJsonItems fits items store #[] sized (by simp)
      have room : (store.ofJsonItems items #[]).1.size ≤ limit := by
        rw [size, Array.size_empty, Nat.zero_add]
        exact small
      have added := lawful.addArray ⟨lawful.smaller room fits, good⟩
      exact ⟨lawful.trans kept added.1, added.2⟩
  | .object members, store, sized => by
    cases sized with
    | object small sized =>
      obtain ⟨kept, good⟩ := kept_ofJsonMembers fits members store OrderedMap.empty small sized
        fun _ member => absurd member List.not_mem_nil
      have added := lawful.addObject good
      exact ⟨lawful.trans kept added.1, added.2⟩

theorem kept_ofJsonItems {limit : Nat} (fits : regime.Fits limit) :
    ∀ (items : List Json) (store : Store) (values : Array Value),
      (∀ item ∈ items, item.Sized limit) → (∀ value ∈ values, regime.Good store value) →
      regime.Kept store (store.ofJsonItems items values).2 ∧
        (store.ofJsonItems items values).1.size = values.size + items.length ∧
        ∀ value ∈ (store.ofJsonItems items values).1,
          regime.Good (store.ofJsonItems items values).2 value
  | [], store, values, _, good => ⟨lawful.refl store, rfl, good⟩
  | item :: items, store, values, sized, good => by
    obtain ⟨sizedItem, sizedItems⟩ := List.forall_mem_cons.mp sized
    obtain ⟨keptFirst, goodFirst⟩ := kept_ofJson fits item store sizedItem
    obtain ⟨kept, size, goodRest⟩ := kept_ofJsonItems fits items (store.ofJson item).2
      (values.push (store.ofJson item).1) sizedItems fun value member => by
        obtain earlier | rfl := Array.mem_push.mp member
        · exact lawful.stable keptFirst (good value earlier)
        · exact goodFirst
    refine ⟨lawful.trans keptFirst kept, ?_, goodRest⟩
    rw [Store.ofJsonItems, size, Array.size_push, List.length_cons]
    omega

theorem kept_ofJsonMembers {limit : Nat} (fits : regime.Fits limit) :
    ∀ (members : List (String × Json)) (store : Store) (values : OrderedMap Value),
      (∀ member ∈ members, member.1.utf8ByteSize ≤ limit) →
      (∀ member ∈ members, member.2.Sized limit) → regime.GoodEntries store values.entries →
      regime.Kept store (store.ofJsonMembers members values).2 ∧
        regime.GoodEntries (store.ofJsonMembers members values).2
          (store.ofJsonMembers members values).1.entries
  | [], store, values, _, _, good => ⟨lawful.refl store, good⟩
  | (name, member) :: members, store, values, small, sized, good => by
    obtain ⟨smallName, smallNames⟩ := List.forall_mem_cons.mp small
    obtain ⟨sizedMember, sizedMembers⟩ := List.forall_mem_cons.mp sized
    obtain ⟨keptFirst, goodFirst⟩ := kept_ofJson fits member store sizedMember
    obtain ⟨kept, goodRest⟩ := kept_ofJsonMembers fits members (store.ofJson member).2
      (values.insert name (store.ofJson member).1) smallNames sizedMembers
      ((good.later keptFirst).insert (lawful.smaller smallName fits) goodFirst)
    exact ⟨lawful.trans keptFirst kept, goodRest⟩

end

/-! ## Items that are changed -/

section Changed

omit lawful

variable (good : regime.GoodItems store items) (goodValue : regime.Good store value)

include good goodValue

theorem GoodItems.push (fits : regime.Fits (items.size + 1)) :
    regime.GoodItems store (items.push value) := by
  refine ⟨by rwa [Array.size_push], fun item member => ?_⟩
  obtain present | rfl := Array.mem_push.mp member
  · exact good.good item present
  · exact goodValue

theorem GoodItems.insertIdxIfInBounds (fits : regime.Fits (items.size + 1)) (index : Nat) :
    regime.GoodItems store (items.insertIdxIfInBounds index value) := by
  unfold Array.insertIdxIfInBounds
  split
  · refine ⟨by rwa [Array.size_insertIdx], fun item member => ?_⟩
    obtain rfl | present := Array.mem_insertIdx.mp member
    · exact goodValue
    · exact good.good item present
  · exact good

theorem GoodItems.fill : regime.GoodItems store (items.map fun _ => value) := by
  constructor
  · rw [Array.size_map]
    exact good.fits
  · intro item member
    obtain ⟨_, _, rfl⟩ := Array.mem_map.mp member
    exact goodValue

end Changed

section

variable (good : regime.GoodItems store items)
include good

theorem GoodItems.of_sublist {fewer : Array Value} (sublist : fewer.toList.Sublist items.toList) :
    regime.GoodItems store fewer :=
  ⟨lawful.smaller sublist.length_le good.fits, fun item member =>
    good.good item (Array.mem_toList_iff.mp (sublist.subset (Array.mem_toList_iff.mpr member)))⟩

theorem GoodItems.pop : regime.GoodItems store items.pop := by
  refine good.of_sublist ?_
  rw [Array.toList_pop]
  exact List.dropLast_sublist _

theorem GoodItems.eraseIdxIfInBounds (index : Nat) :
    regime.GoodItems store (items.eraseIdxIfInBounds index) := by
  refine good.of_sublist ?_
  rw [Array.toList_eraseIdxIfInBounds]
  exact List.eraseIdx_sublist _ _

theorem GoodItems.later {later : Store} (kept : regime.Kept store later) :
    regime.GoodItems later items :=
  ⟨good.fits, fun item member => lawful.stable kept (good.good item member)⟩

theorem GoodItems.of_perm {rearranged : List Value} (perm : rearranged.Perm items.toList) :
    regime.GoodItems store rearranged.toArray := by
  refine .of_list (lawful.smaller perm.length_eq.le good.fits) fun item member => ?_
  exact good.good item (Array.mem_toList_iff.mp (perm.mem_iff.mp member))

end

/-! ## Operators -/

theorem size_appendRepeated (items : Array Value) (count : Nat) (written : Array Value) :
    (Operator.appendRepeated items count written).size = written.size + items.size * count := by
  induction count generalizing written with
  | zero => rfl
  | succ count ih =>
    rw [Operator.appendRepeated, ih, Array.size_append, Nat.mul_succ]
    omega

theorem mem_of_mem_appendRepeated {count : Nat} {written : Array Value} {item : Value}
    (member : item ∈ Operator.appendRepeated items count written) :
    item ∈ written ∨ item ∈ items := by
  induction count generalizing written with
  | zero => exact .inl member
  | succ count ih =>
    obtain earlier | here := ih member
    · exact Array.mem_append.mp earlier
    · exact .inr here

theorem runs_add (goodLeft : regime.Good store left) (goodRight : regime.Good store right) :
    regime.Runs regime.Good (Operator.add left right) store := by
  unfold Operator.add
  split
  · exact .pure (lawful.number store _)
  · next first second =>
    refine .lifting fun _ checked => .pure (lawful.string.mpr (lawful.checked ?_))
    rw [String.utf8ByteSize_append]
    exact checkLength_eq_ok_iff.mp checked
  · next first second =>
    refine .arrayOf (.arrayOf (.lifting fun _ checked => ?_))
    refine .newArray ⟨lawful.checked ?_, fun item member => ?_⟩
    · rw [Array.size_append]
      exact checkLength_eq_ok_iff.mp checked
    · obtain here | there := Array.mem_append.mp member
      · exact (lawful.items goodLeft).good item here
      · exact (lawful.items goodRight).good item there
  · next first second =>
    have goodUnion : regime.GoodEntries store
        (Operator.union (store.object first) (store.object second)).entries := by
      refine GoodEntries.insertAll (fun entry member => ?_) (lawful.entries goodRight)
      exact lawful.entries goodLeft entry (List.mem_of_mem_filter member)
    exact .objectOf (.objectOf (lawful.addObject goodUnion))
  · exact .throw _

theorem runs_multiply (goodLeft : regime.Good store left) :
    regime.Runs regime.Good (Operator.multiply left right) store := by
  unfold Operator.multiply
  split
  · exact .pure (lawful.number store _)
  · next text x =>
    refine .lifting fun count _ => .lifting fun times counted => ?_
    refine .pure (lawful.string.mpr (lawful.checked ?_))
    rw [Text.bytes_repeated]
    exact repetitions_eq_ok counted
  · next ref x =>
    refine .lifting fun count _ => .arrayOf (.lifting fun times counted => ?_)
    refine .newArray ⟨lawful.checked ?_, fun item member => ?_⟩
    · rw [size_appendRepeated, Array.size_empty, Nat.zero_add]
      exact repetitions_eq_ok counted
    · obtain none | here := mem_of_mem_appendRepeated member
      · exact absurd none (Array.not_mem_empty item)
      · exact (lawful.items goodLeft).good item here
  · exact .throw _

theorem number_of_onNumbers {operation : Float → Float → Except ErrorKind Float}
    (computed : Operator.onNumbers op operation left right = .ok value) :
    ∃ x, value = .number x := by
  unfold Operator.onNumbers at computed
  split at computed
  · next first second =>
    cases result : operation first second with
    | error kind =>
      rw [result] at computed
      cases computed
    | ok x =>
      rw [result] at computed
      cases computed
      exact ⟨x, rfl⟩
  · cases computed

theorem number_of_onIntegers {operation : Int64 → Int64 → Except ErrorKind Int64}
    (computed : Operator.onIntegers op operation left right = .ok value) :
    ∃ x, value = .number x := by
  unfold Operator.onIntegers at computed
  split at computed
  · split at computed
    · next first second _ _ =>
      cases result : operation (Int64.ofInt first) (Int64.ofInt second) with
      | error kind =>
        rw [result] at computed
        cases computed
      | ok x =>
        rw [result] at computed
        cases computed
        exact ⟨_, rfl⟩
    · cases computed
  · cases computed

theorem boolean_of_compare {onFloats : Float → Float → Bool} {onTexts : String → String → Bool}
    (computed : Operator.compare op onFloats onTexts left right = .ok value) :
    ∃ answer, value = .boolean answer := by
  unfold Operator.compare at computed
  split at computed <;> cases computed <;> exact ⟨_, rfl⟩

theorem boolean_of_elemOf (computed : Operator.elemOf store left right = .ok value) :
    ∃ answer, value = .boolean answer := by
  unfold Operator.elemOf at computed
  split at computed <;> cases computed <;> exact ⟨_, rfl⟩

/-- Operators other than `+` and `*` give a boolean or a number. -/
theorem scalar_of_pureBinary (computed : Operator.pureBinary store op left right = .ok value) :
    (∃ answer, value = .boolean answer) ∨ ∃ x, value = .number x := by
  cases op <;> simp only [Operator.pureBinary] at computed
  case sub | div | mod | pow => exact .inr (number_of_onNumbers computed)
  case eq | notEq =>
    cases computed
    exact .inl ⟨_, rfl⟩
  case lt | ltEq | gt | gtEq => exact .inl (boolean_of_compare computed)
  case elemOf => exact .inl (boolean_of_elemOf computed)
  case bitAnd | bitOr | bitXor | shiftLeft | shiftRight =>
    exact .inr (number_of_onIntegers computed)
  case add | mul => cases computed

/-- Operators keep to every regime. -/
theorem runs_binary (goodLeft : regime.Good store left) (goodRight : regime.Good store right) :
    regime.Runs regime.Good (Operator.binary op left right) store := by
  unfold Operator.binary
  split
  · exact runs_add goodLeft goodRight
  · exact runs_multiply goodLeft
  · refine .get ((Runs.lift _).imp fun after value _ computed => ?_)
    obtain ⟨answer, rfl⟩ | ⟨x, rfl⟩ := scalar_of_pureBinary computed
    · exact lawful.boolean after answer
    · exact lawful.number after x

end Regime

/-! ## Functions without callbacks -/

section Libraries

variable {regime : Regime} [lawful : regime.Lawful] {store : Store}

theorem MathFunction.runs_body (function : MathFunction) :
    regime.Runs regime.Good (function.body arguments) store := by
  have returned {later : Store} (x : Float) : regime.Runs regime.Good (pure (.number x)) later :=
    .pure (lawful.number later x)
  have failed (message : String) (x : Float) :
      regime.Runs regime.Good (Run.failWith message >>= fun _ : Unit => pure (.number x)) store :=
    lawful.broken (lawful.refl store)
  have folded (ref : ArrayRef) (fold : List Float → Float) :
      regime.Runs regime.Good (Run.arrayOf ref >>= fun items =>
        Run.lift (numbers items.toList) >>= fun values => pure (.number (fold values))) store :=
    .arrayOf (.lifting fun values _ => returned (fold values))
  unfold body
  split
  -- The square root, the bounds and the logarithm are checked.
  case h_2 x | h_17 x =>
    simp only
    split
    · exact failed _ _
    · exact returned _
  case h_13 x low high =>
    simp only
    split
    · exact failed _ _
    · exact returned _
  case h_10 ref | h_12 ref => exact folded ref _
  case h_19 => exact .throw _
  all_goals exact returned _

/-- Texts are built within the limit, or their length is given to fit. -/
theorem StringFunction.runs_body (function : StringFunction)
    (good : ∀ argument ∈ arguments, regime.Good store argument)
    (fits : ∀ length, function.unchecked? arguments = some length → regime.Fits length) :
    regime.Runs regime.Good (function.body arguments) store := by
  have number (x : Float) : regime.Runs regime.Good (pure (.number x)) store :=
    .pure (lawful.number store x)
  have boolean (answer : Bool) {later : Store} :
      regime.Runs regime.Good (pure (.boolean answer)) later :=
    .pure (lawful.boolean later answer)
  have string {text : String} (small : regime.Fits text.utf8ByteSize) {later : Store} :
      regime.Runs regime.Good (pure (.string text)) later :=
    .pure (lawful.string.mpr small)
  have written {result : Except ErrorKind String}
      (small : ∀ text, result = .ok text → regime.Fits text.utf8ByteSize) {later : Store} :
      regime.Runs regime.Good (Run.lift result >>= fun text => pure (.string text)) later :=
    .lifting fun text computed => string (small text computed)
  -- What is cut out of an argument fits.
  have cut {text : String} (isArgument : .string text ∈ arguments) {part : String}
      (small : part.utf8ByteSize ≤ text.utf8ByteSize) : regime.Fits part.utf8ByteSize :=
    lawful.smaller small (lawful.string.mp (good _ isArgument))
  unfold body
  split
  case h_1 text => exact number _
  case h_2 text | h_3 text => exact string (fits _ rfl)
  case h_4 text => exact string (cut (by simp) (Text.bytes_trim_le text))
  case h_5 text needle | h_6 text needle | h_7 text needle => exact boolean _
  case h_8 text needle => exact number _
  case h_9 text start =>
    exact .lifting fun _ _ => written fun part sliced => cut (by simp) (bytes_sliceText_le sliced)
  case h_10 text start stop =>
    exact .lifting fun _ _ => .lifting fun _ _ =>
      written fun part sliced => cut (by simp) (bytes_sliceText_le sliced)
  case h_11 text old new =>
    refine written fun part replaced => ?_
    obtain small | small := bytes_replaceText_le replaced
    · exact cut (by simp) small
    · exact lawful.checked small
  case h_12 text separator =>
    refine .newArray (.of_list ?_ fun item member => ?_)
    · rw [List.length_map]
      exact fits _ rfl
    · obtain ⟨part, isPart, rfl⟩ := List.mem_map.mp member
      exact lawful.string.mpr (cut (by simp) (Text.bytes_le_of_mem_split isPart))
  case h_13 text count =>
    exact .lifting fun _ _ => written fun part repeats =>
      lawful.checked (bytes_repeatText_le repeats)
  case h_14 text index =>
    exact .lifting fun _ _ => written fun part found => cut (by simp) (bytes_charText_le found)
  case h_15 text pattern => exact .lifting fun _ _ => boolean _
  case h_16 text pattern replacement =>
    refine .lifting fun found reads => string (fits _ ?_)
    rw [unchecked?, reads]
  case h_17 => exact .throw _

theorem ObjectFunction.runs_entryArray {entry : String × Value}
    (good : regime.GoodEntry store entry) : regime.Runs regime.Good (entryArray entry) store := by
  have small : 2 ≤ maxSequenceLength := by decide
  refine .newArray ⟨lawful.checked small, fun item member => ?_⟩
  obtain rfl | rfl : item = .string entry.1 ∨ item = entry.2 := by simpa using member
  · exact lawful.string.mpr good.1
  · exact good.2

theorem ObjectFunction.runs_body (function : ObjectFunction)
    (good : ∀ argument ∈ arguments, regime.Good store argument)
    (fits : ∀ length, function.unchecked? store arguments = some length → regime.Fits length)
    (mutable : ∀ container, (Native.objects function).mutated? arguments = some container →
      regime.Mutable container) :
    regime.Runs regime.Good (function.body arguments) store := by
  have entries {ref : ObjectRef} (isArgument : .object ref ∈ arguments) :=
    lawful.entries (good _ isArgument)
  unfold body
  split
  · next ref =>
    refine .objectOf (.newArray (.of_list ?_ fun item member => ?_))
    · rw [List.length_map, OrderedMap.keys, Entries.keys, List.length_map]
      exact fits _ rfl
    · obtain ⟨key, isKey, rfl⟩ := List.mem_map.mp member
      obtain ⟨entry, isEntry, rfl⟩ := List.mem_map.mp isKey
      exact lawful.string.mpr (entries (by simp) entry isEntry).1
  · next ref =>
    refine .objectOf (.newArray (.of_list ?_ fun item member => ?_))
    · rw [OrderedMap.values, List.length_map]
      exact fits _ rfl
    · obtain ⟨entry, isEntry, rfl⟩ := List.mem_map.mp member
      exact (entries (by simp) entry isEntry).2
  · next ref key => exact .objectOf (.pure (lawful.boolean store _))
  · next ref key =>
    refine .objectOf ?_
    split
    · next value found =>
      have kept : regime.Kept store (store.modifyObject ref fun entries => entries.erase key) :=
        lawful.modifyObject (mutable _ rfl) fun entry member =>
          entries (by simp) entry (List.mem_of_mem_filter member)
      refine .bind (.modify kept) fun _ after later _ => .pure ?_
      have isEntry := Entries.mem_of_lookup found
      exact lawful.stable later (entries (by simp) _ isEntry).2
    · exact .throw _
  · next ref => exact .objectOf (.pure (lawful.number store _))
  · next ref =>
    have paired : regime.Runs (fun after pairs =>
        pairs.length = (store.object ref).entries.length ∧ ∀ pair ∈ pairs, regime.Good after pair)
        ((store.object ref).entries.mapM entryArray) store :=
      .mapM (Regime.stable_goodEntry) (Regime.stable_good)
        (fun entry _ goodEntry => runs_entryArray goodEntry) (entries (by simp))
    refine .objectOf (.bind paired fun pairs _ _ ⟨sameLength, goodPairs⟩ => ?_)
    exact .newArray (.of_list (sameLength ▸ fits _ rfl) goodPairs)
  · next target source =>
    refine .objectOf (.bind (.modify ?_) fun _ after later _ => .pure ?_)
    · exact lawful.modifyObject (mutable _ rfl) ((entries (by simp)).insertAll (entries (by simp)))
    · exact lawful.stable later (good _ (by simp))
  · exact .throw _

theorem JsonFunction.runs_body (function : JsonFunction)
    (good : ∀ argument ∈ arguments, regime.Good store argument)
    (fits : ∀ length, function.unchecked? store arguments = some length → regime.Fits length) :
    regime.Runs regime.Good (function.body arguments) store := by
  have written (value : Value) (text : Json → String)
      (small : ∀ json, store.toJson value = .ok json → regime.Fits (text json).utf8ByteSize) :
      regime.Runs regime.Good (document value >>= fun json => pure (.string (text json)))
        store := by
    have read : regime.Runs (fun _ json => store.toJson value = .ok json) (document value)
        store := by
      refine .get ?_
      split
      · next json computed => exact .pure computed
      · exact .throw _
    refine .bind read fun json _ _ computed => ?_
    exact .pure (lawful.string.mpr (small json computed))
  unfold body
  split
  · next value =>
    refine written value Json.compact fun json computed => fits _ ?_
    rw [unchecked?, computed]
    rfl
  · next value =>
    refine written value Json.pretty fun json computed => fits _ ?_
    rw [unchecked?, computed]
    rfl
  · next text =>
    split
    · next json reads =>
      have small := lawful.string.mp (good (.string text) (by simp))
      exact Regime.kept_ofJson small json store (Json.sized_of_ofText? reads)
    · exact .throw _
  · exact .throw _

theorem DebugFunction.runs_body (site : CallSite) (function : DebugFunction) :
    regime.Runs regime.Good (function.body site arguments) store := by
  have checked (condition : Value) (message : String) :
      regime.Runs regime.Good (check site condition message) store := by
    refine .get ?_
    split
    · exact .pure (lawful.null store)
    · exact .throw _
  unfold body
  split
  · refine .get (.bind (.modify (lawful.log store _)) fun _ after _ _ => ?_)
    exact .pure (lawful.null after)
  · exact checked _ _
  · exact checked _ _
  · exact .throw _

end Libraries

/-! ## Functions that call back -/

section Callbacks

variable {regime : Regime} [lawful : regime.Lawful] {site : CallSite}
variable {store : Store} {callback : Value}

/-- A function that is called with values that may be used returns one. -/
def Regime.Calls (regime : Regime) (site : CallSite) (callback : Value) : Prop :=
  ∀ values store, regime.Good store callback → (∀ value ∈ values, regime.Good store value) →
    regime.Runs regime.Good (site.call callback values) store

variable (calls : regime.Calls site callback)

namespace ArrayFunction

include calls

theorem runs_comparatorLess (good : regime.Good store callback) (goodLeft : regime.Good store left)
    (goodRight : regime.Good store right) :
    regime.Runs (fun _ _ => True) (comparatorLess site callback left right) store := by
  refine .bind (calls _ _ good ?_) fun answer _ _ _ => ?_
  · simpa using ⟨goodLeft, goodRight⟩
  · exact .lifting fun _ _ => .pure trivial

variable {items : List Value}

/-- Calls are made with items, and give values that may be used. -/
def GoodCalls (regime : Regime) (items : List Value) (store : Store)
    (found : List ItemCall) : Prop :=
  found.map (·.item) <+: items ∧ ∀ call ∈ found, regime.Good store call.value

theorem runs_callEach (decides : ItemCall → Bool) (good : regime.Good store callback)
    (goodItems : ∀ item ∈ items, regime.Good store item) :
    regime.Runs (GoodCalls regime items) (callEach site callback decides items) store := by
  induction items generalizing store with
  | nil => exact .pure ⟨List.nil_prefix, List.forall_mem_nil _⟩
  | cons item items ih =>
    obtain ⟨goodItem, goodItems⟩ := List.forall_mem_cons.mp goodItems
    refine .bind (calls _ _ good (List.forall_mem_singleton.mpr goodItem))
      fun value after kept goodValue => .get ?_
    split
    · exact .pure ⟨⟨items, rfl⟩, List.forall_mem_singleton.mpr goodValue⟩
    · have rest := ih (lawful.stable kept good)
        fun item member => lawful.stable kept (goodItems item member)
      refine .bind rest fun found last later ⟨front, goodValues⟩ => .pure ?_
      exact ⟨List.cons_prefix_cons.mpr ⟨rfl, front⟩,
        List.forall_mem_cons.mpr ⟨lawful.stable later goodValue, goodValues⟩⟩

omit calls in
/-- What is made of calls is made of their items or of their values. -/
theorem runs_finish (function : ArrayFunction) {found : List ItemCall} {items : Array Value}
    (good : regime.GoodItems store items) (goodCalls : GoodCalls regime items.toList store found) :
    regime.Runs regime.Good (function.finish found) store := by
  obtain ⟨front, goodValues⟩ := goodCalls
  cases function with
  | map =>
    refine .newArray (.of_list (lawful.smaller ?_ good.fits) ?_)
    · simpa using front.length_le
    · rintro _ member
      obtain ⟨call, isCall, rfl⟩ := List.mem_map.mp member
      exact goodValues call isCall
  | filter => exact .newArray (good.of_sublist ((List.filter_sublist.map _).trans front.sublist))
  | find =>
    refine .pure ?_
    cases decisive : found.find? (·.accepted) with
    | none => exact lawful.null store
    | some call =>
      have isItem := front.subset (List.mem_map_of_mem (List.mem_of_find?_eq_some decisive))
      exact good.good _ (Array.mem_toList_iff.mp isItem)
  | any | all => exact .pure (lawful.boolean store _)
  | _ => exact .throw _

/-! ## Functions on arrays -/

omit calls in
theorem runs_sliceItems {items : Array Value} (good : regime.GoodItems store items) (start : Int)
    (stop : Option Int) : regime.Runs regime.Good (sliceItems items start stop) store := by
  refine .lifting fun bounds _ => .newArray (good.of_sublist ?_)
  rw [Array.toList_extract, List.extract_eq_take_drop]
  exact (List.take_sublist _ _).trans (List.drop_sublist _ _)

omit calls in
/-- An array is changed, and something is returned that was there before. -/
theorem runs_change {ref : ArrayRef} {change : Array Value → Array Value} {result : Value}
    (mutable : regime.Mutable (.array ref))
    (goodItems : regime.GoodItems store (change (store.array ref)))
    (goodResult : regime.Good store result) :
    regime.Runs regime.Good (do
      modify fun store => store.modifyArray ref change
      return result) store := by
  refine .bind (.modify (lawful.modifyArray mutable goodItems)) fun _ _ kept _ => ?_
  exact .pure (lawful.stable kept goodResult)

omit calls in
theorem runs_body (function : ArrayFunction)
    (calls : ∀ callback ∈ arguments, regime.Calls site callback)
    (good : ∀ argument ∈ arguments, regime.Good store argument)
    (fits : ∀ length, function.unchecked? store arguments = some length → regime.Fits length)
    (mutable : ∀ container, (Native.arrays function).mutated? arguments = some container →
      regime.Mutable container) :
    regime.Runs regime.Good (function.body site arguments) store := by
  have items (ref : ArrayRef) (isArgument : .array ref ∈ arguments) :=
    lawful.items (good _ isArgument)
  have number (x : Float) {later : Store} : regime.Runs regime.Good (pure (.number x)) later :=
    .pure (lawful.number later x)
  -- The items of an array argument, as a list, with the function that is called for each.
  have listed (ref : ArrayRef) (isArgument : .array ref ∈ arguments) :
      ∀ item ∈ (store.array ref).toList, regime.Good store item := fun item member =>
    (items ref isArgument).good item (Array.mem_toList_iff.mp member)
  by_cases callsBack : function ∈ callingBack
  · obtain ⟨ref, callback, rfl⟩ | malformed := arguments_of_callingBack callsBack arguments
    · rw [body_of_callingBack callsBack]
      refine .arrayOf (.bind (runs_callEach (calls callback (by simp)) _
        (good callback (by simp)) (listed ref (by simp))) fun found _ kept goodCalls => ?_)
      exact runs_finish function ((items ref (by simp)).later kept) goodCalls
    · rw [malformed]
      exact .throw _
  unfold body
  split
  · next ref => exact .arrayOf (number _)
  · next ref value =>
    have pushed := (items ref (by simp)).push (good value (by simp)) (fits _ rfl)
    exact .arrayOf (runs_change (mutable _ rfl) pushed (lawful.number store _))
  · next ref =>
    refine .arrayOf ?_
    split
    · next last found =>
      have isGood := (items ref (by simp)).good last (Array.mem_of_back? found)
      exact runs_change (mutable _ rfl) ((items ref (by simp)).pop) isGood
    · exact .throw _
  · next ref index value =>
    refine .arrayOf (.lifting fun _ _ => .lifting fun position _ => ?_)
    have inserted := (items ref (by simp)).insertIdxIfInBounds (good value (by simp))
      (fits _ rfl) position
    exact runs_change (mutable _ rfl) inserted (lawful.null store)
  · next ref index =>
    refine .arrayOf (.lifting fun _ _ => .lifting fun position _ => .arrayOf ?_)
    have erased := (items ref (by simp)).eraseIdxIfInBounds position
    refine runs_change (mutable _ rfl) erased ?_
    rw [Array.getD_eq_getD_getElem?]
    cases found : (store.array ref)[position]? with
    | none => exact lawful.null store
    | some removed => exact (items ref (by simp)).good removed (Array.mem_of_getElem? found)
  · next ref value => exact .get (number _)
  · next ref value => exact .get (.pure (lawful.boolean store _))
  · next ref start =>
    refine .arrayOf (.lifting fun _ _ => ?_)
    exact runs_sliceItems (items ref (by simp)) _ _
  · next ref start stop =>
    refine .arrayOf (.lifting fun _ _ => .lifting fun _ _ => ?_)
    exact runs_sliceItems (items ref (by simp)) _ _
  · next ref =>
    have reversed := (items ref (by simp)).of_perm (List.reverse_perm _)
    rw [← Array.toList_reverse, Array.toArray_toList] at reversed
    exact .arrayOf (.newArray reversed)
  · next ref =>
    have sorts := Regime.runs_sort (Regime.stable_good)
      (fun left right _ _ _ => (Regime.Runs.lift (naturalLess left right)).imp
        fun _ _ _ _ => trivial) (listed ref (by simp))
    refine .arrayOf (.bind sorts fun sorted _ kept perm => ?_)
    exact .newArray (((items ref (by simp)).later kept).of_perm perm)
  · next ref comparator =>
    have sorts := Regime.runs_sort (Regime.stable_goodPair)
      (fun left right _ goodLeft goodRight =>
        runs_comparatorLess (calls comparator (by simp)) goodLeft.1 goodLeft.2 goodRight.2)
      fun item member => ⟨good comparator (by simp), listed ref (by simp) item member⟩
    refine .arrayOf (.bind sorts fun sorted _ kept perm => ?_)
    exact .newArray (((items ref (by simp)).later kept).of_perm perm)
  case h_13 | h_14 | h_15 | h_16 | h_17 => simp [callingBack] at callsBack
  · next ref separator =>
    refine .get (.lifting fun joined joins => ?_)
    exact .pure (lawful.string.mpr (lawful.checked (bytes_joinItems_le joins)))
  · next ref value =>
    have filled := (items ref (by simp)).fill (good value (by simp))
    exact runs_change (mutable _ rfl) filled (good _ (by simp))
  · exact .throw _

end ArrayFunction

/-! ## Dispatch -/

omit calls

/-- A native function that is called with values that may be used returns one, if what it
builds unchecked fits, what it changes may be changed, and what it is given to call does so
as well. -/
theorem Native.runs_dispatch (function : Native)
    (calls : ∀ callback ∈ arguments, regime.Calls site callback)
    (good : ∀ argument ∈ arguments, regime.Good store argument)
    (fits : ∀ length, function.unchecked? store arguments = some length → regime.Fits length)
    (mutable : ∀ container, function.mutated? arguments = some container →
      regime.Mutable container) :
    regime.Runs regime.Good (function.dispatch site arguments) store := by
  unfold dispatch
  split
  · exact .throw _
  · split
    · exact .throw _
    · refine .mapError ?_
      cases function with
      | math function => exact function.runs_body
      | strings function => exact function.runs_body good fits
      | arrays function => exact function.runs_body calls good fits mutable
      | objects function => exact function.runs_body good fits mutable
      | json function => exact function.runs_body good fits
      | debug function => exact function.runs_body site

end Callbacks

section Relating

variable {Related : Store → Store → Prop} {Mutable : Value → Prop}
variable (lawful : (Regime.relating Related Mutable).Lawful)

include lawful

theorem Operator.related_binary (op : BinaryOp) (left right : Value) (store : Store) :
    Related store (Run.finalStore (binary op left right store)) :=
  Regime.runs_relating_iff.mp
    (Regime.runs_binary trivial trivial : (Regime.relating Related Mutable).Runs _ _ store)

/-- A native function relates stores as its changes and those of the functions it is given do. -/
theorem Native.related_dispatch {function : Native} {site : CallSite}
    (calls : ∀ callback ∈ arguments, ∀ values store,
      Related store (Run.finalStore (site.call callback values store)))
    (mutable : ∀ container, function.mutated? arguments = some container → Mutable container)
    (store : Store) :
    Related store (Run.finalStore (function.dispatch site arguments store)) :=
  Regime.runs_relating_iff.mp (function.runs_dispatch
    (fun callback member values later _ _ =>
      Regime.runs_relating_iff.mpr (calls callback member values later))
    (fun _ _ => trivial) (fun _ _ => trivial) mutable)

end Relating
end PatchScript
