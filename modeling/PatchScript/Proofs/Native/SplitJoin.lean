import PatchScript.Proofs.Native.SizeGuards

/-!
# Splitting, joining and replacing

A text that is split can be joined again, and joining the parts with another text is replacing
the separator by it.  The two check the size in different ways, but against the same text.
-/

namespace PatchScript

variable {store : Store} {text separator : String}

/-- The parts of a text as values. -/
def partsOf (text separator : String) : Array Value :=
  ((Text.split separator.toList text.toList).map fun part =>
    Value.string (String.ofList part)).toArray

namespace Native

variable (site : CallSite) (store : Store)

/-- Split a text and join the parts. -/
def splitThenJoin (text separator glue : String) : Run Value := do
  let parts ← (Native.strings .split).dispatch site [.string text, .string separator]
  (Native.arrays .join).dispatch site [parts, .string glue]

theorem dispatch_split (text separator : String) :
    (Native.strings .split).dispatch site [.string text, .string separator] store =
      Run.newArray (partsOf text separator) store :=
  rfl

/-- The texts that are joined are the parts. -/
theorem splitThenJoin_apply (text separator glue : String) :
    let after := (store.addArray (partsOf text separator)).2
    splitThenJoin site text separator glue store =
      if (Text.exchanged text separator glue).utf8ByteSize ≤ maxSequenceLength then
        .ok (.string (Text.exchanged text separator glue)) after
      else
        .error (.error ((Native.arrays .join).report site.span
          (.sizeLimitExceeded maxSequenceLength))) after := by
  intro after
  have texts : (after.array (store.addArray (partsOf text separator)).1).toList.map
      after.displayText = (Text.split separator.toList text.toList).map String.ofList := by
    rw [(store.added_addArray _).items, partsOf, List.map_map]
    exact List.map_congr_left fun _ _ => rfl
  have joined := buildsText_join site after (store.addArray (partsOf text separator)).1 glue
  rw [BuildsText, texts, ← Text.join_eq_intercalate] at joined
  exact joined

/-- A text that is replaced within the limit. -/
theorem dispatch_replace {old : String} (fits : text.utf8ByteSize ≤ maxSequenceLength)
    (nonempty : old ≠ "") (new : String) :
    BuildsText ((Native.strings .replace).report site.span) store
      ((Native.strings .replace).dispatch site [.string text, .string old, .string new])
      (Text.exchanged text old new) := by
  refine Native.buildsText_dispatch rfl rfl (buildsText_of_limited ?_)
  by_cases longer : old.utf8ByteSize < new.utf8ByteSize
  · rw [← StringFunction.replaceText_of_longer text nonempty longer]
    rfl
  · obtain ⟨replaced, small⟩ :=
      StringFunction.replaceText_of_le text nonempty (Nat.not_lt.mp longer)
    rw [Text.limited, if_pos (Nat.le_trans small fits), ← replaced]
    rfl

end Native

/-- A text that is split and joined with the separator comes out as it was.  With an empty
separator the parts are the characters, and no part has another separator in it.  Replacing such
a separator gives what splitting and joining with the replacement gives, or both are refused. -/
theorem split_join_replace_cohere (site : CallSite) (store : Store) {text : String}
    (fits : text.utf8ByteSize ≤ maxSequenceLength) :
    (∀ separator, ∃ after,
      Native.splitThenJoin site text separator separator store = .ok (.string text) after ∧
        store.Keeps after) ∧
    (∃ ref after, (Native.strings .split).dispatch site [.string text, .string ""] store =
        .ok (.array ref) after ∧
      (after.array ref).toList = text.toList.map fun c => .string (String.singleton c)) ∧
    (∀ separator, separator ≠ "" → ∃ ref after,
      (Native.strings .split).dispatch site [.string text, .string separator] store =
        .ok (.array ref) after ∧
      ∀ item ∈ after.array ref, ∃ part, item = .string part ∧ ¬ separator.toList <:+: part.toList) ∧
    ∀ old new value, old ≠ "" →
      ((∃ after, (Native.strings .replace).dispatch site
          [.string text, .string old, .string new] store = .ok value after) ↔
        ∃ after, Native.splitThenJoin site text old new store = .ok value after) := by
  refine ⟨fun separator => ?_, ⟨_, _, Native.dispatch_split site store text "", ?_⟩,
    fun separator nonempty => ?_, fun old new value nonempty => ?_⟩
  · rw [Native.splitThenJoin_apply, Text.exchanged_self, if_pos fits]
    exact ⟨_, rfl, .addArray store _⟩
  · refine (store.added_addArray (partsOf text "")).items.trans ?_
    exact (List.map_map ..).trans (List.map_congr_left fun _ _ => rfl)
  · let made := store.addArray (partsOf text separator)
    refine ⟨made.1, made.2, Native.dispatch_split site store text separator, fun item member => ?_⟩
    rw [← Array.mem_toList_iff, (store.added_addArray (partsOf text separator)).items] at member
    obtain ⟨part, isPart, rfl⟩ := List.mem_map.mp member
    refine ⟨_, rfl, ?_⟩
    rw [String.toList_ofList]
    exact Text.not_infix_of_mem_split nonempty isPart
  · rw [Native.dispatch_replace site store fits nonempty new, Native.splitThenJoin_apply]
    split <;> simp

/-- A separator that overlaps itself is found from the left. -/
theorem split_join_replace_cohere_overlapping :
    "aaa".utf8ByteSize ≤ maxSequenceLength ∧
      (∃ after, Native.splitThenJoin SizeLimit.place "aaa" "aa" "aa" .empty =
        .ok (.string "aaa") after) ∧
      ∃ after, (Native.strings .replace).dispatch SizeLimit.place
        [.string "aaa", .string "aa", .string "é"] .empty = .ok (.string "éa") after := by
  have fits : "aaa".utf8ByteSize ≤ maxSequenceLength := by decide
  obtain ⟨whole, -, -, same⟩ := split_join_replace_cohere SizeLimit.place .empty fits
  obtain ⟨after, joined, -⟩ := whole "aa"
  refine ⟨fits, ⟨after, joined⟩, (same "aa" "é" _ (by decide)).mpr ?_⟩
  rw [Native.splitThenJoin_apply]
  exact ⟨_, rfl⟩

end PatchScript
