import PatchScript.Proofs.Evaluate.Indices

/-!
# Searching a text

The functions that look for one text in another agree with each other, and with those that cut a
part out of a text: what is found at a position is what stands there.  Positions count characters.
-/

namespace PatchScript
namespace Text

variable {needle text : List Char} {position : Nat}

/-- A text stands in another at a position, and nowhere before it. -/
def FirstAt (needle text : List Char) (position : Nat) : Prop :=
  (position ≤ text.length ∧ needle <+: text.drop position) ∧
    ∀ earlier < position, ¬ needle <+: text.drop earlier

theorem firstAt_zero : FirstAt needle text 0 ↔ needle <+: text :=
  ⟨fun first => first.1.2, fun head => ⟨⟨Nat.zero_le _, head⟩, nofun⟩⟩

theorem firstAt_succ {c : Char} : FirstAt needle (c :: text) (position + 1) ↔
    ¬ needle <+: c :: text ∧ FirstAt needle text position := by
  simp only [FirstAt, List.drop_succ_cons, List.length_cons, Nat.add_le_add_iff_right,
    Nat.forall_lt_succ_left, List.drop_zero]
  exact and_left_comm

theorem find?_eq_some_iff : find? needle text = some position ↔ FirstAt needle text position := by
  induction text generalizing position with
  | nil => cases position <;> simp [find?, FirstAt]
  | cons c rest ih =>
    rw [find?]
    split
    · next head =>
      have head := List.isPrefixOf_iff_prefix.mp head
      cases position with
      | zero => simp [firstAt_zero, head]
      | succ position => simp [firstAt_succ, head]
    · next other =>
      have other := mt List.isPrefixOf_iff_prefix.mpr other
      cases position with
      | zero => simp [firstAt_zero, other]
      | succ position => simp [firstAt_succ, other, ih]

end Text

/-- The number of a position, or else `-1`. -/
def indexNumber : Option Nat → Float
  | some position => Float.ofNat position
  | none => -1

/-- What the functions on texts say of the first position, if there is one, where a text stands
in another. -/
structure Searched (site : CallSite) (store : Store) (text needle : String)
    (found : Option Nat) : Prop where
  first (position : Nat) : found = some position ↔ Text.FirstAt needle.toList text.toList position
  indexOf : (Native.strings .indexOf).dispatch site [.string text, .string needle] store =
    .ok (.number (indexNumber found)) store
  contains : (Native.strings .contains).dispatch site [.string text, .string needle] store =
    .ok (.boolean found.isSome) store
  startsWith : (Native.strings .startsWith).dispatch site [.string text, .string needle] store =
    .ok (.boolean (found == some 0)) store
  endsWith : ∃ ends,
    (Native.strings .endsWith).dispatch site [.string text, .string needle] store =
        .ok (.boolean ends) store ∧
      (ends = true ↔ needle.length ≤ text.length ∧
        StringFunction.sliceText text ↑(text.length - needle.length) none = .ok needle)
  length : (Native.strings .length).dispatch site [.string needle] store =
    .ok (.number (Float.ofNat needle.length)) store
  between {position : Nat} : found = some position → ∀ x y,
    Decimal.integer? x = some ↑position → Decimal.integer? y = some ↑(position + needle.length) →
    (Native.strings .substring).dispatch site [.string text, .number x, .number y] store =
      .ok (.string needle) store
  after {x : Float} {start : Int} {part : String} : Decimal.integer? x = some start →
    ((Native.strings .substring).dispatch site [.string text, .number x] store =
      .ok (.string part) store ↔ StringFunction.sliceText text start none = .ok part)
  exact : text.length < 2 ^ 53 →
    Decimal.integer? (indexNumber found) = some (found.elim (-1) Nat.cast)

variable {text needle : String} {site : CallSite} {store : Store}

/-- What a function on texts returns is not changed on the way. -/
theorem Native.dispatch_eq_ok_iff {function : Native} {arguments : List Value}
    {kinds : List ParamKind} {result : Value} {after : Store}
    (overload : function.overload? arguments.length = some kinds)
    (accepted : function.checkArguments 1 kinds arguments = .ok ()) :
    function.dispatch site arguments store = .ok result after ↔
      function.body site arguments store = .ok result after := by
  rw [dispatch_of_accepted overload accepted]
  exact Run.mapError_eq_ok_iff

theorem StringFunction.sliceText_from {start : Nat} (inside : start ≤ text.length) :
    sliceText text start none = .ok (String.ofList (text.toList.drop start)) := by
  have resolved : resolveIndex start text.toList.length true = .ok start :=
    resolveIndex_eq_ok_iff.mpr ⟨by simp, Nat.lt_succ_of_le (String.length_toList ▸ inside)⟩
  rw [sliceText, sliceBounds_none, resolved]
  simp [bind, Except.bind, Except.map, pure, Except.pure]

/-- A text ends with another if the other is what is left after as many characters as it is
shorter. -/
theorem StringFunction.isSuffixOf_iff :
    needle.toList.isSuffixOf text.toList = true ↔ needle.length ≤ text.length ∧
      sliceText text ↑(text.length - needle.length) none = .ok needle := by
  rw [sliceText_from (Nat.sub_le ..), List.isSuffixOf_iff_suffix, Except.ok.injEq,
    ← String.toList_inj, String.toList_ofList, ← String.length_toList, ← String.length_toList]
  constructor
  · intro suffix
    exact ⟨suffix.length_le, (List.suffix_iff_eq_drop.mp suffix).symm⟩
  · rintro ⟨-, same⟩
    exact same ▸ List.drop_suffix _ _

end PatchScript
