import PatchScript.Proofs.Run.Lawful

/-!
# Values that read alike

Where the contents of two stores correspond, handle by handle, what is computed from whole
values comes out the same: whether two values are equal, the text of a value, and its
document.  These follow handles as deep as they go, and tell them apart only when they
compare values; so it matters that no two handles stand for one.
-/

namespace PatchScript
namespace Correspondence

variable {rel : Correspondence} {left left' right right' value value' : Value}

/-- A handle stands for one handle only, and only one handle stands for it. -/
structure OneToOne (rel : Correspondence) : Prop where
  objects {ref ref' other other' : ObjectRef} :
    rel.Objects ref ref' → rel.Objects other other' → (ref = other ↔ ref' = other')
  arrays {ref ref' other other' : ArrayRef} :
    rel.Arrays ref ref' → rel.Arrays other other' → (ref = other ↔ ref' = other')
  functions {ref ref' other other' : FunctionRef} :
    rel.Functions ref ref' → rel.Functions other other' → (ref = other ↔ ref' = other')
  frames {ref ref' other other' : FrameRef} :
    rel.Frames ref ref' → rel.Frames other other' → (ref = other ↔ ref' = other')

/-- Stores with corresponding contents. -/
structure Contents (rel : Correspondence) (store store' : Store) : Prop where
  object {ref ref' : ObjectRef} :
    rel.Objects ref ref' → rel.Members (store.object ref) (store'.object ref')
  array {ref ref' : ArrayRef} :
    rel.Arrays ref ref' → rel.Items (store.array ref) (store'.array ref')
  function {ref ref' : FunctionRef} :
    rel.Functions ref ref' →
    Option.Rel rel.Callables (store.function ref) (store'.function ref')
  frame {ref ref' : FrameRef} :
    rel.Frames ref ref' →
    rel.Bindings (store.frames.get ref) (store'.frames.get ref')

theorem OneToOne.between (oneToOne : rel.OneToOne) (Stores : Store → Store → Prop) :
    (rel.between Stores).OneToOne :=
  ⟨oneToOne.objects, oneToOne.arrays, oneToOne.functions, oneToOne.frames⟩

theorem Contents.between {store store' : Store} (contents : rel.Contents store store')
    (Stores : Store → Store → Prop) : (rel.between Stores).Contents store store' where
  object refs := by
    rw [between_members]
    exact contents.object refs
  array refs := by
    rw [between_items]
    exact contents.array refs
  function refs := by
    rw [between_callables]
    exact contents.function refs
  frame refs := by
    rw [sameHandles_between.bindings_eq]
    exact contents.frame refs

/-! ## Lists that are read alike -/

section Lists

variable {α β γ : Type} {Related : α → β → Prop} {items : List α} {items' : List β}

section

variable (related : List.Forall₂ Related items items')
include related

theorem forall₂_all_eq {test : α → Bool} {test' : β → Bool}
    (same : ∀ item item', Related item item' → test item = test' item') :
    items.all test = items'.all test' := by
  induction related with
  | nil => rfl
  | cons first _ ih => rw [List.all_cons, List.all_cons, same _ _ first, ih]

theorem forall₂_zip {others : List α} {others' : List β}
    (otherRelated : List.Forall₂ Related others others') :
    List.Forall₂ (fun pair pair' => Related pair.1 pair'.1 ∧ Related pair.2 pair'.2)
      (items.zip others) (items'.zip others') := by
  induction related generalizing others others' with
  | nil => exact .nil
  | cons first _ ih =>
    cases otherRelated with
    | nil => exact .nil
    | cons second rest => exact .cons ⟨first, second⟩ (ih rest)

theorem forall₂_mapM_eq {m : Type → Type} [Monad m] [LawfulMonad m] {action : α → m γ}
    {action' : β → m γ} (same : ∀ item item', Related item item' → action item = action' item') :
    items.mapM action = items'.mapM action' := by
  induction related with
  | nil => rfl
  | cons first _ ih => rw [List.mapM_cons, List.mapM_cons, same _ _ first, ih]

end

theorem writeList_eq (limit : Option Nat) {writeItem : α → String → Store.Writing}
    {writeItem' : β → String → Store.Writing} (related : List.Forall₂ Related items items')
    (same : ∀ item item', Related item item' → writeItem item = writeItem' item')
    (written : String) :
    Store.writeList limit writeItem items written =
      Store.writeList limit writeItem' items' written := by
  induction related generalizing written with
  | nil => rfl
  | cons first rest ih =>
    cases rest with
    | nil => exact congrFun (same _ _ first) written
    | cons second rest => simp only [Store.writeList, same _ _ first, ih]

end Lists

/-! ## Values -/

variable {store store' : Store} (contents : rel.Contents store store')

include contents

theorem Contents.equalWithin_eq (oneToOne : rel.OneToOne) (levels : Nat)
    (lefts : rel.Values left left') (rights : rel.Values right right') :
    store.equalWithin levels left right = store'.equalWithin levels left' right' := by
  induction levels generalizing left left' right right' with
  | zero => rfl
  | succ levels ih =>
    cases lefts with
    | array refs =>
      cases rights with
      | array others =>
        have same := oneToOne.arrays refs others
        have items := contents.array refs
        have otherItems := contents.array others
        rw [Store.equalWithin, Store.equalWithin, items.size_eq, otherItems.size_eq,
          forall₂_all_eq (forall₂_zip items otherItems) fun _ _ pairs => ih pairs.1 pairs.2]
        simp only [BEq.beq, same]
      | _ => rfl
    | @object ref ref' refs =>
      cases rights with
      | @object other other' others =>
        have same := oneToOne.objects refs others
        have members := contents.object refs
        have otherMembers := contents.object others
        have sameRef : (ref == other) = (ref' == other') := by simp only [BEq.beq, same]
        rw [Store.equalWithin, Store.equalWithin, members.size_eq, otherMembers.size_eq, sameRef]
        congr 2
        refine forall₂_all_eq members fun entry entry' related => ?_
        have found := otherMembers.get? entry.1
        rw [← related.1]
        generalize (store.object other).get? entry.1 = value,
          (store'.object other').get? entry.1 = value' at found
        cases found with
        | some values => exact ih related.2 values
        | none => rfl
      | _ => rfl
    | function refs =>
      cases rights with
      | function others => simp only [Store.equalWithin, BEq.beq, oneToOne.functions refs others]
      | _ => rfl
    | _ => cases rights <;> rfl

theorem Contents.equal_eq (oneToOne : rel.OneToOne) (lefts : rel.Values left left')
    (rights : rel.Values right right') : store.equal left right = store'.equal left' right' :=
  contents.equalWithin_eq oneToOne _ lefts rights

variable (named : ∀ definition definition', rel.Definitions definition definition' →
  definition.name = definition'.name)

include named

theorem Contents.describeFunction_eq {ref ref' : FunctionRef} (refs : rel.Functions ref ref') :
    store.describeFunction ref = store'.describeFunction ref' := by
  have found := contents.function refs
  rw [Store.describeFunction, Store.describeFunction]
  generalize store.function ref = callable, store'.function ref' = callable' at found
  cases found with
  | none => rfl
  | some callables =>
    cases callables with
    | script definitions => simp only [Callable.describe, named _ _ definitions]
    | native | bound => rfl

theorem Contents.writeValue_eq (limit : Option Nat) (levels : Nat)
    (values : rel.Values value value') :
    store.writeValue limit levels value = store'.writeValue limit levels value' := by
  induction levels generalizing value value' with
  | zero => rfl
  | succ levels ih =>
    funext written
    cases values with
    | array refs =>
      simp only [Store.writeValue, writeList_eq limit (contents.array refs) fun _ _ => ih]
    | object refs =>
      have entries (entry entry' : String × Value)
          (related : entry.1 = entry'.1 ∧ rel.Values entry.2 entry'.2) :
          (fun written => Store.writeQuoted limit entry.1 "\": " written >>=
            store.writeValue limit levels entry.2) =
          fun written => Store.writeQuoted limit entry'.1 "\": " written >>=
            store'.writeValue limit levels entry'.2 := by
        rw [related.1, ih related.2]
      simp only [Store.writeValue, writeList_eq limit (contents.object refs) entries]
    | function refs => simp only [Store.writeValue, contents.describeFunction_eq named refs]
    | _ => rfl

theorem Contents.displayText_eq (values : rel.Values value value') :
    store.displayText value = store'.displayText value' := by
  have rendered : store.renderWithin (some maxSequenceLength) value =
      store'.renderWithin (some maxSequenceLength) value' := by
    rw [Store.renderWithin, Store.renderWithin, contents.writeValue_eq named _ _ values]
  cases values with
  | string => rfl
  | _ => exact rendered

theorem Contents.writeWithin_eq (levels : Nat) (values : rel.Values value value') :
    Document.writeWithin store levels value = Document.writeWithin store' levels value' := by
  induction levels generalizing value value' with
  | zero => rfl
  | succ levels ih =>
    cases values with
    | array refs =>
      simp only [Document.writeWithin, forall₂_mapM_eq (contents.array refs) fun _ _ => ih]
    | object refs =>
      have entries (entry entry' : String × Value)
          (related : entry.1 = entry'.1 ∧ rel.Values entry.2 entry'.2) :
          (Document.writeWithin store levels entry.2 >>= fun json =>
            (pure (entry.1, json) : Document.Writer (String × Json))) =
          Document.writeWithin store' levels entry'.2 >>= fun json => pure (entry'.1, json) := by
        rw [related.1, ih related.2]
      simp only [Document.writeWithin, forall₂_mapM_eq (contents.object refs) entries]
    | function refs => simp only [Document.writeWithin, contents.describeFunction_eq named refs]
    | _ => rfl

theorem Contents.toJson_eq (values : rel.Values value value') :
    store.toJson value = store'.toJson value' := by
  rw [Store.toJson, Store.toJson, contents.writeWithin_eq named _ values]

end Correspondence
end PatchScript
