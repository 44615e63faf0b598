import Mathlib.Algebra.Ring.Nat
import PatchScript.Proofs.Traversal
import PatchScript.Store

/-!
# The tree that a value unfolds to

A value holds handles, and following them gives a tree.  Containers that are shared
occur in it as often as they are reached, and where handles form a cycle the tree
is infinite.  `Store.treeWithin` computes the tree down to a number of levels,
`Store.Unfolds` says that a value has a finite tree, and `Store.Occurs` names the
nodes of the tree with their depth, also where it is infinite.
-/

namespace PatchScript

/-- A value with contents in place of handles. -/
inductive Tree where
  | null
  | boolean (value : Bool)
  | number (value : Float)
  | string (value : String)
  | array (items : List Tree)
  | object (members : List (String × Tree))
  | function (ref : FunctionRef)

variable {tree : Tree}

namespace Tree

theorem sizeOf_item_lt {item : Tree} {items : List Tree}
    (member : item ∈ items) : sizeOf item < sizeOf (Tree.array items) := by
  have smaller := List.sizeOf_lt_of_mem member
  rw [Tree.array.sizeOf_spec]
  omega

theorem sizeOf_member_lt {entry : String × Tree} {members : List (String × Tree)}
    (member : entry ∈ members) : sizeOf entry.2 < sizeOf (Tree.object members) := by
  have smaller := List.sizeOf_lt_of_mem member
  rw [Prod.mk.sizeOf_spec] at smaller
  rw [Tree.object.sizeOf_spec]
  omega

/-- Induction over a tree, with the hypothesis for every item and member. -/
@[elab_as_elim, induction_eliminator] theorem induction {motive : Tree → Prop} (null : motive .null)
    (boolean : ∀ value, motive (.boolean value)) (number : ∀ value, motive (.number value))
    (string : ∀ value, motive (.string value))
    (array : ∀ items, (∀ item ∈ items, motive item) → motive (.array items))
    (object : ∀ members, (∀ member ∈ members, motive member.2) → motive (.object members))
    (function : ∀ ref, motive (.function ref)) :
    ∀ tree, motive tree
  | .null => null
  | .boolean value => boolean value
  | .number value => number value
  | .string value => string value
  | .array items =>
    array items fun item _ => induction null boolean number string array object function item
  | .object members =>
    object members fun member _ =>
      induction null boolean number string array object function member.2
  | .function ref => function ref
termination_by tree => sizeOf tree
decreasing_by
  · exact sizeOf_item_lt ‹_›
  · exact sizeOf_member_lt ‹_›

/-- How many nodes a tree has. -/
def nodes : Tree → Nat
  | .array items => (items.map nodes).sum + 1
  | .object members => (members.map fun member => member.2.nodes).sum + 1
  | _ => 1
termination_by tree => sizeOf tree
decreasing_by
  · exact sizeOf_item_lt ‹_›
  · exact sizeOf_member_lt ‹_›

/-- In no object of a tree a key occurs twice. -/
def DistinctKeys : Tree → Prop
  | .array items => ∀ item ∈ items, item.DistinctKeys
  | .object members => (Entries.keys members).Nodup ∧ ∀ member ∈ members, member.2.DistinctKeys
  | _ => True
termination_by tree => sizeOf tree
decreasing_by
  · exact sizeOf_item_lt ‹_›
  · exact sizeOf_member_lt ‹_›

/-- Whether a tree has at most a number of levels. -/
def Within : Nat → Tree → Prop
  | 0, _ => False
  | levels + 1, .array items => ∀ item ∈ items, item.Within levels
  | levels + 1, .object members => ∀ member ∈ members, member.2.Within levels
  | _ + 1, _ => True

theorem Within.mono {fewer more : Nat} (within : tree.Within fewer)
    (atMost : fewer ≤ more) : tree.Within more := by
  induction fewer generalizing more tree with
  | zero => exact within.elim
  | succ fewer ih =>
    obtain ⟨more, rfl⟩ := Nat.exists_eq_succ_of_ne_zero (Nat.ne_of_gt (Nat.zero_lt_of_lt atMost))
    have atMost := Nat.le_of_succ_le_succ atMost
    cases tree with
    | array items => exact fun item member => ih (within item member) atMost
    | object members => exact fun member isMember => ih (within member isMember) atMost
    | _ => trivial

end Tree

namespace Store

variable {value : Value}

/-- The tree of a value if it has at most a number of levels. -/
@[simp] def treeWithin (store : Store) : Nat → Value → Option Tree
  | 0, _ => none
  | levels + 1, value =>
    match value with
    | .null => some .null
    | .boolean value => some (.boolean value)
    | .number value => some (.number value)
    | .string value => some (.string value)
    | .array ref => ((store.array ref).toList.mapM (store.treeWithin levels)).map .array
    | .object ref =>
      ((store.object ref).entries.mapM fun entry =>
        (store.treeWithin levels entry.2).map (entry.1, ·)).map .object
    | .function ref => some (.function ref)

/-- A value has a finite tree. -/
def Unfolds (store : Store) (value : Value) (tree : Tree) : Prop :=
  ∃ levels, store.treeWithin levels value = some tree

/-- A node of the tree of a value, finite or not, at a depth. -/
inductive Occurs (store : Store) : Value → Nat → Value → Prop where
  | here (value : Value) : Occurs store value 0 value
  | item {ref : ArrayRef} {item node : Value} {depth : Nat}
      (isItem : item ∈ (store.array ref).toList)
      (below : Occurs store item depth node) :
      Occurs store (.array ref) (depth + 1) node
  | member {ref : ObjectRef} {entry : String × Value} {node : Value} {depth : Nat}
      (isMember : entry ∈ (store.object ref).entries)
      (below : Occurs store entry.2 depth node) :
      Occurs store (.object ref) (depth + 1) node

theorem Occurs.trans {store : Store} {middle node : Value} {above below : Nat}
    (upper : store.Occurs value above middle) (lower : store.Occurs middle below node) :
    store.Occurs value (below + above) node := by
  induction upper with
  | here _ => exact lower
  | item isItem _ ih => exact .item isItem (ih lower)
  | member isMember _ ih => exact .member isMember (ih lower)

/-- What contains itself occurs at every depth. -/
theorem Occurs.repeat {store : Store} {container : Value} {depth distance : Nat}
    (reached : store.Occurs value depth container)
    (cycle : store.Occurs container (distance + 1) container) (rounds : Nat) :
    store.Occurs value (rounds * (distance + 1) + depth) container := by
  induction rounds with
  | zero => simpa using reached
  | succ rounds ih =>
    have further := ih.trans cycle
    rwa [← Nat.add_assoc, Nat.add_comm (distance + 1), ← Nat.succ_mul] at further

section Levels

variable {store : Store} {levels : Nat}

theorem treeWithin_array {ref : ArrayRef} :
    store.treeWithin (levels + 1) (.array ref) = some tree ↔
      ∃ items, tree = .array items ∧
        List.Forall₂ (fun value item => store.treeWithin levels value = some item)
          (store.array ref).toList items := by
  simp only [treeWithin, Option.map_eq_some_iff, mapM_eq_some_iff]
  constructor
  · rintro ⟨items, unfolded, rfl⟩
    exact ⟨items, rfl, unfolded⟩
  · rintro ⟨items, rfl, unfolded⟩
    exact ⟨items, unfolded, rfl⟩

theorem treeWithin_object {ref : ObjectRef} :
    store.treeWithin (levels + 1) (.object ref) = some tree ↔
      ∃ members, tree = .object members ∧
        List.Forall₂
          (fun entry member => entry.1 = member.1 ∧ store.treeWithin levels entry.2 = some member.2)
          (store.object ref).entries members := by
  simp only [treeWithin, Option.map_eq_some_iff, mapM_second_eq_some_iff]
  constructor
  · rintro ⟨members, unfolded, rfl⟩
    exact ⟨members, rfl, unfolded⟩
  · rintro ⟨members, rfl, unfolded⟩
    exact ⟨members, unfolded, rfl⟩

/-- The tree within a number of levels has no more levels. -/
theorem within_of_treeWithin (unfolded : store.treeWithin levels value = some tree) :
    tree.Within levels := by
  induction levels generalizing value tree with
  | zero => cases unfolded
  | succ levels ih =>
    cases value with
    | array ref =>
      obtain ⟨items, rfl, related⟩ := treeWithin_array.mp unfolded
      intro item member
      obtain ⟨_, _, found⟩ := exists_input_of_mem related member
      exact ih found
    | object ref =>
      obtain ⟨members, rfl, related⟩ := treeWithin_object.mp unfolded
      intro member isMember
      obtain ⟨_, _, _, found⟩ := exists_input_of_mem related isMember
      exact ih found
    | _ =>
      cases unfolded
      trivial

/-- A tree is found with any number of levels that is enough for it. -/
theorem treeWithin_of_within {enough : Nat} (unfolded : store.treeWithin levels value = some tree)
    (within : tree.Within enough) : store.treeWithin enough value = some tree := by
  -- Both bounds go down together; `enough` runs out only where the tree is too high.
  induction levels generalizing enough value tree with
  | zero => cases unfolded
  | succ levels ih =>
    cases enough with
    | zero => exact within.elim
    | succ enough =>
      cases value with
      | array ref =>
        obtain ⟨items, rfl, related⟩ := treeWithin_array.mp unfolded
        refine treeWithin_array.mpr ⟨items, rfl, ?_⟩
        exact forall₂_imp_of_mem related fun _ _ item member found => ih found (within item member)
      | object ref =>
        obtain ⟨members, rfl, related⟩ := treeWithin_object.mp unfolded
        refine treeWithin_object.mpr ⟨members, rfl, ?_⟩
        exact forall₂_imp_of_mem related fun _ _ member isMember found =>
          ⟨found.1, ih found.2 (within member isMember)⟩
      | _ => exact unfolded

theorem treeWithin_mono {more : Nat} (atMost : levels ≤ more)
    (unfolded : store.treeWithin levels value = some tree) :
    store.treeWithin more value = some tree :=
  treeWithin_of_within unfolded ((within_of_treeWithin unfolded).mono atMost)

theorem treeWithin_iff :
    store.treeWithin levels value = some tree ↔ store.Unfolds value tree ∧ tree.Within levels := by
  constructor
  · intro unfolded
    exact ⟨⟨levels, unfolded⟩, within_of_treeWithin unfolded⟩
  · rintro ⟨⟨_, unfolded⟩, within⟩
    exact treeWithin_of_within unfolded within

/-- The keys in the tree of a value are those of its objects, so none occurs twice. -/
theorem distinctKeys_of_treeWithin (unfolded : store.treeWithin levels value = some tree) :
    tree.DistinctKeys := by
  induction levels generalizing value tree with
  | zero => cases unfolded
  | succ levels ih =>
    cases value with
    | array ref =>
      obtain ⟨items, rfl, related⟩ := treeWithin_array.mp unfolded
      rw [Tree.DistinctKeys]
      intro item member
      obtain ⟨_, _, found⟩ := exists_input_of_mem related member
      exact ih found
    | object ref =>
      obtain ⟨members, rfl, related⟩ := treeWithin_object.mp unfolded
      have sameKeys : Entries.keys (store.object ref).entries = Entries.keys members :=
        (map_eq_map_of_forall₂ (related.imp fun _ _ found => found.1.symm)).symm
      rw [Tree.DistinctKeys]
      refine ⟨sameKeys ▸ (store.object ref).distinct, ?_⟩
      intro member isMember
      obtain ⟨_, _, _, found⟩ := exists_input_of_mem related isMember
      exact ih found
    | _ =>
      cases unfolded
      simp [Tree.DistinctKeys]

end Levels

section Rules

variable {store : Store}

theorem Unfolds.array {ref : ArrayRef} {items : List Tree}
    (each : List.Forall₂ store.Unfolds (store.array ref).toList items) :
    store.Unfolds (.array ref) (.array items) := by
  obtain ⟨levels, related⟩ :=
    exists_common_bound (fun levels value item => store.treeWithin levels value = some item)
      (fun _ _ _ _ atMost found => treeWithin_mono atMost found) each
  exact ⟨levels + 1, treeWithin_array.mpr ⟨items, rfl, related⟩⟩

theorem Unfolds.object {ref : ObjectRef} {members : List (String × Tree)}
    (each : List.Forall₂
      (fun entry member => entry.1 = member.1 ∧ store.Unfolds entry.2 member.2)
      (store.object ref).entries members) :
    store.Unfolds (.object ref) (.object members) := by
  obtain ⟨levels, related⟩ := exists_common_bound
    (fun levels (entry : String × Value) (member : String × Tree) =>
      entry.1 = member.1 ∧ store.treeWithin levels entry.2 = some member.2)
    (fun _ _ _ _ atMost found => ⟨found.1, treeWithin_mono atMost found.2⟩)
    (each.imp fun entry member found => exists_and_left.mpr found)
  exact ⟨levels + 1, treeWithin_object.mpr ⟨members, rfl, related⟩⟩

theorem Unfolds.unique {left right : Tree} (unfolds : store.Unfolds value left)
    (unfoldsAlso : store.Unfolds value right) : left = right := by
  obtain ⟨levels, found⟩ := unfolds
  obtain ⟨others, foundAlso⟩ := unfoldsAlso
  have deep := treeWithin_mono (Nat.le_max_left levels others) found
  have deepAlso := treeWithin_mono (Nat.le_max_right levels others) foundAlso
  exact Option.some.inj (deep.symm.trans deepAlso)

/-! ## Depth -/

/-- A value has a tree within a number of levels if and only if no node is deeper. -/
theorem exists_treeWithin_iff {levels : Nat} :
    (∃ tree, store.treeWithin levels value = some tree) ↔
      ∀ depth node, store.Occurs value depth node → depth < levels := by
  constructor
  · rintro ⟨tree, unfolded⟩ depth node occurs
    induction occurs generalizing levels tree with
    | here value =>
      cases levels with
      | zero => cases unfolded
      | succ levels => exact Nat.succ_pos levels
    | item isItem _ ih =>
      cases levels with
      | zero => cases unfolded
      | succ levels =>
        obtain ⟨items, rfl, related⟩ := treeWithin_array.mp unfolded
        obtain ⟨item, _, found⟩ := exists_output_of_mem related isItem
        exact Nat.succ_lt_succ (ih item found)
    | member isMember _ ih =>
      cases levels with
      | zero => cases unfolded
      | succ levels =>
        obtain ⟨members, rfl, related⟩ := treeWithin_object.mp unfolded
        obtain ⟨member, _, _, found⟩ := exists_output_of_mem related isMember
        exact Nat.succ_lt_succ (ih member.2 found)
  · intro shallow
    induction levels generalizing value with
    | zero => exact absurd (shallow 0 value (.here value)) (Nat.lt_irrefl 0)
    | succ levels ih =>
      cases value with
      | array ref =>
        obtain ⟨items, related⟩ := exists_forall₂ fun item isItem =>
          ih fun depth node below => Nat.lt_of_succ_lt_succ (shallow _ node (.item isItem below))
        exact ⟨_, treeWithin_array.mpr ⟨items, rfl, related⟩⟩
      | object ref =>
        have each : ∀ entry ∈ (store.object ref).entries, ∃ member : String × Tree,
            entry.1 = member.1 ∧ store.treeWithin levels entry.2 = some member.2 := by
          intro entry isMember
          obtain ⟨tree, found⟩ := ih fun depth node below =>
            Nat.lt_of_succ_lt_succ (shallow _ node (.member isMember below))
          exact ⟨(entry.1, tree), rfl, found⟩
        obtain ⟨members, related⟩ := exists_forall₂ each
        exact ⟨_, treeWithin_object.mpr ⟨members, rfl, related⟩⟩
      | _ => exact ⟨_, rfl⟩

end Rules
end Store
end PatchScript
