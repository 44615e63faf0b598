import PatchScript.Proofs.Store.Writing

/-!
# Documents and values

A value has a document if and only if nothing in its tree lacks one and no node is
too deep, so a value from which a cycle can be reached has none.  Reading the
document of a value gives a value with the same tree, apart from the signs of
zeros, and therefore writing what was read settles a document at once.
-/

namespace PatchScript

/-- A value that is no function and no number without a JSON number. -/
def Value.HasDocument : Value → Prop
  | .number value => value.isNaN = false ∧ value.isInf = false
  | .function _ => False
  | _ => True

namespace Store

variable {json : Json} {store : Store} {tree : Tree} {value : Value}

/-! ## Which trees have a document -/

/-- A tree has a document if and only if all its nodes have one. -/
theorem exists_json?_iff {levels : Nat} (unfolded : store.treeWithin levels value = some tree) :
    (∃ json, tree.json? = some json) ↔
      ∀ depth node, store.Occurs value depth node → node.HasDocument := by
  induction levels generalizing value tree with
  | zero => cases unfolded
  | succ levels ih =>
    cases value with
    | array ref =>
      obtain ⟨items, rfl, related⟩ := treeWithin_array.mp unfolded
      constructor
      · rintro ⟨json, written⟩ depth node occurs
        obtain ⟨documents, -, isWritten⟩ := Tree.json?_array.mp written
        cases occurs with
        | here => trivial
        | item isItem below =>
          obtain ⟨item, member, found⟩ := exists_output_of_mem related isItem
          obtain ⟨document, -, document_eq⟩ := exists_output_of_mem isWritten member
          exact (ih found).mp ⟨document, document_eq⟩ _ node below
      · intro plain
        have each : ∀ item ∈ items, ∃ document, item.json? = some document := by
          intro item member
          obtain ⟨value, isItem, found⟩ := exists_input_of_mem related member
          exact (ih found).mpr fun depth node below => plain _ node (.item isItem below)
        obtain ⟨documents, isWritten⟩ := exists_forall₂ each
        exact ⟨_, Tree.json?_array.mpr ⟨documents, rfl, isWritten⟩⟩
    | object ref =>
      obtain ⟨members, rfl, related⟩ := treeWithin_object.mp unfolded
      constructor
      · rintro ⟨json, written⟩ depth node occurs
        obtain ⟨documents, -, isWritten⟩ := Tree.json?_object.mp written
        cases occurs with
        | here => trivial
        | member isMember below =>
          obtain ⟨member, inTree, -, found⟩ := exists_output_of_mem related isMember
          obtain ⟨document, -, -, document_eq⟩ := exists_output_of_mem isWritten inTree
          exact (ih found).mp ⟨document.2, document_eq⟩ _ node below
      · intro plain
        have each : ∀ member ∈ members, ∃ document : String × Json,
            member.1 = document.1 ∧ member.2.json? = some document.2 := by
          intro member inTree
          obtain ⟨entry, isMember, -, found⟩ := exists_input_of_mem related inTree
          obtain ⟨document, document_eq⟩ :=
            (ih found).mpr fun depth node below => plain _ node (.member isMember below)
          exact ⟨(member.1, document), rfl, document_eq⟩
        obtain ⟨documents, isWritten⟩ := exists_forall₂ each
        exact ⟨_, Tree.json?_object.mpr ⟨documents, rfl, isWritten⟩⟩
    | number value =>
      cases unfolded
      constructor
      · rintro ⟨json, written⟩ depth node ⟨⟩
        obtain ⟨number, -, isWritten⟩ := Tree.json?_number.mp written
        exact Document.number_eq_ok_iff.mp ⟨number, isWritten⟩
      · intro plain
        obtain ⟨number, isWritten⟩ :=
          Document.number_eq_ok_iff.mpr (plain 0 _ (.here (.number value)))
        exact ⟨_, Tree.json?_number.mpr ⟨number, rfl, isWritten⟩⟩
    | function ref =>
      cases unfolded
      constructor
      · rintro ⟨json, written⟩
        rw [Tree.json?] at written
        cases written
      · intro plain
        exact (plain 0 _ (.here (.function ref))).elim
    | _ =>
      cases unfolded
      constructor
      · rintro - depth node ⟨⟩
        trivial
      · intro
        rw [Tree.json?]
        exact ⟨_, rfl⟩

/-! ## Reading a document -/

/-- A store with more objects and arrays after those of another. -/
def Extends (before after : Store) : Prop :=
  (∃ added, after.objects = before.objects ++ added) ∧
    ∃ added, after.arrays = before.arrays ++ added

theorem Extends.refl (store : Store) : store.Extends store := ⟨⟨#[], by simp⟩, ⟨#[], by simp⟩⟩

theorem Extends.trans {first second third : Store} (earlier : first.Extends second)
    (later : second.Extends third) : first.Extends third := by
  obtain ⟨⟨objects, sameObjects⟩, arrays, sameArrays⟩ := earlier
  obtain ⟨⟨moreObjects, moreSameObjects⟩, moreArrays, moreSameArrays⟩ := later
  refine ⟨⟨objects ++ moreObjects, ?_⟩, arrays ++ moreArrays, ?_⟩
  · rw [moreSameObjects, sameObjects, Array.append_assoc]
  · rw [moreSameArrays, sameArrays, Array.append_assoc]

theorem extends_addArray (store : Store)
    (contents : Array Value) : store.Extends (store.addArray contents).2 :=
  ⟨⟨#[], by simp [addArray]⟩, ⟨#[contents], by simp [addArray]⟩⟩

theorem extends_addObject (store : Store)
    (contents : OrderedMap Value) : store.Extends (store.addObject contents).2 :=
  ⟨⟨#[contents], by simp [addObject]⟩, ⟨#[], by simp [addObject]⟩⟩

theorem getD_push_append {α : Type} (before : Array α) (item default : α) (after : Array α) :
    (before.push item ++ after).getD before.size default = item := by
  rw [Array.getD_eq_getD_getElem?, Array.getElem?_append_left (by simp), Array.getElem?_push_size]
  rfl

/-- What was added stays under its handle. -/
theorem unfolds_addArray {later : Store} {contents : Array Value} {items : List Tree}
    (extended : (store.addArray contents).2.Extends later)
    (each : List.Forall₂ later.Unfolds contents.toList items) :
    later.Unfolds (.array (store.addArray contents).1) (.array items) := by
  obtain ⟨-, added, arrays⟩ := extended
  have held : later.array (store.addArray contents).1 = contents := by
    rw [array, arrays]
    exact getD_push_append store.arrays contents #[] added
  refine .array ?_
  rwa [held]

theorem unfolds_addObject {later : Store} {contents : OrderedMap Value}
    {members : List (String × Tree)} (extended : (store.addObject contents).2.Extends later)
    (each : List.Forall₂
      (fun entry member => entry.1 = member.1 ∧ later.Unfolds entry.2 member.2)
      contents.entries members) :
    later.Unfolds (.object (store.addObject contents).1) (.object members) := by
  obtain ⟨⟨added, objects⟩, -⟩ := extended
  have held : later.object (store.addObject contents).1 = contents := by
    rw [object, objects]
    exact getD_push_append store.objects contents OrderedMap.empty added
  refine .object ?_
  rwa [held]

mutual

/-- Reading a document only adds to the store, and the value read has the tree that
the document spells for as long as the store is only added to. -/
theorem ofJson_unfolds : ∀ (json : Json) (store : Store),
    json.tree.DistinctKeys →
    store.Extends (store.ofJson json).2 ∧
      ∀ later, (store.ofJson json).2.Extends later → later.Unfolds (store.ofJson json).1 json.tree
  | .null, store, _ => ⟨.refl store, fun _ _ => ⟨1, by rw [Json.tree]; rfl⟩⟩
  | .bool _, store, _ => ⟨.refl store, fun _ _ => ⟨1, by rw [Json.tree]; rfl⟩⟩
  | .number _, store, _ => ⟨.refl store, fun _ _ => ⟨1, by rw [Json.tree]; rfl⟩⟩
  | .string _, store, _ => ⟨.refl store, fun _ _ => ⟨1, by rw [Json.tree]; rfl⟩⟩
  | .array items, store, distinct => by
    rw [Json.tree, Tree.DistinctKeys] at distinct
    obtain ⟨added, contents, extended, unfolds⟩ := ofJsonItems_unfolds items store #[]
      fun item member => distinct _ (List.mem_map_of_mem member)
    refine ⟨extended.trans (extends_addArray ..), fun later extendedLater => ?_⟩
    rw [Json.tree]
    refine unfolds_addArray extendedLater ?_
    rw [contents, List.forall₂_map_right_iff]
    exact unfolds later ((extends_addArray ..).trans extendedLater)
  | .object members, store, distinct => by
    rw [Json.tree, Tree.DistinctKeys] at distinct
    have keys : Entries.keys (members.map fun member => (member.1, member.2.tree)) =
        Entries.keys members := by
      simp [Entries.keys]
    rw [keys] at distinct
    obtain ⟨added, contents, extended, unfolds⟩ :=
      ofJsonMembers_unfolds members store OrderedMap.empty distinct.1
        fun member isMember => distinct.2 _ (List.mem_map_of_mem isMember)
    refine ⟨extended.trans (extends_addObject ..), fun later extendedLater => ?_⟩
    rw [Json.tree]
    refine unfolds_addObject extendedLater ?_
    rw [contents, List.forall₂_map_right_iff]
    exact unfolds later ((extends_addObject ..).trans extendedLater)

theorem ofJsonItems_unfolds : ∀ (items : List Json) (store : Store) (values : Array Value),
    (∀ item ∈ items, item.tree.DistinctKeys) →
    ∃ added, (store.ofJsonItems items values).1.toList = values.toList ++ added ∧
      store.Extends (store.ofJsonItems items values).2 ∧
      ∀ later, (store.ofJsonItems items values).2.Extends later →
        List.Forall₂ (fun value item => later.Unfolds value item.tree) added items
  | [], store, values, _ => ⟨[], by simp [ofJsonItems], .refl store, fun _ _ => .nil⟩
  | item :: items, store, values, distinct => by
    obtain ⟨extendedFirst, unfoldsFirst⟩ :=
      ofJson_unfolds item store (distinct item List.mem_cons_self)
    obtain ⟨added, contents, extended, unfolds⟩ :=
      ofJsonItems_unfolds items (store.ofJson item).2 (values.push (store.ofJson item).1)
        fun other member => distinct other (List.mem_cons_of_mem _ member)
    refine ⟨(store.ofJson item).1 :: added, ?_, extendedFirst.trans extended, ?_⟩
    · rw [ofJsonItems, contents, Array.toList_push, List.append_assoc, List.singleton_append]
    · intro later extendedLater
      exact .cons (unfoldsFirst later (extended.trans extendedLater)) (unfolds later extendedLater)

theorem ofJsonMembers_unfolds : ∀ (members : List (String × Json)) (store : Store)
    (values : OrderedMap Value), (values.keys ++ Entries.keys members).Nodup →
    (∀ member ∈ members, member.2.tree.DistinctKeys) →
    ∃ added, (store.ofJsonMembers members values).1.entries = values.entries ++ added ∧
      store.Extends (store.ofJsonMembers members values).2 ∧
      ∀ later, (store.ofJsonMembers members values).2.Extends later →
        List.Forall₂ (fun entry member => entry.1 = member.1 ∧
          later.Unfolds entry.2 member.2.tree) added members
  | [], store, values, _, _ => ⟨[], by simp [ofJsonMembers], .refl store, fun _ _ => .nil⟩
  | (name, member) :: members, store, values, keys, distinct => by
    obtain ⟨extendedFirst, unfoldsFirst⟩ :=
      ofJson_unfolds member store (distinct (name, member) List.mem_cons_self)
    have absent : name ∉ values.keys := by
      intro present
      exact (List.nodup_append.mp keys).2.2 name present name List.mem_cons_self rfl
    have inserted : (values.insert name (store.ofJson member).1).entries =
        values.entries ++ [(name, (store.ofJson member).1)] :=
      Entries.insert_of_not_mem _ absent
    obtain ⟨added, contents, extended, unfolds⟩ :=
      ofJsonMembers_unfolds members (store.ofJson member).2
        (values.insert name (store.ofJson member).1)
        (by rwa [OrderedMap.keys, inserted, Entries.keys, List.map_append, List.append_assoc])
        fun other isMember => distinct other (List.mem_cons_of_mem _ isMember)
    refine ⟨(name, (store.ofJson member).1) :: added, ?_, extendedFirst.trans extended, ?_⟩
    · rw [ofJsonMembers, contents, inserted, List.append_assoc, List.singleton_append]
    · intro later extendedLater
      exact .cons ⟨rfl, unfoldsFirst later (extended.trans extendedLater)⟩
        (unfolds later extendedLater)

end

/-! ## There and back -/

theorem exists_toJson_iff
    (bounded : ∀ tree, store.Unfolds value tree → tree.nodes ≤ Document.maxNodes) :
    (∃ json, store.toJson value = .ok json) ↔
      ∀ depth node, store.Occurs value depth node →
        node.HasDocument ∧ depth ≤ Document.maxDepth := by
  constructor
  · rintro ⟨json, written⟩ depth node occurs
    obtain ⟨tree, unfolds, document, within, -⟩ := toJson_eq_ok_iff.mp written
    have unfolded := treeWithin_iff.mpr ⟨unfolds, within⟩
    have shallow := exists_treeWithin_iff.mp ⟨tree, unfolded⟩ depth node occurs
    exact ⟨(exists_json?_iff unfolded).mp ⟨json, document⟩ depth node occurs,
      Nat.le_of_lt_succ shallow⟩
  · intro plain
    obtain ⟨tree, unfolded⟩ := exists_treeWithin_iff.mpr fun depth node occurs =>
      Nat.lt_succ_of_le (plain depth node occurs).2
    obtain ⟨json, document⟩ := (exists_json?_iff unfolded).mpr fun depth node occurs =>
      (plain depth node occurs).1
    obtain ⟨unfolds, within⟩ := treeWithin_iff.mp unfolded
    exact ⟨json, toJson_eq_ok_iff.mpr ⟨tree, unfolds, document, within, bounded tree unfolds⟩⟩

/-- A cycle has nodes at every depth. -/
theorem toJson_ne_ok_of_cycle {container : Value} {depth distance : Nat}
    (reached : store.Occurs value depth container)
    (cycle : store.Occurs container (distance + 1) container) (json : Json) :
    store.toJson value ≠ .ok json := by
  intro written
  obtain ⟨tree, unfolds, -, within, -⟩ := toJson_eq_ok_iff.mp written
  have unfolded := treeWithin_iff.mpr ⟨unfolds, within⟩
  -- One more round than there are levels leads below all of them.
  have deep := reached.repeat cycle (Document.maxDepth + 1)
  have shallow := exists_treeWithin_iff.mp ⟨tree, unfolded⟩ _ container deep
  rw [Nat.mul_add] at shallow
  omega

/-- The document of a value has no key twice in an object. -/
theorem distinctKeys_of_json? (unfolds : store.Unfolds value tree)
    (document : tree.json? = some json) : json.tree.DistinctKeys := by
  obtain ⟨levels, unfolded⟩ := unfolds
  rw [Tree.tree_of_json? document]
  exact Tree.distinctKeys_unsignedZeros (distinctKeys_of_treeWithin unfolded)

/-- Reading the document of a tree gives the tree back. -/
theorem unfolds_ofJson (unfolds : store.Unfolds value tree) (document : tree.json? = some json)
    (other : Store) : (other.ofJson json).2.Unfolds (other.ofJson json).1 tree.unsignedZeros := by
  obtain ⟨-, read⟩ := ofJson_unfolds json other (distinctKeys_of_json? unfolds document)
  rw [← Tree.tree_of_json? document]
  exact read _ (.refl _)

/-- Read a document and write what was read. -/
def normalize (store : Store) (json : Json) : Except DocumentError Json :=
  (store.ofJson json).2.toJson (store.ofJson json).1

theorem normalize_written {written : Json} (isWritten : store.normalize json = .ok written)
    (other : Store) : other.normalize written = .ok written := by
  obtain ⟨tree, unfolds, document, within, small⟩ := toJson_eq_ok_iff.mp isWritten
  refine toJson_eq_ok_iff.mpr ⟨tree.unsignedZeros, unfolds_ofJson unfolds document other, ?_⟩
  rw [Tree.json?_unsignedZeros, Tree.nodes_unsignedZeros]
  exact ⟨document, Tree.within_unsignedZeros within, small⟩

theorem tree_of_normalize {written : Json} (isWritten : store.normalize json = .ok written)
    (distinct : json.tree.DistinctKeys) : written.tree = json.tree.unsignedZeros := by
  obtain ⟨tree, unfolds, document, -, -⟩ := toJson_eq_ok_iff.mp isWritten
  obtain ⟨-, read⟩ := ofJson_unfolds json store distinct
  have same : tree = json.tree := unfolds.unique (read _ (.refl _))
  rw [Tree.tree_of_json? document, same]

/-- A value whose finite tree, if it has one, is not too large has a document if and
only if no node of its tree is a function, a number that is not finite, or too deep;
so a value from which a cycle is reached has none.  A document is read as the tree it
was written from, with `0` for `-0`.  A document that was read and written therefore
stays as it is, and where no object spells a key twice, shape, texts, numbers and the
order of items and keys are those of the document read. -/
theorem document_round_trip :
    (∀ (store : Store) (value : Value),
      (∀ tree, store.Unfolds value tree → tree.nodes ≤ Document.maxNodes) →
        ((∃ json, store.toJson value = .ok json) ↔
          ∀ depth node, store.Occurs value depth node →
            node.HasDocument ∧ depth ≤ Document.maxDepth)) ∧
    (∀ (store : Store) (value container : Value) (depth distance : Nat),
      store.Occurs value depth container →
        store.Occurs container (distance + 1) container → ∀ json, store.toJson value ≠ .ok json) ∧
    (∀ (store other : Store) (value : Value) (json : Json),
      store.toJson value = .ok json →
        ∃ tree, store.Unfolds value tree ∧
          (other.ofJson json).2.Unfolds (other.ofJson json).1 tree.unsignedZeros) ∧
    (∀ (store other : Store) (json written : Json),
      store.normalize json = .ok written →
        other.normalize written = .ok written ∧
          (json.tree.DistinctKeys → written.tree = json.tree.unsignedZeros)) := by
  refine ⟨?_, ?_, ?_, ?_⟩
  · intro store value bounded
    exact exists_toJson_iff bounded
  · intro store value container depth distance reached cycle
    exact toJson_ne_ok_of_cycle reached cycle
  · intro store other value json written
    obtain ⟨tree, unfolds, document, -, -⟩ := toJson_eq_ok_iff.mp written
    exact ⟨tree, unfolds, unfolds_ofJson unfolds document other⟩
  · intro store other json written isWritten
    exact ⟨normalize_written isWritten other, tree_of_normalize isWritten⟩

/-- An object that holds one array twice, and an array that holds itself. -/
def tangled : Store :=
  { Store.empty with
    objects := #[.ofEntries [("left", .array ⟨0⟩), ("right", .array ⟨0⟩)]]
    arrays := #[#[.number (-0.0), .string "shared"], #[.null, .array ⟨1⟩]] }

/-- The tree of the object that holds one array twice. -/
def tangledTree : Tree :=
  .object
    [("left", .array [.number (-0.0), .string "shared"]),
      ("right", .array [.number (-0.0), .string "shared"])]

/-- The document of that tree, for one way of spelling its number. -/
def tangledDocument (number : JsonNumber) : Json :=
  .object
    [("left", .array [.number number, .string "shared"]),
      ("right", .array [.number number, .string "shared"])]

theorem json?_tangledTree : tangledTree.json? = some (tangledDocument (.integer 0)) := by
  have zero : Document.number (-0.0) = .ok (.integer 0) := by
    rw [Document.number, Document.integer?_negativeZero]
    rfl
  simp [tangledTree, tangledDocument, zero, Except.toOption]

theorem within_tangledTree : tangledTree.Within (Document.maxDepth + 1) :=
  within_of_treeWithin (treeWithin_mono (by decide) (rfl : tangled.treeWithin 3 (.object ⟨0⟩) = _))

theorem document_round_trip_tangled :
    (∀ depth node, tangled.Occurs (.object ⟨0⟩) depth node →
      node.HasDocument ∧ depth ≤ Document.maxDepth) ∧
    (∀ json, tangled.toJson (.array ⟨1⟩) ≠ .ok json) ∧
    (∃ tree, tangled.Unfolds (.object ⟨0⟩) tree ∧
      (tangled.ofJson (tangledDocument (.integer 0))).2.Unfolds
        (tangled.ofJson (tangledDocument (.integer 0))).1 tree.unsignedZeros) ∧
    Store.empty.normalize (tangledDocument (.integer 0)) = .ok (tangledDocument (.integer 0)) := by
  obtain ⟨accepted, cyclic, reading, settled⟩ := document_round_trip
  have small : tangledTree.nodes ≤ Document.maxNodes := by
    simp [tangledTree, Tree.nodes, Document.maxNodes]
  have unfolds : tangled.Unfolds (.object ⟨0⟩) tangledTree := ⟨3, rfl⟩
  have written := toJson_eq_ok_iff.mpr
    ⟨tangledTree, unfolds, json?_tangledTree, within_tangledTree, small⟩
  have bounded : ∀ tree, tangled.Unfolds (.object ⟨0⟩) tree → tree.nodes ≤ Document.maxNodes := by
    intro tree unfoldsAlso
    rwa [unfoldsAlso.unique unfolds]
  have below : tangled.Occurs (.array ⟨1⟩) 1 (.array ⟨1⟩) :=
    .item (List.mem_cons_of_mem _ List.mem_cons_self) (.here _)
  have rewritten : Store.empty.normalize (tangledDocument (.real (-0.0))) =
      .ok (tangledDocument (.integer 0)) :=
    toJson_eq_ok_iff.mpr ⟨tangledTree, ⟨3, rfl⟩, json?_tangledTree, within_tangledTree, small⟩
  refine ⟨(accepted _ _ bounded).mp ⟨_, written⟩, ?_, reading _ tangled _ _ written, ?_⟩
  · exact cyclic _ _ _ 0 0 (.here _) below
  · exact (settled Store.empty Store.empty _ _ rewritten).1

end Store
end PatchScript
