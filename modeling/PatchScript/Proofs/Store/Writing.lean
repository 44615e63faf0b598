import PatchScript.Proofs.Decimal.ExactIntegers
import PatchScript.Proofs.Store.Unfolding
import PatchScript.Store.Document

/-!
# Which values have a document

Writing a value follows its tree, so what is written depends on the tree alone:
`Tree.json?` is the document of a tree, and `Store.toJson_eq_ok_iff` says that a
value is written as the document of its tree if the tree has one and is neither
too deep nor too large.
-/

namespace PatchScript

variable {json : Json}

namespace Document

/-! ## Numbers -/

theorem number_eq_ok_iff {x : Float} :
    (∃ written, number x = .ok written) ↔ x.isNaN = false ∧ x.isInf = false := by
  rw [← Bool.or_eq_false_iff]
  unfold number
  split
  · next integral =>
    have finite := (Option.ite_none_left_eq_some.mp integral).1
    exact ⟨fun _ => Bool.eq_false_iff.mpr finite, fun _ => ⟨_, rfl⟩⟩
  · split
    · next infinite =>
      constructor
      · rintro ⟨_, ⟨⟩⟩
      · intro finite
        rw [finite] at infinite
        cases infinite
    · next finite =>
      exact ⟨fun _ => Bool.eq_false_iff.mpr finite, fun _ => ⟨_, rfl⟩⟩

theorem integer?_negativeZero : Decimal.integer? (-0.0) = some 0 :=
  Decimal.integer?_of_zero rfl rfl rfl

/-- A written number is read as the double it was, apart from the sign of zero. -/
theorem toFloat_of_number {x : Float} {written : JsonNumber} (isWritten : number x = .ok written) :
    written.toFloat = Decimal.unsignedZero x := by
  unfold number at isWritten
  have notNegativeZero (other : Decimal.integer? x ≠ some 0) : Decimal.unsignedZero x = x := by
    refine if_neg ?_
    rintro rfl
    exact other integer?_negativeZero
  split at isWritten
  · next value integral =>
    split at isWritten
    · next small =>
      cases isWritten
      exact Decimal.ofInt_of_integer? integral small
    · next large =>
      cases isWritten
      refine (notNegativeZero ?_).symm
      rw [integral]
      rintro ⟨⟩
      exact large (Nat.zero_le _)
  · next fractional =>
    split at isWritten
    · cases isWritten
    · cases isWritten
      refine (notNegativeZero ?_).symm
      simp [fractional]

theorem number_unsignedZero (x : Float) : number (Decimal.unsignedZero x) = number x := by
  unfold Decimal.unsignedZero
  split
  · next negativeZero =>
    have zero : Decimal.integer? 0.0 = some 0 := Decimal.integer?_of_zero rfl rfl rfl
    rw [negativeZero, number, number, zero, integer?_negativeZero]
    rfl
  · rfl

end Document

/-! ## The document of a tree -/

namespace Tree

/-- The document of a tree, if it has neither functions nor numbers without one. -/
@[simp] def json? : Tree → Option Json
  | .null => some .null
  | .boolean value => some (.bool value)
  | .number value => (Document.number value).toOption.map .number
  | .string value => some (.string value)
  | .array items => (items.mapM json?).map .array
  | .object members =>
    (members.mapM fun (member : String × Tree) => member.2.json?.map (member.1, ·)).map .object
  | .function _ => none
termination_by tree => sizeOf tree
decreasing_by
  · exact sizeOf_item_lt ‹_›
  · exact sizeOf_member_lt ‹_›

theorem json?_number {value : Float} :
    (Tree.number value).json? = some json ↔
      ∃ written, json = .number written ∧ Document.number value = .ok written := by
  rw [json?]
  cases Document.number value with
  | ok written => simp [Except.toOption, eq_comm]
  | error error => simp [Except.toOption]

theorem json?_array {items : List Tree} :
    (Tree.array items).json? = some json ↔
      ∃ written, json = .array written ∧
        List.Forall₂ (fun item document => item.json? = some document) items written := by
  simp only [json?, Option.map_eq_some_iff, mapM_eq_some_iff]
  constructor
  · rintro ⟨written, related, rfl⟩
    exact ⟨written, rfl, related⟩
  · rintro ⟨written, rfl, related⟩
    exact ⟨written, related, rfl⟩

theorem json?_object {members : List (String × Tree)} :
    (Tree.object members).json? = some json ↔
      ∃ written, json = .object written ∧
        List.Forall₂
          (fun member document => member.1 = document.1 ∧ member.2.json? = some document.2)
          members written := by
  simp only [json?, Option.map_eq_some_iff, mapM_second_eq_some_iff]
  constructor
  · rintro ⟨written, related, rfl⟩
    exact ⟨written, rfl, related⟩
  · rintro ⟨written, rfl, related⟩
    exact ⟨written, related, rfl⟩

/-- A tree with `0` in place of every `-0`. -/
@[simp] def unsignedZeros : Tree → Tree
  | .number value => .number (Decimal.unsignedZero value)
  | .array items => .array (items.map unsignedZeros)
  | .object members => .object (members.map fun member => (member.1, member.2.unsignedZeros))
  | other => other
termination_by tree => sizeOf tree
decreasing_by
  · exact sizeOf_item_lt ‹_›
  · exact sizeOf_member_lt ‹_›

theorem json?_unsignedZeros (tree : Tree) : tree.unsignedZeros.json? = tree.json? := by
  induction tree with
  | number value => rw [unsignedZeros, json?, json?, Document.number_unsignedZero]
  | array items ih =>
    rw [unsignedZeros, json?, json?, List.mapM_map]
    exact congrArg _ (mapM_congr ih)
  | object members ih =>
    rw [unsignedZeros, json?, json?, List.mapM_map]
    refine congrArg _ (mapM_congr fun member isMember => ?_)
    exact congrArg _ (ih member isMember)
  | _ => rw [unsignedZeros] <;> simp

theorem nodes_unsignedZeros (tree : Tree) : tree.unsignedZeros.nodes = tree.nodes := by
  induction tree with
  | array items ih =>
    rw [unsignedZeros, nodes, nodes, List.map_map]
    exact congrArg (fun counts => counts.sum + 1) (List.map_congr_left ih)
  | object members ih =>
    rw [unsignedZeros, nodes, nodes, List.map_map]
    exact congrArg (fun counts => counts.sum + 1) (List.map_congr_left ih)
  | _ => rw [unsignedZeros] <;> simp [nodes]

theorem within_unsignedZeros {tree : Tree} {levels : Nat} (within : tree.Within levels) :
    tree.unsignedZeros.Within levels := by
  induction levels generalizing tree with
  | zero => exact within.elim
  | succ levels ih =>
    cases tree with
    | array items =>
      rw [unsignedZeros]
      intro item member
      obtain ⟨original, isOriginal, rfl⟩ := List.mem_map.mp member
      exact ih (within original isOriginal)
    | object members =>
      rw [unsignedZeros]
      intro member isMember
      obtain ⟨original, isOriginal, rfl⟩ := List.mem_map.mp isMember
      exact ih (within original isOriginal)
    | _ => rw [unsignedZeros] <;> simp [Within]

theorem distinctKeys_unsignedZeros {tree : Tree} (distinct : tree.DistinctKeys) :
    tree.unsignedZeros.DistinctKeys := by
  induction tree with
  | array items ih =>
    rw [DistinctKeys] at distinct
    rw [unsignedZeros, DistinctKeys]
    intro item member
    obtain ⟨original, isOriginal, rfl⟩ := List.mem_map.mp member
    exact ih original isOriginal (distinct original isOriginal)
  | object members ih =>
    rw [DistinctKeys] at distinct
    have sameKeys : Entries.keys (members.map fun member =>
        (member.1, member.2.unsignedZeros)) = Entries.keys members := by
      simp [Entries.keys]
    rw [unsignedZeros, DistinctKeys, sameKeys]
    refine ⟨distinct.1, fun member isMember => ?_⟩
    obtain ⟨original, isOriginal, rfl⟩ := List.mem_map.mp isMember
    exact ih original isOriginal (distinct.2 original isOriginal)
  | _ => rw [unsignedZeros] <;> simp [DistinctKeys]

end Tree

namespace Json

theorem sizeOf_item_lt {item : Json} {items : List Json}
    (member : item ∈ items) : sizeOf item < sizeOf (Json.array items) := by
  have smaller := List.sizeOf_lt_of_mem member
  rw [Json.array.sizeOf_spec]
  omega

theorem sizeOf_member_lt {entry : String × Json} {members : List (String × Json)}
    (member : entry ∈ members) : sizeOf entry.2 < sizeOf (Json.object members) := by
  have smaller := List.sizeOf_lt_of_mem member
  rw [Prod.mk.sizeOf_spec] at smaller
  rw [Json.object.sizeOf_spec]
  omega

/-- The tree that a document spells. -/
@[simp] def tree : Json → Tree
  | .null => .null
  | .bool value => .boolean value
  | .number value => .number value.toFloat
  | .string value => .string value
  | .array items => .array (items.map tree)
  | .object members => .object (members.map fun member => (member.1, member.2.tree))
termination_by json => sizeOf json
decreasing_by
  · exact sizeOf_item_lt ‹_›
  · exact sizeOf_member_lt ‹_›

end Json

variable {tree : Tree}

/-- The document of a tree spells the tree, apart from the signs of zeros. -/
theorem Tree.tree_of_json? (written : tree.json? = some json) : json.tree = tree.unsignedZeros := by
  induction tree generalizing json with
  | number value =>
    obtain ⟨number, rfl, isWritten⟩ := json?_number.mp written
    rw [Json.tree, unsignedZeros, Document.toFloat_of_number isWritten]
  | array items ih =>
    obtain ⟨documents, rfl, related⟩ := json?_array.mp written
    rw [Json.tree, unsignedZeros]
    refine congrArg _ (map_eq_map_of_forall₂ (forall₂_imp_of_mem related ?_))
    intro item member document _ isWritten
    exact ih item member isWritten
  | object members ih =>
    obtain ⟨documents, rfl, related⟩ := json?_object.mp written
    rw [Json.tree, unsignedZeros]
    refine congrArg _ (map_eq_map_of_forall₂ (forall₂_imp_of_mem related ?_))
    rintro member isMember document _ ⟨sameKey, isWritten⟩
    rw [sameKey, ih member isMember isWritten]
  | function ref =>
    rw [json?] at written
    cases written
  | _ =>
    rw [json?] at written
    cases written
    rw [Json.tree, unsignedZeros] <;> simp

/-! ## Writing a value -/

namespace Document

variable {α τ : Type}

/-- Writing succeeds exactly on what has a tree with a document, and takes as much as
the tree is large. -/
def Follows {α τ : Type} (write : Writer α) (found : Option τ) (document? : τ → Option α)
    (size : τ → Nat) : Prop :=
  ∀ budget written rest,
    write budget = .ok written rest ↔
      ∃ tree, found = some tree ∧ document? tree = some written ∧ size tree + rest = budget

theorem follows_mapM {β : Type} {write : α → Writer β} {find : α → Option τ}
    {document? : τ → Option β} {size : τ → Nat}
    (each : ∀ input, Follows (write input) (find input) document? size) (inputs : List α) :
    Follows (inputs.mapM write) (inputs.mapM find) (fun trees => trees.mapM document?)
      (fun trees => (trees.map size).sum) := by
  induction inputs with
  | nil =>
    intro budget written rest
    constructor
    · intro run
      cases run
      exact ⟨[], rfl, rfl, Nat.zero_add _⟩
    · rintro ⟨trees, found, documents, rfl⟩
      cases found
      cases documents
      exact congrArg (EStateM.Result.ok []) (Nat.zero_add rest)
  | cons input inputs ih =>
    intro budget written rest
    constructor
    · intro run
      rw [List.mapM_cons] at run
      obtain ⟨first, middle, ranFirst, run⟩ := bind_eq_ok_iff.mp run
      obtain ⟨others, last, ranOthers, built⟩ := bind_eq_ok_iff.mp run
      cases built
      obtain ⟨tree, found, document, spent⟩ := (each input _ _ _).mp ranFirst
      obtain ⟨trees, foundOthers, documents, spentOthers⟩ := (ih _ _ _).mp ranOthers
      refine ⟨tree :: trees, ?_, ?_, ?_⟩
      · simp [found, foundOthers]
      · simp [document, documents]
      · dsimp only at spentOthers ⊢
        rw [List.map_cons, List.sum_cons]
        omega
    · rintro ⟨trees, found, documents, rfl⟩
      obtain ⟨tree, trees, foundFirst, foundOthers, rfl⟩ :=
        List.forall₂_cons_left_iff.mp (mapM_eq_some_iff.mp found)
      obtain ⟨first, others, document, otherDocuments, rfl⟩ :=
        List.forall₂_cons_left_iff.mp (mapM_eq_some_iff.mp documents)
      have spent : size tree + ((trees.map size).sum + rest) =
          ((tree :: trees).map size).sum + rest := by
        rw [List.map_cons, List.sum_cons, Nat.add_assoc]
      have ranFirst := (each input _ _ _).mpr ⟨tree, foundFirst, document, spent⟩
      have ranOthers := (ih _ _ rest).mpr
        ⟨trees, mapM_eq_some_iff.mpr foundOthers, mapM_eq_some_iff.mpr otherDocuments, rfl⟩
      rw [List.mapM_cons]
      refine bind_eq_ok_iff.mpr ⟨first, _, ranFirst, ?_⟩
      exact bind_eq_ok_iff.mpr ⟨others, _, ranOthers, rfl⟩

theorem spend_eq_ok_iff {budget rest : Nat} : spend budget = .ok () rest ↔ budget = rest + 1 := by
  cases budget with
  | zero =>
    constructor
    · intro run
      cases run
    · intro impossible
      cases impossible
  | succ budget =>
    constructor
    · intro run
      cases run
      rfl
    · intro same
      cases same
      rfl

section

variable {write : Writer α} {found : Option τ} {document? : τ → Option α} {size : τ → Nat}

theorem follows_second {κ : Type} (key : κ) (follows : Follows write found document? size) :
    Follows (do return (key, ← write)) (found.map (key, ·))
      (fun member => (document? member.2).map (member.1, ·)) (fun member => size member.2) := by
  intro budget written rest
  constructor
  · intro run
    obtain ⟨value, last, ran, built⟩ := bind_eq_ok_iff.mp run
    cases built
    obtain ⟨tree, isFound, document, spent⟩ := (follows _ _ _).mp ran
    exact ⟨(key, tree), by rw [isFound]; rfl, by simp [document], spent⟩
  · rintro ⟨_, memberFound, memberDocument, rfl⟩
    obtain ⟨tree, isFound, rfl⟩ := Option.map_eq_some_iff.mp memberFound
    obtain ⟨value, document, rfl⟩ := Option.map_eq_some_iff.mp memberDocument
    have ran := (follows _ _ rest).mpr ⟨tree, isFound, document, rfl⟩
    exact bind_eq_ok_iff.mpr ⟨value, _, ran, rfl⟩

/-- A node costs one more than its contents. -/
theorem follows_node {build : α → Json} {node : τ → Tree}
    (contents : Follows write found document? size)
    (json : ∀ tree, (node tree).json? = (document? tree).map build)
    (nodes : ∀ tree, (node tree).nodes = size tree + 1) :
    Follows (do spend; return build (← write)) (found.map node) Tree.json? Tree.nodes := by
  intro budget written rest
  constructor
  · intro run
    obtain ⟨_, middle, paid, run⟩ := bind_eq_ok_iff.mp run
    obtain ⟨value, last, ran, built⟩ := bind_eq_ok_iff.mp run
    cases built
    obtain ⟨tree, isFound, document, spent⟩ := (contents _ _ _).mp ran
    have paid := spend_eq_ok_iff.mp paid
    refine ⟨node tree, by rw [isFound]; rfl, by rw [json, document]; rfl, ?_⟩
    rw [nodes]
    omega
  · rintro ⟨_, nodeFound, nodeDocument, rfl⟩
    obtain ⟨tree, isFound, rfl⟩ := Option.map_eq_some_iff.mp nodeFound
    rw [json] at nodeDocument
    obtain ⟨value, document, rfl⟩ := Option.map_eq_some_iff.mp nodeDocument
    have ran := (contents _ _ rest).mpr ⟨tree, isFound, document, rfl⟩
    have paid : spend ((node tree).nodes + rest) = .ok () (size tree + rest) := by
      rw [spend_eq_ok_iff, nodes]
      omega
    refine bind_eq_ok_iff.mpr ⟨(), _, paid, ?_⟩
    exact bind_eq_ok_iff.mpr ⟨value, _, ran, rfl⟩

end

theorem follows_leaf (document : tree.json? = some json) (single : tree.nodes = 1) :
    Follows (do spend; return json) (some tree) Tree.json? Tree.nodes := by
  intro budget written rest
  constructor
  · intro run
    obtain ⟨_, middle, paid, built⟩ := bind_eq_ok_iff.mp run
    cases built
    have paid := spend_eq_ok_iff.mp paid
    exact ⟨tree, rfl, document, by omega⟩
  · rintro ⟨_, ⟨⟩, found, rfl⟩
    cases document.symm.trans found
    refine bind_eq_ok_iff.mpr ⟨(), rest, ?_, rfl⟩
    rw [spend_eq_ok_iff]
    omega

theorem follows_fail {error : DocumentError} (none : tree.json? = none) :
    Follows (do spend; throw error) (some tree) Tree.json? Tree.nodes := by
  intro budget written rest
  constructor
  · intro run
    obtain ⟨-, middle, -, failed⟩ := bind_eq_ok_iff.mp run
    cases failed
  · rintro ⟨_, ⟨⟩, found, rfl⟩
    cases none.symm.trans found

/-- Writing a value follows its tree. -/
theorem follows_writeWithin (store : Store) (levels : Nat) (value : Value) :
    Follows (writeWithin store levels value) (store.treeWithin levels value)
      Tree.json? Tree.nodes := by
  induction levels generalizing value with
  | zero =>
    intro budget written rest
    constructor
    · intro run
      cases run
    · rintro ⟨_, found, -⟩
      cases found
  | succ levels ih =>
    cases value with
    | array ref =>
      refine follows_node (follows_mapM ih _) ?_ ?_
      · intro items
        rw [Tree.json?]
      · intro items
        rw [Tree.nodes]
    | object ref =>
      have each (entry : String × Value) := follows_second entry.1 (ih entry.2)
      refine follows_node (follows_mapM each _) ?_ ?_
      · intro members
        rw [Tree.json?]
      · intro members
        rw [Tree.nodes]
    | number value =>
      rw [writeWithin]
      cases written : number value with
      | ok number =>
        refine follows_leaf (Tree.json?_number.mpr ⟨number, rfl, written⟩) ?_
        simp [Tree.nodes]
      | error error =>
        refine follows_fail ?_
        rw [Tree.json?, written]
        rfl
    | function ref =>
      refine follows_fail ?_
      rw [Tree.json?]
    | _ =>
      refine follows_leaf ?_ ?_
      · rw [Tree.json?]
      · simp [Tree.nodes]

end Document

namespace Store

/-- A value is written as the document of its tree, if the tree has one and is neither
too deep nor too large. -/
theorem toJson_eq_ok_iff {store : Store} {value : Value} :
    store.toJson value = .ok json ↔
      ∃ tree, store.Unfolds value tree ∧ tree.json? = some json ∧
        tree.Within (Document.maxDepth + 1) ∧ tree.nodes ≤ Document.maxNodes := by
  have follows := Document.follows_writeWithin store (Document.maxDepth + 1) value Document.maxNodes
  simp only [treeWithin_iff] at follows
  unfold toJson
  constructor
  · intro written
    split at written
    · next rest run =>
      cases written
      obtain ⟨tree, ⟨unfolds, within⟩, document, spent⟩ := (follows _ _).mp run
      exact ⟨tree, unfolds, document, within, by omega⟩
    · cases written
  · rintro ⟨tree, unfolds, document, within, small⟩
    rw [(follows json (Document.maxNodes - tree.nodes)).mpr
      ⟨tree, ⟨unfolds, within⟩, document, by omega⟩]

end Store
end PatchScript
