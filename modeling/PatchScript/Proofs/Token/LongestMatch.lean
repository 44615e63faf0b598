import PatchScript.Token

/-!
# What a longest match has found

A trie is a table: `Trie.find?` is the value of a text in it, and an insertion changes the
value of one text.  A longest match is the longest such text at the head of the input, so what
cannot be part of such a text is not needed to find it.
-/

namespace PatchScript
namespace Trie

variable {α : Type} {table : List (List Char × α)} {input other : List Char} {length : Nat}
variable {found : Option (α × Nat)} {trie : Trie α} {stored : α}

/-- The value of a text. -/
def find? : Trie α → List Char → Option α
  | trie, [] => trie.value
  | trie, c :: text => (trie.child? c).bind fun child => child.find? text
termination_by structural _ text => text

theorem find?_empty (text : List Char) : (empty : Trie α).find? text = none := by
  cases text <;> rfl

theorem lookup_setChild (c other : Char) (child : Trie α) (children : List (Char × Trie α)) :
    (setChild c child children).lookup other =
      if other = c then some child else children.lookup other := by
  induction children with
  | nil =>
    rw [setChild, List.lookup_cons]
    by_cases same : other = c
    · simp [same]
    · simp [same, beq_false_of_ne same]
  | cons entry rest ih =>
    obtain ⟨name, old⟩ := entry
    rw [setChild]
    by_cases replaced : name = c
    · subst replaced
      rw [if_pos rfl, List.lookup_cons, List.lookup_cons]
      by_cases same : other = name
      · simp [same]
      · simp [same, beq_false_of_ne same]
    · rw [if_neg replaced, List.lookup_cons, List.lookup_cons, ih]
      by_cases same : other = c
      · have differs : (other == name) = false :=
          beq_false_of_ne fun equal => replaced (equal.symm.trans same)
        rw [differs, if_pos same]
      · rw [if_neg same, if_neg same]

/-- An insertion changes the value of one text. -/
theorem find?_insert (stored : α) (text other : List Char) (trie : Trie α) :
    (trie.insert stored text).find? other =
      if other = text then some stored else trie.find? other := by
  induction text generalizing other trie with
  | nil => cases other <;> rfl
  | cons c text ih =>
    cases other with
    | nil => rfl
    | cons c' other =>
      obtain ⟨value, entries⟩ := trie
      rw [insert, find?, find?]
      simp only [child?, children, lookup_setChild]
      by_cases same : c' = c
      · subst same
        rw [if_pos rfl, Option.bind_some, ih]
        simp only [List.cons.injEq, true_and]
        cases entries.lookup c' with
        | some child => rfl
        | none => rw [Option.getD_none, find?_empty, Option.bind_none]
      · rw [if_neg same, if_neg fun equal => same (List.cons.inj equal).1]

/-- What a table's trie holds stands in the table, and the texts of the table are in it. -/
theorem find?_ofTable (table : List (List Char × α)) (text : List Char) :
    (ofTable table).find? text = table.reverse.lookup text := by
  rw [ofTable, List.foldl_eq_foldr_reverse]
  induction table.reverse with
  | nil => exact find?_empty text
  | cons entry rest ih =>
    rw [List.foldr_cons, find?_insert, ih, List.lookup_cons]
    by_cases same : text = entry.1
    · simp [same]
    · simp [same, beq_false_of_ne same]

theorem mem_of_find?_ofTable {text : List Char} (found : (ofTable table).find? text = some stored) :
    (text, stored) ∈ table := by
  rw [find?_ofTable] at found
  obtain ⟨before, after, split, _⟩ := List.lookup_eq_some_iff.mp found
  rw [← List.mem_reverse, split]
  exact List.mem_append_right _ List.mem_cons_self

/-! ## Walking down -/

/-- What is to be found: the longest text at the head of an input that has a value. -/
def IsLongest (trie : Trie α) (input : List Char) : Option (α × Nat) → Prop
  | none => ∀ text, text <+: input → text ≠ [] → trie.find? text = none
  | some (stored, length) => ∃ text, text <+: input ∧ text ≠ [] ∧ text.length = length ∧
      trie.find? text = some stored ∧
      ∀ longer, longer <+: input → length < longer.length → trie.find? longer = none

/-- Texts of the same length at the head of an input are the same. -/
theorem IsLongest.unique {found' : Option (α × Nat)} (longest : trie.IsLongest input found)
    (also : trie.IsLongest input found') : found = found' := by
  cases found with
  | none =>
    cases found' with
    | none => rfl
    | some pair =>
      obtain ⟨text, head, nonempty, _, value, _⟩ := also
      cases (longest text head nonempty).symm.trans value
  | some pair =>
    obtain ⟨stored, length⟩ := pair
    obtain ⟨text, head, nonempty, rfl, value, most⟩ := longest
    cases found' with
    | none => cases (also text head nonempty).symm.trans value
    | some pair =>
      obtain ⟨stored', length⟩ := pair
      obtain ⟨text', head', _, rfl, value', most'⟩ := also
      obtain shorter | same | longer := Nat.lt_trichotomy text.length text'.length
      · cases (most text' head' shorter).symm.trans value'
      · obtain rfl := (List.prefix_of_prefix_length_le head head' (Nat.le_of_eq same)).eq_of_length
          same
        cases value.symm.trans value'
        rfl
      · cases (most' text head longer).symm.trans value

/-- A walk ends with what it started with, or with the longest text that has a value. -/
theorem longestFrom_cases (depth : Nat) (best : Option (α × Nat)) (trie : Trie α)
    (input : List Char) :
    (longestFrom depth best trie input = best ∧ trie.IsLongest input none) ∨
      ∃ stored length, longestFrom depth best trie input = some (stored, depth + length) ∧
        trie.IsLongest input (some (stored, length)) := by
  induction input generalizing depth best trie with
  | nil => exact .inl ⟨rfl, fun text head nonempty => absurd (List.prefix_nil.mp head) nonempty⟩
  | cons c input ih =>
    rw [longestFrom]
    -- A text at the head of the input is empty, or leads to a continuation.
    have below {text : List Char} (head : text <+: c :: input) (nonempty : text ≠ []) :
        ∃ rest, rest <+: input ∧ text = c :: rest := by
      obtain isNil | ⟨rest, rfl, tail⟩ := List.prefix_cons_iff.mp head
      · exact absurd isNil nonempty
      · exact ⟨rest, tail, rfl⟩
    cases isChild : trie.child? c with
    | none =>
      refine .inl ⟨rfl, fun text head nonempty => ?_⟩
      obtain ⟨rest, _, rfl⟩ := below head nonempty
      rw [find?, isChild, Option.bind_none]
    | some child =>
      have value (rest : List Char) : trie.find? (c :: rest) = child.find? rest := by
        rw [find?, isChild, Option.bind_some]
      obtain ⟨walked, none⟩ | ⟨stored, length, walked, text, head, _, rfl, found, most⟩ :=
        ih (depth + 1) ((child.value.map fun stored => (stored, depth + 1)).or best) child
      all_goals
        dsimp only
        rw [walked]
      · cases own : child.value with
        | none =>
          refine .inl ⟨rfl, fun text head nonempty => ?_⟩
          obtain ⟨rest, tail, rfl⟩ := below head nonempty
          rw [value]
          cases rest with
          | nil => exact own
          | cons _ _ => exact none _ tail (List.cons_ne_nil _ _)
        | some stored =>
          refine .inr ⟨stored, 1, rfl, [c], ⟨input, rfl⟩,
            List.cons_ne_nil _ _, rfl, (value []).trans own, fun longer head isLonger => ?_⟩
          obtain ⟨rest, tail, rfl⟩ := below head (by rintro rfl; cases isLonger)
          exact (value rest).trans
            (none rest tail (List.ne_nil_of_length_pos (Nat.lt_of_succ_lt_succ isLonger)))
      · refine .inr ⟨stored, text.length + 1, by rw [Nat.add_assoc, Nat.add_comm 1],
          c :: text, List.cons_prefix_cons.mpr ⟨rfl, head⟩, List.cons_ne_nil _ _, rfl,
          (value text).trans found, fun longer head isLonger => ?_⟩
        obtain ⟨rest, tail, rfl⟩ := below head (by rintro rfl; cases isLonger)
        exact (value rest).trans (most rest tail (Nat.lt_of_succ_lt_succ isLonger))

theorem isLongest_longestMatch (trie : Trie α) (input : List Char) :
    trie.IsLongest input (trie.longestMatch input) := by
  obtain ⟨same, none⟩ | ⟨stored, length, same, longest⟩ := longestFrom_cases 0 none trie input
  · rwa [longestMatch, same]
  · rwa [longestMatch, same, Nat.zero_add]

theorem longestMatch_eq_iff : trie.longestMatch input = found ↔ trie.IsLongest input found :=
  ⟨fun same => same ▸ isLongest_longestMatch trie input, (isLongest_longestMatch trie input).unique⟩

/-- Of an input, only those texts at its head matter that have a value. -/
theorem IsLongest.of_heads
    (same : ∀ text, trie.find? text ≠ none → (text <+: input ↔ text <+: other))
    (longest : trie.IsLongest input found) : trie.IsLongest other found := by
  cases found with
  | none =>
    refine fun text head nonempty => Classical.byContradiction fun value => value ?_
    exact longest text ((same text value).mpr head) nonempty
  | some pair =>
    obtain ⟨text, head, nonempty, counted, value, most⟩ := longest
    refine ⟨text, (same text (by rw [value]; nofun)).mp head, nonempty, counted, value, ?_⟩
    refine fun longer head isLonger => Classical.byContradiction fun value => value ?_
    exact most longer ((same longer value).mpr head) isLonger

/-- A longest match is a text of the table at the head of the input, and is found in that
text alone. -/
theorem longestMatch_eq_some (found : (ofTable table).longestMatch input = some (stored, length)) :
    ∃ used rest, input = used ++ rest ∧ used ≠ [] ∧ length = used.length ∧
      (used, stored) ∈ table ∧ (ofTable table).longestMatch used = some (stored, length) := by
  obtain ⟨used, ⟨rest, rfl⟩, nonempty, rfl, value, most⟩ := longestMatch_eq_iff.mp found
  refine ⟨used, rest, rfl, nonempty, rfl, mem_of_find?_ofTable value, longestMatch_eq_iff.mpr ?_⟩
  refine ⟨used, List.prefix_rfl, nonempty, rfl, value, fun longer head isLonger => ?_⟩
  exact absurd head.length_le (Nat.not_le.mpr isLonger)

end Trie
end PatchScript
