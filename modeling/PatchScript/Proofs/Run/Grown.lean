import PatchScript.Proofs.Run.Reading

/-!
# Stores that grow alike

Two runs start from two stores, parts of which are linked: a handle of the one stands for a
handle of the other with corresponding contents.  All that the runs can reach is what is linked
and what they have added themselves, in the same order.  So a handle that the one run has added
stands for the handle of the other that is as far beyond the start, and what is not linked stays
as it was.
-/

namespace PatchScript

variable {index index' size size' : Nat}

/-! ## Tables -/

/-- Indices that lie equally far beyond the ends of two tables. -/
def Shifted (size size' index index' : Nat) : Prop :=
  ∃ place, index = size + place ∧ index' = size' + place

theorem Shifted.eq_iff {other other' : Nat} (shifted : Shifted size size' index index')
    (otherShifted : Shifted size size' other other') : index = other ↔ index' = other' := by
  obtain ⟨place, rfl, rfl⟩ := shifted
  obtain ⟨otherPlace, rfl, rfl⟩ := otherShifted
  omega

/-- Which entries of one table stand for which of another, when the tables have grown from
these sizes: some of those that were there, one to one, and those that were added, in order. -/
structure Linking (size size' : Nat) where
  Links : Nat → Nat → Prop
  added {index index' : Nat} : Shifted size size' index index' → Links index index'
  oneToOne {index index' other other' : Nat} :
    Links index index' → Links other other' → (index = other ↔ index' = other')

namespace Linking

/-- No entry that was there stands for another. -/
def fresh (size size' : Nat) : Linking size size' where
  Links := Shifted size size'
  added := id
  oneToOne := Shifted.eq_iff

theorem fresh_unlinked (old : index < size) (index' : Nat) :
    ¬ (fresh size size').Links index index' := by
  rintro ⟨place, rfl, _⟩
  omega

theorem sharing_added (same : size = size') (shared : Nat → Prop)
    (shifted : Shifted size size' index index') :
    index = index' ∧ (shared index ∨ size ≤ index) := by
  obtain ⟨place, rfl, rfl⟩ := shifted
  exact ⟨by rw [same], .inr (Nat.le_add_right ..)⟩

/-- Some of the entries that were there stand for themselves. -/
def sharing {size size' : Nat} (same : size = size')
    (shared : Nat → Prop) : Linking size size' where
  Links index index' := index = index' ∧ (shared index ∨ size ≤ index)
  added := sharing_added same shared
  oneToOne links otherLinks := Eq.congr links.1 otherLinks.1

section Sharing

variable (same : size = size') {shared : Nat → Prop}

theorem sharing_unlinked (outside : ¬ shared index ∧ index < size) (index' : Nat) :
    ¬ (sharing same shared).Links index index' := by
  rintro ⟨_, inside | beyond⟩
  · exact outside.1 inside
  · exact absurd outside.2 (Nat.not_lt.mpr beyond)

theorem sharing_unlinked' (outside : ¬ shared index' ∧ index' < size) (index : Nat) :
    ¬ (sharing same shared).Links index index' := by
  rintro ⟨rfl, linked⟩
  exact sharing_unlinked same outside index ⟨rfl, linked⟩

end Sharing

end Linking

/-- Two tables that have kept the entries of two others that are not linked, while those that
are linked are related. -/
structure Grown {α β : Type} {base : Array α} {base' : Array β}
    (linking : Linking base.size base'.size) (Related : α → β → Prop) (table : Array α)
    (table' : Array β) : Prop where
  size : Shifted base.size base'.size table.size table'.size
  kept {index : Nat} : (∀ index', ¬ linking.Links index index') → table[index]? = base[index]?
  kept' {index' : Nat} : (∀ index, ¬ linking.Links index index') → table'[index']? = base'[index']?
  linked {index index' : Nat} :
    linking.Links index index' → Option.Rel Related table[index]? table'[index']?

namespace Grown

variable {α β : Type} {Related : α → β → Prop} {base table : Array α} {base' table' : Array β}

/-- Tables that have not grown. -/
theorem refl {linking : Linking base.size base'.size}
    (linked : ∀ index index', linking.Links index index' →
      Option.Rel Related base[index]? base'[index']?) :
    Grown linking Related base base' where
  size := ⟨0, rfl, rfl⟩
  kept _ := rfl
  kept' _ := rfl
  linked links := linked _ _ links

theorem fresh_refl : Grown (.fresh base.size base'.size) Related base base' := by
  refine refl ?_
  rintro _ _ ⟨place, rfl, rfl⟩
  rw [Array.getElem?_eq_none (Nat.le_add_right ..), Array.getElem?_eq_none (Nat.le_add_right ..)]
  exact .none

/-- Tables of one size have not grown where the entries that are shared are related. -/
theorem sharing_refl (same : base.size = base'.size) {shared : Nat → Prop}
    (related : ∀ index, shared index → Option.Rel Related base[index]? base'[index]?) :
    Grown (.sharing same shared) Related base base' := by
  refine refl ?_
  rintro index _ ⟨rfl, inside | beyond⟩
  · exact related index inside
  · rw [Array.getElem?_eq_none beyond, Array.getElem?_eq_none (same ▸ beyond)]
    exact .none

variable {linking : Linking base.size base'.size} (grown : Grown linking Related table table')

include grown

theorem push {entry : α} {entry' : β} (related : Related entry entry') :
    Grown linking Related (table.push entry) (table'.push entry') where
  size := by
    obtain ⟨place, size, size'⟩ := grown.size
    exact ⟨place + 1, by rw [Array.size_push, size]; rfl, by rw [Array.size_push, size']; rfl⟩
  kept {index} unlinked := by
    have notLast : index ≠ table.size := by
      rintro rfl
      exact unlinked _ (linking.added grown.size)
    rw [Array.getElem?_push, if_neg notLast]
    exact grown.kept unlinked
  kept' {index'} unlinked := by
    have notLast : index' ≠ table'.size := by
      rintro rfl
      exact unlinked _ (linking.added grown.size)
    rw [Array.getElem?_push, if_neg notLast]
    exact grown.kept' unlinked
  linked {index index'} links := by
    have isLast := linking.oneToOne links (linking.added grown.size)
    rw [Array.getElem?_push, Array.getElem?_push]
    by_cases last : index = table.size
    · rw [if_pos last, if_pos (isLast.mp last)]
      exact .some related
    · rw [if_neg last, if_neg fun last' => last (isLast.mpr last')]
      exact grown.linked links

theorem modify (links : linking.Links index index') {change : α → α} {change' : β → β}
    (related : ∀ entry entry', Related entry entry' → Related (change entry) (change' entry')) :
    Grown linking Related (table.modify index change) (table'.modify index' change') where
  size := by
    rw [Array.size_modify, Array.size_modify]
    exact grown.size
  kept {other} unlinked := by
    have unchanged : index ≠ other := by
      rintro rfl
      exact unlinked _ links
    rw [Array.getElem?_modify, if_neg unchanged]
    exact grown.kept unlinked
  kept' {other} unlinked := by
    have unchanged : index' ≠ other := by
      rintro rfl
      exact unlinked _ links
    rw [Array.getElem?_modify, if_neg unchanged]
    exact grown.kept' unlinked
  linked {other other'} otherLinks := by
    have isChanged := linking.oneToOne links otherLinks
    have entries := grown.linked otherLinks
    rw [Array.getElem?_modify, Array.getElem?_modify]
    by_cases changed : index = other
    · rw [if_pos changed, if_pos (isChanged.mp changed)]
      generalize table[other]? = entry, table'[other']? = entry' at entries
      cases entries with
      | none => exact .none
      | some same => exact .some (related _ _ same)
    · rw [if_neg changed, if_neg fun changed' => changed (isChanged.mpr changed')]
      exact entries

theorem getD (links : linking.Links index index') {entry : α} {entry' : β}
    (related : Related entry entry') :
    Related (table.getD index entry) (table'.getD index' entry') := by
  have entries := grown.linked links
  rw [Array.getD_eq_getD_getElem?, Array.getD_eq_getD_getElem?]
  generalize table[index]? = found, table'[index']? = found' at entries
  cases entries with
  | none => exact related
  | some same => exact same

theorem getD_of_unlinked (unlinked : ∀ index', ¬ linking.Links index index') (entry : α) :
    table.getD index entry = base.getD index entry := by
  rw [Array.getD_eq_getD_getElem?, Array.getD_eq_getD_getElem?, grown.kept unlinked]

theorem getD_of_unlinked' (unlinked : ∀ index, ¬ linking.Links index index') (entry' : β) :
    table'.getD index' entry' = base'.getD index' entry' := by
  rw [Array.getD_eq_getD_getElem?, Array.getD_eq_getD_getElem?, grown.kept' unlinked]

end Grown

/-! ## Stores -/

/-- Which handles of one store stand for which of another, once runs have started from them. -/
structure Links (before before' : Store) where
  objects : Linking before.objects.size before'.objects.size
  arrays : Linking before.arrays.size before'.arrays.size
  functions : Linking before.functions.size before'.functions.size
  frames : Linking before.frames.table.size before'.frames.table.size

/-- Only handles that were added stand for each other. -/
def Links.fresh (before before' : Store) : Links before before' where
  objects := .fresh _ _
  arrays := .fresh _ _
  functions := .fresh _ _
  frames := .fresh _ _

namespace Correspondence

/-- Handles stand for those they are linked to. -/
def linked {before before' : Store} (links : Links before before') : Correspondence where
  Phase := Unit
  Stores _ _ _ := True
  Objects ref ref' := links.objects.Links ref.index ref'.index
  Arrays ref ref' := links.arrays.Links ref.index ref'.index
  Functions ref ref' := links.functions.Links ref.index ref'.index
  Frames ref ref' := links.frames.Links ref.index ref'.index
  Local ref ref' := links.frames.Links ref.index ref'.index
  Definitions := Eq
  Spans := Eq
  checked := False
  exhausts := True

/-- Stores that have grown alike. -/
structure GrowsAlong {before before' : Store} (links : Links before before')
    (store store' : Store) : Prop where
  objects : Grown links.objects (linked links).Members store.objects store'.objects
  arrays : Grown links.arrays (linked links).Items store.arrays store'.arrays
  functions : Grown links.functions (linked links).Callables store.functions store'.functions
  frames : Grown links.frames (linked links).Bindings store.frames.table store'.frames.table
  imports : store.imports.Matches (linked links).Objects store'.imports
  loading : store.loading = store'.loading
  depth : store.callDepth = store'.callDepth
  log : ∃ added, store.log = before.log ++ added ∧ store'.log = before'.log ++ added

/-- The correspondence of runs that grow their stores alike. -/
def growingAlong {before before' : Store} (links : Links before before') : Correspondence :=
  (linked links).between (GrowsAlong links)

section Growing

variable {before before' : Store} {links : Links before before'}

theorem oneToOne_linked : (linked links).OneToOne where
  objects {ref ref' other other'} linked otherLinked := by
    cases ref; cases ref'; cases other; cases other'
    simpa using links.objects.oneToOne linked otherLinked
  arrays {ref ref' other other'} linked otherLinked := by
    cases ref; cases ref'; cases other; cases other'
    simpa using links.arrays.oneToOne linked otherLinked
  functions {ref ref' other other'} linked otherLinked := by
    cases ref; cases ref'; cases other; cases other'
    simpa using links.functions.oneToOne linked otherLinked
  frames {ref ref' other other'} linked otherLinked := by
    cases ref; cases ref'; cases other; cases other'
    simpa using links.frames.oneToOne linked otherLinked

theorem GrowsAlong.contents {store store' : Store} (grows : GrowsAlong links store store') :
    (linked links).Contents store store' where
  object refs := grows.objects.getD refs OrderedMap.matches_empty
  array refs := grows.arrays.getD refs .nil
  function refs := grows.functions.linked refs
  frame refs := grows.frames.getD refs ⟨OrderedMap.matches_empty, OrderedMap.matches_empty⟩

section

variable {rel : Correspondence} {frame frame' : Frame} (bindings : rel.Bindings frame frame')
variable (name : String)
include bindings

theorem Bindings.bind {value value' : Value} (values : rel.Values value value') (isMutable : Bool) :
    rel.Bindings (frame.bind name value isMutable) (frame'.bind name value' isMutable) := by
  cases isMutable with
  | true => exact ⟨bindings.mutables.insert name values, bindings.constants⟩
  | false => exact ⟨bindings.mutables, bindings.constants.insert name values⟩

theorem Bindings.dropVariable : rel.Bindings (frame.dropVariable name) (frame'.dropVariable name) :=
  ⟨bindings.mutables.erase name, bindings.constants⟩

end

theorem GrowsAlong.changeFrames {store store' : Store} (grows : GrowsAlong links store store')
    {change change' : FrameChange}
    (changes : (growingAlong links).FrameChanges store change change') :
    GrowsAlong links (store.changeFrames change) (store'.changeFrames change') := by
  have bound {ref ref' : FrameRef} (refs : (linked links).Frames ref ref') (name : String)
      {value value' : Value} (values : (growingAlong links).Values value value')
      (isMutable : Bool) :
      GrowsAlong links (store.changeFrames (.bind ref name value isMutable))
        (store'.changeFrames (.bind ref' name value' isMutable)) := by
    rw [growingAlong, between_values] at values
    exact { grows with
      frames := grows.frames.modify refs fun _ _ bindings => bindings.bind name values isMutable }
  cases changes with
  | declare name isMutable refs _ _ values => exact bound refs name values isMutable
  | parameter name refs _ _ values => exact bound refs name values true
  | assign name refs _ values => exact bound refs name values true
  | remove name refs =>
    exact { grows with
      frames := grows.frames.modify refs fun _ _ bindings => bindings.dropVariable name }

instance : (growingAlong links).Lawful := by
  have contents {store store' : Store} (grows : GrowsAlong links store store') :
      (growingAlong links).Contents store store' :=
    grows.contents.between _
  have named (definition definition' : FunctionDef) (same : definition = definition') :
      definition.name = definition'.name :=
    congrArg _ same
  constructor
  case object => exact fun grows => (contents grows).object
  case array => exact fun grows => (contents grows).array
  case function => exact fun grows => (contents grows).function
  case frame => exact fun grows => (contents grows).frame
  case equal => exact fun grows => (contents grows).equal_eq (oneToOne_linked.between _)
  case displayText => exact fun grows => (contents grows).displayText_eq named
  case toJson => exact fun grows => (contents grows).toJson_eq named
  case addObject =>
    intro _ _ _ _ _ grows members
    rw [growingAlong, between_members] at members
    exact ⟨links.objects.added grows.objects.size, { grows with objects := grows.objects.push members }⟩
  case addArray =>
    intro _ _ _ _ _ grows items
    rw [growingAlong, between_items] at items
    exact ⟨links.arrays.added grows.arrays.size, { grows with arrays := grows.arrays.push items }⟩
  case addFunction =>
    intro _ _ _ _ _ grows callables _
    rw [growingAlong, between_callables] at callables
    exact ⟨links.functions.added grows.functions.size,
      { grows with functions := grows.functions.push callables }⟩
  case addFrame =>
    intro _ _ _ grows
    have empty : (linked links).Bindings .empty .empty :=
      ⟨OrderedMap.matches_empty, OrderedMap.matches_empty⟩
    have added := links.frames.added grows.frames.size
    exact ⟨added, added, { grows with frames := grows.frames.push empty }⟩
  case modifyObject =>
    intro _ _ _ _ _ _ _ grows refs changes _
    rw [growingAlong, between_members] at changes
    exact { grows with objects := grows.objects.modify refs changes }
  case modifyArray =>
    intro _ _ _ _ _ _ _ grows refs changes
    rw [growingAlong, between_items] at changes
    exact { grows with arrays := grows.arrays.modify refs changes }
  case changeFrames => exact fun grows changes => grows.changeFrames changes
  case log =>
    intro _ _ _ span _ text grows spans
    cases spans
    obtain ⟨added, first, second⟩ := grows.log
    refine { grows with log := ⟨added.push { span := span, text := text }, ?_, ?_⟩ }
    · rw [first, Array.append_push]
    · rw [second, Array.append_push]

end Growing

/-! ## Stores with nothing in common -/

/-- Handles stand for those that are as far beyond the start. -/
abbrev beyond (before before' : Store) : Correspondence :=
  linked (.fresh before before')

/-- Stores that have grown alike from stores that may have nothing in common. -/
abbrev Grows (before before' : Store) : Store → Store → Prop :=
  GrowsAlong (.fresh before before')

/-- The correspondence of runs that start from stores that may have nothing in common. -/
abbrev growing (before before' : Store) : Correspondence :=
  growingAlong (.fresh before before')

theorem grows_self {before before' : Store}
    (loads : before.imports = OrderedMap.empty ∧ before'.imports = OrderedMap.empty)
    (loading : before.loading = before'.loading) (depth : before.callDepth = before'.callDepth) :
    Grows before before' before before' where
  objects := .fresh_refl
  arrays := .fresh_refl
  functions := .fresh_refl
  frames := .fresh_refl
  imports := by
    rw [loads.1, loads.2]
    exact OrderedMap.matches_empty
  loading := loading
  depth := depth
  log := ⟨#[], rfl, rfl⟩

end Correspondence
end PatchScript
