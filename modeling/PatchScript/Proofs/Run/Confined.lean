import PatchScript.Proofs.Run.Lawful

/-!
# Confined declarations

A correspondence of runs can be confined: names are declared in certain frames only, and
something holds of the frames between any two steps.  A correspondence stays if
this is kept by new frames and by the changes of frames that programs make.
-/

namespace PatchScript
namespace Correspondence

/-- The same correspondence, where names are declared only in the frames given and something
holds of the frames on the left side. -/
def confined (rel : Correspondence) (Local : FrameRef → FrameRef → Prop)
    (Keeps : PatchScript.Frames → Prop) : Correspondence :=
  { rel with
    Local := Local
    Stores := fun phase store store' => rel.Stores phase store store' ∧ Keeps store.frames }

/-- What is said of the frames is kept by the runs that a correspondence is about. -/
structure Confines (rel : Correspondence) (Local : FrameRef → FrameRef → Prop)
    (Keeps : PatchScript.Frames → Prop) : Prop where
  within {ref ref' : FrameRef} : Local ref ref' → rel.Local ref ref'
  addFrame {phase : rel.Phase} {store store' : Store} :
    rel.Stores phase store store' → Keeps store.frames →
    Local store.addFrame.1 store'.addFrame.1 ∧ Keeps store.frames.push
  commit {store : Store} {change change' : FrameChange} :
    Keeps store.frames → (rel.confined Local Keeps).FrameChanges store change change' →
    Keeps (store.frames.commit change)

variable {rel : Correspondence} {Local : FrameRef → FrameRef → Prop}
variable {Keeps : PatchScript.Frames → Prop}

theorem sameHandles_confined : SameHandles (rel.confined Local Keeps) rel :=
  ⟨rfl, rfl, rfl, rfl, rfl⟩

/-- The changes of a confined run are changes that programs make. -/
theorem Confines.frameChanges (confines : rel.Confines Local Keeps) {store : Store}
    {change change' : FrameChange}
    (changes : (rel.confined Local Keeps).FrameChanges store change change') :
    rel.FrameChanges store change change' := by
  cases changes with
  | declare name isMutable frames isLocal unbound values =>
    exact .declare name isMutable frames (confines.within isLocal) unbound
      (sameHandles_confined.values values)
  | parameter name frames isLocal noConstants values =>
    exact .parameter name frames (confines.within isLocal) noConstants
      (sameHandles_confined.values values)
  | assign name frames isVariable values =>
    exact .assign name frames isVariable (sameHandles_confined.values values)
  | remove name frames isVariable => exact .remove name frames isVariable

/-- A correspondence stays when it is confined. -/
theorem Lawful.confined [lawful : rel.Lawful] (confines : rel.Confines Local Keeps) :
    (rel.confined Local Keeps).Lawful := by
  have same : SameHandles (rel.confined Local Keeps) rel := sameHandles_confined
  constructor
  case object =>
    intro _ _ _ _ _ stores objects
    rw [same.members_eq]
    exact lawful.object stores.1 objects
  case array =>
    intro _ _ _ _ _ stores arrays
    rw [same.items_eq]
    exact lawful.array stores.1 arrays
  case function =>
    intro _ _ _ _ _ stores functions
    rw [same.callables_eq]
    exact lawful.function stores.1 functions
  case frame =>
    intro _ _ _ _ _ stores frames
    rw [same.bindings_eq]
    exact lawful.frame stores.1 frames
  case equal =>
    exact fun stores left right => lawful.equal stores.1 (same.values left) (same.values right)
  case displayText => exact fun stores values => lawful.displayText stores.1 (same.values values)
  case toJson => exact fun stores values => lawful.toJson stores.1 (same.values values)
  case addObject =>
    intro _ _ _ _ _ stores members
    rw [same.members_eq] at members
    obtain ⟨objects, after⟩ := lawful.addObject stores.1 members
    exact ⟨objects, after, stores.2⟩
  case addArray =>
    intro _ _ _ _ _ stores items
    rw [same.items_eq] at items
    obtain ⟨arrays, after⟩ := lawful.addArray stores.1 items
    exact ⟨arrays, after, stores.2⟩
  case addFunction =>
    intro _ _ _ _ _ stores callables attached
    rw [same.callables_eq] at callables
    obtain ⟨functions, after⟩ := lawful.addFunction stores.1 callables attached
    exact ⟨functions, after, stores.2⟩
  case addFrame =>
    intro _ _ _ stores
    obtain ⟨frames, _, after⟩ := lawful.addFrame stores.1
    obtain ⟨isLocal, keeps⟩ := confines.addFrame stores.1 stores.2
    exact ⟨frames, isLocal, after, keeps⟩
  case modifyObject =>
    intro _ _ _ _ _ _ _ stores objects changes keeps
    rw [same.members_eq] at changes
    exact ⟨lawful.modifyObject stores.1 objects changes keeps, stores.2⟩
  case modifyArray =>
    intro _ _ _ _ _ _ _ stores arrays changes
    rw [same.items_eq] at changes
    exact ⟨lawful.modifyArray stores.1 arrays changes, stores.2⟩
  case changeFrames =>
    intro _ _ _ _ _ stores changes
    exact ⟨lawful.changeFrames stores.1 (confines.frameChanges changes),
      confines.commit stores.2 changes⟩
  case log => exact fun text stores spans => ⟨lawful.log text stores.1 spans, stores.2⟩

end Correspondence
end PatchScript
