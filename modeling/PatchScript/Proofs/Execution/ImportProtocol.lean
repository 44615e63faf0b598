import PatchScript.Proofs.Execution.Watching

/-!
# The protocol of imports

Over every session, and at every point of it: a library in flight is in flight once and not
yet loaded, its import fails with the chain of libraries in flight, and a library that is
loaded has one object and is not run again.  An import that fails leaves nothing of its own
behind, but keeps the libraries that were loaded for it.
-/

namespace PatchScript

namespace Event

/-- The store of the event is off the protocol. -/
def OffProtocol (event : Event) : Prop :=
  ¬ event.store.Protocol

/-- A library in flight was imported, and the import did not simply fail with the chain of
the libraries in flight and the library itself. -/
def MissesCycle : Event → Prop
  | .imported name span before result =>
    name ∈ before.loading ∧
      result ≠ .error (.error (.ofKindAt (.cyclicImport (before.loading ++ [name])) span)) before
  | _ => False

/-- A library was imported. -/
def Supplies (name : String) : Event → Prop
  | .imported library _ _ (.ok _ _) => library = name
  | _ => False

/-- A library was imported as something else than an object. -/
def SuppliesOther (name : String) (handle : ObjectRef) : Event → Prop
  | .imported library _ _ (.ok value _) => library = name ∧ value ≠ .object handle
  | _ => False

/-- The program of a library was executed to success. -/
def Completes (name : String) : Event → Prop
  | .ran library (.ok _ _) => library = name
  | _ => False

/-- An import failed and left other libraries in flight than before, or its own library
loaded. -/
def LeavesTraces : Event → Prop
  | .imported name _ before (.error _ after) =>
    after.loading ≠ before.loading ∨ after.imports.get? name ≠ none
  | _ => False

instance (name : String) : DecidablePred (Supplies name)
  | .imported library _ _ (.ok _ _) => inferInstanceAs (Decidable (library = name))
  | .imported _ _ _ (.error _ _) | .began _ | .ended _ | .ran _ _ => .isFalse id

end Event

/-! ## Events that do not happen -/

section Never

variable {watch : Event → Prop}

/-- An event that the protocol excludes is tolerated not to happen. -/
theorem tolerates_never (began : ∀ store, store.Protocol → ¬ watch (.began store))
    (ended : ∀ store, store.Protocol → ¬ watch (.ended store))
    (imported : ∀ name span before result, before.Protocol → Imports name span before result →
      ¬ watch (.imported name span before result))
    (ran : ∀ name result, (Run.finalStore result).Protocol → ¬ watch (.ran name result)) :
    Tolerates watch fun _ count => count = 0 where
  grows _ _ kept := kept
  began protocol happens _ := absurd happens (began _ protocol)
  ended protocol happens _ := absurd happens (ended _ protocol)
  imported protocol imports happens _ := absurd happens (imported _ _ _ _ protocol imports)
  finished _ protocol _ happens _ := absurd happens (ran _ _ protocol)
  broken protocol happens _ := absurd happens (ran _ _ protocol)

theorem tolerates_offProtocol : Tolerates Event.OffProtocol fun _ count => count = 0 :=
  tolerates_never (fun _ protocol off => off protocol) (fun _ protocol off => off protocol)
    (fun _ _ _ _ protocol imports off => off (imports.protocol protocol))
    fun _ _ protocol off => off protocol

theorem tolerates_missesCycle : Tolerates Event.MissesCycle fun _ count => count = 0 := by
  refine tolerates_never (fun _ _ => id) (fun _ _ => id) ?_ fun _ _ _ => id
  rintro name span before result protocol imports ⟨inFlight, misses⟩
  cases imports with
  | cached found =>
    rw [protocol.disjoint name inFlight] at found
    cases found
  | cyclic => exact misses rfl
  | loaded fresh | failed fresh => exact fresh inFlight

theorem tolerates_leavesTraces : Tolerates Event.LeavesTraces fun _ count => count = 0 := by
  refine tolerates_never (fun _ _ => id) (fun _ _ => id) ?_ fun _ _ _ => id
  intro name span before result protocol imports traces
  cases imports with
  | cached | loaded => exact traces
  | cyclic absent =>
    obtain changed | kept := traces
    · exact changed rfl
    · exact kept absent
  | failed _ _ sameLoading unkept =>
    obtain changed | kept := traces
    · exact changed sameLoading
    · exact kept unkept

end Never

/-! ## Events that happen by the protocol -/

variable (name : String)

/-- As long as a library is not loaded it was not imported, and once it is loaded it is only
imported as its object. -/
theorem tolerates_suppliesOther (handle : ObjectRef) :
    Tolerates (Event.SuppliesOther name handle) fun imports count =>
      (imports.get? name = none → count = 0) ∧ (imports.get? name = some handle → count = 0) where
  grows {imports inserted count} ref absent kept := by
    rw [OrderedMap.get?_insert]
    split
    next same => exact ⟨nofun, fun _ => kept.1 (same ▸ absent)⟩
    next => exact kept
  began _ happens := absurd happens id
  ended _ happens := absurd happens id
  imported {library span before result count} protocol imports happens kept := by
    cases imports with
    | cached found | loaded _ _ _ found =>
      obtain ⟨rfl, differs⟩ := happens
      simp only [Run.finalStore, found]
      exact ⟨nofun, fun same => absurd (congrArg Value.object (Option.some.inj same)) differs⟩
    | cyclic | failed => exact absurd happens id
  finished _ _ _ happens := absurd happens id
  broken _ happens := absurd happens id

/-- A library whose program was executed to success is loaded, and it was executed once. -/
theorem tolerates_completes :
    Tolerates (Event.Completes name) fun imports count =>
      count ≤ 1 ∧ (count = 1 → imports.contains name = true) where
  grows {imports inserted count} ref absent kept := by
    refine ⟨kept.1, fun once => ?_⟩
    have loaded := kept.2 once
    rw [OrderedMap.contains, OrderedMap.get?_insert]
    split
    · rfl
    · exact loaded
  began _ happens := absurd happens id
  ended _ happens := absurd happens id
  imported _ _ happens := absurd happens id
  finished {library after count} ref protocol inFlight happens kept := by
    cases happens
    have unkept : after.imports.contains name = false := by
      rw [OrderedMap.contains, protocol.disjoint name inFlight]
      rfl
    have none : count ≠ 1 := fun once => by
      rw [kept.2 once] at unkept
      cases unkept
    refine ⟨by have := kept.1; omega, fun _ => ?_⟩
    rw [OrderedMap.contains, OrderedMap.get?_insert, if_pos rfl]
    rfl
  broken _ happens := absurd happens id

/-- A library that was imported is loaded and stays so. -/
theorem tolerates_supplies :
    Tolerates (Event.Supplies name) fun imports count =>
      0 < count → imports.contains name = true where
  grows {imports inserted count} ref absent kept happened := by
    have loaded := kept happened
    rw [OrderedMap.contains, OrderedMap.get?_insert]
    split
    · rfl
    · exact loaded
  began _ happens := absurd happens id
  ended _ happens := absurd happens id
  imported {library span before result count} protocol imports happens kept _ := by
    cases imports with
    | cached found | loaded _ _ _ found =>
      cases happens
      simp only [Run.finalStore, OrderedMap.contains, found, Option.isSome_some]
    | cyclic | failed => exact absurd happens id
  finished _ _ _ happens := absurd happens id
  broken _ happens := absurd happens id

/-! ## Every session -/

open Classical in
/-- In every session that starts with an empty store, and at every point of it, a library
in flight is in flight once and not loaded.  Importing it fails with the chain of the
libraries in flight.  A library is always imported as the same object, and its program is
executed to success at most once.  An import that fails leaves the libraries in flight as
they were and its own library not loaded; but a library that was imported inside of any
import, from any store that keeps to the protocol, is loaded when the import has ended.

The first part says that to watch for these events changes nothing but the log, where each
of them is a line. -/
theorem import_protocol_kept (host : Host) (requests : List (Nat × Request)) :
    (∀ watch : Event → Prop,
      session (watchedInterpreter watch host) requests Store.empty =
          { session (interpreter host) requests Store.empty with
            log := (session (watchedInterpreter watch host) requests Store.empty).log } ∧
        (session (watchedInterpreter watch host) requests Store.empty).log.size =
          (session (interpreter host) requests Store.empty).log.size +
            occurrences host watch requests Store.empty) ∧
      (session (interpreter host) requests Store.empty).Protocol ∧
      occurrences host Event.OffProtocol requests Store.empty = 0 ∧
      occurrences host Event.MissesCycle requests Store.empty = 0 ∧
      (∀ name, ∃ handle,
        occurrences host (Event.SuppliesOther name handle) requests Store.empty = 0) ∧
      (∀ name, occurrences host (Event.Completes name) requests Store.empty ≤ 1) ∧
      occurrences host Event.LeavesTraces requests Store.empty = 0 ∧
      ∀ (store : Store) budget name span inner, store.Protocol →
        0 < occurrences host (Event.Supplies inner) [(budget, .importLibrary name span)] store →
        (session (interpreter host) [(budget, .importLibrary name span)] store).imports.contains
          inner = true := by
  have kept {watch : Event → Prop} {keeps : OrderedMap ObjectRef → Nat → Prop}
      (tolerates : Tolerates watch keeps) (initially : keeps OrderedMap.empty 0) :=
    keeps_occurrences tolerates host requests protocol_empty initially
  refine ⟨fun watch => session_watchedInterpreter host watch requests protocol_empty,
    (kept tolerates_offProtocol rfl).1, (kept tolerates_offProtocol rfl).2,
    (kept tolerates_missesCycle rfl).2, fun name => ?_, fun name => ?_,
    (kept tolerates_leavesTraces rfl).2, ?_⟩
  · -- The object that a library has in the end is the one it was always imported as.
    have counts (handle : ObjectRef) :=
      (kept (tolerates_suppliesOther name handle) ⟨fun _ => rfl, fun _ => rfl⟩).2
    cases found : (session (interpreter host) requests Store.empty).imports.get? name with
    | none => exact ⟨default, (counts default).1 found⟩
    | some handle => exact ⟨handle, (counts handle).2 found⟩
  · exact (kept (tolerates_completes name) ⟨Nat.zero_le 1, nofun⟩).2.1
  · intro store budget name span inner protocol happened
    have loaded := (keeps_occurrences (tolerates_supplies inner) host
      [(budget, .importLibrary name span)] protocol (fun none => absurd none (Nat.lt_irrefl 0))).2
    exact loaded happened

/-- Libraries `left` and `right` that import each other, and `shared`, which `left` imports
first. -/
def tangledHost : Host :=
  let somewhere : Span := { file := "", start := Position.start, stop := Position.start }
  let importing (names : List String) : Program :=
    { metadata := OrderedMap.empty
      statements := names.map fun name => .node somewhere (.importLibrary name name) }
  { scripts := some (OrderedMap.ofEntries
      [("left", importing ["shared", "right"]), ("right", importing ["left"]),
        ("shared", importing [])]) }

/-- The import of `left` fails over the cycle, but `shared` stays loaded. -/
theorem import_protocol_kept_tangled :
    let span : Span := { file := "", start := Position.start, stop := Position.start }
    let requests := [(20, Request.importLibrary "left" span)]
    let after := session (interpreter tangledHost) requests Store.empty
    Store.empty.Protocol ∧
      0 < occurrences tangledHost (Event.Supplies "shared") requests Store.empty ∧
      after.imports.contains "shared" = true ∧ after.imports.contains "left" = false ∧
      after.loading = [] := by
  intro span requests after
  have happened : 0 < occurrences tangledHost (Event.Supplies "shared") requests Store.empty := by
    decide +kernel
  obtain ⟨_, _, _, _, _, _, _, stays⟩ := import_protocol_kept tangledHost requests
  exact ⟨protocol_empty, happened,
    stays Store.empty 20 "left" span "shared" protocol_empty happened, rfl, rfl⟩

end PatchScript
