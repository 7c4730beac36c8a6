import StackUnwind.Proofs.EpisodeOutcome
import Mathlib

/-!
# Finalising a frame one visit later

An exception may be caught in the frame that it has reached, so the frame waits
and is finalised when the next one is visited. This module follows any number
of visits, each with its own settings, runtime and memory, and also goes on
after a visit that failed. Nothing is assumed of the session or of the calls
made before.

What a visit owes the frame that waits is said by `Finalizes`, location by
location and without reference to how the session does it. `Orderly` adds what
a visit may change besides. The frames then move through the visits one behind:
what one visit accepts is what the next one finalises, and what the last one
accepts still waits.
-/
namespace StackUnwind

/-- Either every location is read, or the first one that cannot be read ends the
reading with its fault. -/
theorem resolveAll_cases (resolve : Location → Except Fault Word) (locations : List Location) :
    (∃ values, resolveAll resolve locations = (values, .ok ()) ∧
      List.Forall₂ (fun location value => resolve location = .ok value) locations values) ∨
    ∃ front location rest values fault, locations = front ++ location :: rest ∧
      resolveAll resolve locations = (values, .error fault) ∧
      List.Forall₂ (fun location value => resolve location = .ok value) front values ∧
      resolve location = .error fault := by
  induction locations with
  | nil => exact .inl ⟨[], rfl, .nil⟩
  | cons location rest ih =>
      cases hvalue : resolve location with
      | error fault =>
          right
          refine ⟨[], location, rest, [], fault, rfl, ?_, .nil, hvalue⟩
          simp only [resolveAll, hvalue]
      | ok value =>
          obtain ⟨values, hall, hvalues⟩ |
            ⟨front, bad, others, values, fault, rfl, hall, hvalues, hfault⟩ := ih
          · left
            refine ⟨value :: values, ?_, hvalues.cons hvalue⟩
            simp only [resolveAll, hvalue, hall]
          · right
            refine ⟨location :: front, bad, others, value :: values, fault, rfl, ?_,
              hvalues.cons hvalue, hfault⟩
            simp only [resolveAll, hvalue, hall]

namespace Session

variable (settings : Settings) (hooks : Hooks) (memory : Memory)

theorem enter_calls (frame : Frame) (info : FrameInfo) (session : Session) (ledger : Ledger) :
    (session.enter settings hooks frame info ledger).2.calls = ledger.calls := by
  unfold enter addLine
  dsimp only
  split_ifs
  · rfl
  · exact Ledger.countFrame_calls _ _ _
  · exact Ledger.countFrame_calls _ _ _

/-- The calls made for a frame are those that finalise the one before. -/
theorem onFrame_calls (frame? : Option Frame) (session : Session) (ledger : Ledger) :
    (session.onFrame settings hooks memory frame? ledger).2.1.calls =
      (ledger.call (session.pendingCalls memory)).calls := by
  unfold onFrame
  rw [finalizePending_eq]
  cases session.pendingRelease memory with
  | error fault => rfl
  | ok _ =>
      dsimp only
      split
      · rfl
      · split
        · rfl
        · exact enter_calls settings hooks _ _ _ _

theorem onFrame_result (frame? : Option Frame) (session : Session) (ledger : Ledger) :
    (session.onFrame settings hooks memory frame? ledger).2.2 =
      session.pendingRelease memory := by
  cases hrelease : session.pendingRelease memory with
  | error fault => rw [onFrame_eq_of_unreleased settings hooks hrelease]
  | ok _ =>
      obtain ⟨_, _, hframe, -⟩ := onFrame_of_released settings hooks hrelease frame? ledger
      rw [hframe]

end Session

namespace Deferred

/-- A physical frame that the exception passes, with the logical frame it shows
and what holds at that time. -/
structure Visit where
  settings : Settings
  hooks : Hooks
  memory : Memory
  frame? : Option Frame

/-- A visit that was made, and what came of it. -/
structure Visited where
  visit : Visit
  before : Session × Ledger
  after : Session × Ledger
  result : Except Fault Unit

def Visit.perform (visit : Visit) (state : Session × Ledger) : Visited :=
  let (session, ledger, result) :=
    state.1.onFrame visit.settings visit.hooks visit.memory visit.frame? state.2
  ⟨visit, state, (session, ledger), result⟩

/-- Visits made one after the other. -/
def performAll (state : Session × Ledger) : List Visit → List Visited
  | [] => []
  | visit :: rest => visit.perform state :: performAll (visit.perform state).after rest

def stateAfter (state : Session × Ledger) : List Visit → Session × Ledger
  | [] => state
  | visit :: rest => stateAfter (visit.perform state).after rest

/-- The calls that finalise the frame that waits, and how its finalisation ends.
The values of compiled code are released in the order of the release table, up
to the first that cannot be read; the frame is cleaned up in any case. -/
inductive Finalizes (memory : Memory) : Option Frame → List HookCall → Except Fault Unit → Prop
  | nothing : Finalizes memory none [] (.ok ())
  | interpreted {ip bp : Word} :
      Finalizes memory (some (.interpreted ip bp)) [.cleanup (.interpreted ip bp)] (.ok ())
  | released {region : CodeRegion} {ip bp sp : Word} {registers : RegisterFile}
      {values : List Word}
      (hvalues : List.Forall₂
        (fun location value => location.resolve registers region.constants memory = .ok value)
        (region.releasesAt ip) values) :
      Finalizes memory (some (.compiled region ip bp sp registers))
        (values.map .release ++ [.cleanup (.compiled region ip bp sp registers)]) (.ok ())
  | unreleased {region : CodeRegion} {ip bp sp : Word} {registers : RegisterFile}
      {front rest : List Location} {location : Location} {values : List Word} {fault : Fault}
      (hlocations : region.releasesAt ip = front ++ location :: rest)
      (hvalues : List.Forall₂
        (fun location value => location.resolve registers region.constants memory = .ok value)
        front values)
      (hfault : location.resolve registers region.constants memory = .error fault) :
      Finalizes memory (some (.compiled region ip bp sp registers))
        (values.map .release ++ [.cleanup (.compiled region ip bp sp registers)]) (.error fault)

namespace Visited

/-- The calls that were made during the visit. -/
def calls (visited : Visited) : List HookCall :=
  visited.after.2.calls.toList.drop visited.before.2.calls.size

/-- The frame that waits from now on: the one shown, if the runtime knows its
function and the visit did not fail. -/
def accepted? (visited : Visited) : Option Frame :=
  match visited.result with
  | .ok () => visited.visit.frame?.filter visited.visit.hooks.knows
  | .error _ => none

/-- The visit finalises the frame that waits and then turns to its own. -/
structure Orderly (visited : Visited) : Prop where
  appended : visited.after.2.calls.toList = visited.before.2.calls.toList ++ visited.calls
  finalized : Finalizes visited.visit.memory visited.before.1.pending? visited.calls visited.result
  pending : visited.after.1.pending? = visited.accepted?
  /-- A visit that fails takes no note of its own frame. -/
  failed : ∀ fault, visited.result = .error fault →
    visited.after =
      ({ visited.before.1 with pending? := none }, visited.before.2.call visited.calls)
  active : visited.after.1.active = visited.before.1.active
  exception : visited.after.1.exception? = visited.before.1.exception?
  cleanupBase : visited.after.1.cleanupBase? = visited.before.1.cleanupBase?

end Visited

/-! One visit -/

theorem finalizes_pending (memory : Memory) (session : Session) :
    Finalizes memory session.pending? (session.pendingCalls memory)
      (session.pendingRelease memory) := by
  unfold Session.pendingCalls Session.pendingRelease
  cases session.pending? with
  | none => exact .nothing
  | some frame =>
      cases frame with
      | interpreted ip bp => exact .interpreted
      | compiled region ip bp sp registers =>
          simp only [Frame.finalCalls, Frame.scopedValues]
          obtain ⟨values, hall, hvalues⟩ |
            ⟨front, location, rest, values, fault, hlocations, hall, hvalues, hfault⟩ :=
              resolveAll_cases (fun location => location.resolve registers region.constants memory)
                (region.releasesAt ip)
          · rw [hall]
            exact .released hvalues
          · rw [hall]
            exact .unreleased hlocations hvalues hfault

section Perform

variable (visit : Visit) (state : Session × Ledger)

theorem perform_result :
    (visit.perform state).result = state.1.pendingRelease visit.memory :=
  Session.onFrame_result visit.settings visit.hooks visit.memory visit.frame? state.1 state.2

theorem perform_appended :
    (visit.perform state).after.2.calls.toList =
      state.2.calls.toList ++ state.1.pendingCalls visit.memory := by
  have hcalls := Session.onFrame_calls visit.settings visit.hooks visit.memory visit.frame?
    state.1 state.2
  calc (visit.perform state).after.2.calls.toList
      = (state.2.call (state.1.pendingCalls visit.memory)).calls.toList :=
        congrArg Array.toList hcalls
    _ = state.2.calls.toList ++ state.1.pendingCalls visit.memory := by
        simp [Ledger.call, Array.appendList]

theorem perform_calls : (visit.perform state).calls = state.1.pendingCalls visit.memory := by
  have hsize : (visit.perform state).before.2.calls.size = state.2.calls.toList.length := rfl
  rw [Visited.calls, perform_appended, hsize, List.drop_left]

theorem perform_pending :
    (visit.perform state).after.1.pending? = (visit.perform state).accepted? := by
  unfold Visited.accepted?
  rw [perform_result]
  cases hrelease : state.1.pendingRelease visit.memory with
  | error fault =>
      have hframe := Session.onFrame_eq_of_unreleased visit.settings visit.hooks hrelease
        visit.frame? state.2
      simp only [Visit.perform, hframe]
  | ok _ =>
      obtain ⟨session, ledger, hframe, haccounted⟩ :=
        Session.onFrame_of_released visit.settings visit.hooks hrelease visit.frame? state.2
      simp only [Visit.perform, hframe]
      exact haccounted.pending

theorem perform_failed {fault : Fault} (h : (visit.perform state).result = .error fault) :
    (visit.perform state).after =
      ({ state.1 with pending? := none }, state.2.call (visit.perform state).calls) := by
  rw [perform_result] at h
  have hframe := Session.onFrame_eq_of_unreleased visit.settings visit.hooks h visit.frame? state.2
  rw [perform_calls]
  simp only [Visit.perform, hframe]

theorem perform_orderly : (visit.perform state).Orderly := by
  have hkeeps := Session.onFrame_keeps visit.settings visit.hooks visit.memory visit.frame?
    state.1 state.2
  refine ⟨?_, ?_, perform_pending visit state, fun _ => perform_failed visit state,
    hkeeps.1, hkeeps.2.1, hkeeps.2.2⟩
  · rw [perform_calls]
    exact perform_appended visit state
  · rw [perform_calls, perform_result]
    exact finalizes_pending visit.memory state.1

end Perform

/-- A frame is cleaned up once in its finalisation, and no other frame is. -/
theorem Finalizes.cleaned {memory : Memory} {frame? : Option Frame} {calls : List HookCall}
    {result : Except Fault Unit} (h : Finalizes memory frame? calls result) :
    calls.filterMap HookCall.cleaned? = frame?.toList := by
  cases h with
  | nothing => rfl
  | interpreted => rfl
  | released hvalues => exact HookCall.cleaned_finalizing _ _
  | unreleased hlocations hvalues hfault => exact HookCall.cleaned_finalizing _ _

/-! Any number of visits -/

theorem performAll_orderly {visited : Visited} (visits : List Visit) (state : Session × Ledger)
    (h : visited ∈ performAll state visits) : visited.Orderly := by
  induction visits generalizing state with
  | nil => cases h
  | cons visit rest ih =>
      rcases List.mem_cons.mp h with rfl | hrest
      · exact perform_orderly visit state
      · exact ih (visit.perform state).after hrest

/-- What waits before the visits and after the last of them is what was there at
first and then what each visit accepted. -/
theorem pending_one_behind (visits : List Visit) (state : Session × Ledger) :
    (performAll state visits).map (·.before.1.pending?) ++
        [(stateAfter state visits).1.pending?] =
      state.1.pending? :: (performAll state visits).map Visited.accepted? := by
  induction visits generalizing state with
  | nil => rfl
  | cons visit rest ih =>
      have hrest := ih (visit.perform state).after
      rw [perform_pending] at hrest
      exact congrArg (state.1.pending? :: ·) hrest

theorem calls_stateAfter (visits : List Visit) (state : Session × Ledger) :
    (stateAfter state visits).2.calls.toList =
      state.2.calls.toList ++ (performAll state visits).flatMap Visited.calls := by
  induction visits generalizing state with
  | nil => simp [stateAfter, performAll]
  | cons visit rest ih =>
      calc (stateAfter (visit.perform state).after rest).2.calls.toList
          = (visit.perform state).after.2.calls.toList ++
              (performAll (visit.perform state).after rest).flatMap Visited.calls := ih _
        _ = state.2.calls.toList ++ ((visit.perform state).calls ++
              (performAll (visit.perform state).after rest).flatMap Visited.calls) := by
            rw [(perform_orderly visit state).appended, List.append_assoc]
            rfl

theorem stateAfter_keeps (visits : List Visit) (state : Session × Ledger) :
    (stateAfter state visits).1.active = state.1.active ∧
      (stateAfter state visits).1.exception? = state.1.exception? ∧
      (stateAfter state visits).1.cleanupBase? = state.1.cleanupBase? := by
  induction visits generalizing state with
  | nil => exact ⟨rfl, rfl, rfl⟩
  | cons visit rest ih =>
      have hvisit := perform_orderly visit state
      obtain ⟨hactive, hexception, hbase⟩ := ih (visit.perform state).after
      exact ⟨hactive.trans hvisit.active, hexception.trans hvisit.exception,
        hbase.trans hvisit.cleanupBase⟩

/-- The frames cleaned up and the one that waits are those of the beginning and
then those accepted, in their order. -/
theorem cleanups_stateAfter (visits : List Visit) (state : Session × Ledger) :
    (stateAfter state visits).2.cleanups ++ (stateAfter state visits).1.pending?.toList =
      state.2.cleanups ++ state.1.pending?.toList ++
        (performAll state visits).filterMap Visited.accepted? := by
  have hcleaned : ((performAll state visits).flatMap Visited.calls).filterMap HookCall.cleaned? =
      (performAll state visits).flatMap (·.before.1.pending?.toList) := by
    rw [List.filterMap_flatMap]
    apply List.flatMap_congr
    intro visited hmem
    exact (performAll_orderly visits state hmem).finalized.cleaned
  have hbehind := congrArg (List.flatMap Option.toList) (pending_one_behind visits state)
  simp only [List.flatMap_append, List.flatMap_map, List.flatMap_cons, List.flatMap_nil,
    List.append_nil] at hbehind
  calc (stateAfter state visits).2.cleanups ++ (stateAfter state visits).1.pending?.toList
      = state.2.cleanups ++ ((performAll state visits).flatMap (·.before.1.pending?.toList) ++
          (stateAfter state visits).1.pending?.toList) := by
        rw [Ledger.cleanups, calls_stateAfter, List.filterMap_append, hcleaned, List.append_assoc]
        rfl
    _ = state.2.cleanups ++ (state.1.pending?.toList ++
          (performAll state visits).flatMap (·.accepted?.toList)) := by rw [hbehind]
    _ = state.2.cleanups ++ state.1.pending?.toList ++
          (performAll state visits).filterMap Visited.accepted? := by
        rw [List.filterMap_eq_flatMap_toList, List.append_assoc]

/-- Finalisation is deferred by one visit, and every frame gets it once. However
the visits go, each is orderly; what waits before a visit is what the visit
before accepted, and what the last visit accepted still waits. The calls of the
visits follow each other, so the frames are cleaned up in the order in which
they were accepted. The episode itself stays as it was. -/
theorem finalized_once_at_next_visit (visits : List Visit) (state : Session × Ledger) :
    let visited := performAll state visits
    let final := stateAfter state visits
    (∀ v ∈ visited, v.Orderly) ∧
      visited.map (·.before.1.pending?) ++ [final.1.pending?] =
        state.1.pending? :: visited.map Visited.accepted? ∧
      final.2.calls.toList = state.2.calls.toList ++ visited.flatMap Visited.calls ∧
      final.2.cleanups ++ final.1.pending?.toList =
        state.2.cleanups ++ state.1.pending?.toList ++ visited.filterMap Visited.accepted? ∧
      final.1.active = state.1.active ∧ final.1.exception? = state.1.exception? ∧
      final.1.cleanupBase? = state.1.cleanupBase? := by
  intro visited final
  refine ⟨?_, pending_one_behind visits state, calls_stateAfter visits state,
    cleanups_stateAfter visits state, stateAfter_keeps visits state⟩
  intro v hv
  exact performAll_orderly visits state hv

/-- Compiled code that gives up three values, the second of which is lost. -/
def lossyFrame : Frame :=
  .compiled
    (CodeRegion.withReleases
      { start := 0x1000, size := 0x100, tier := .baseline, functionId := 7 } 0x10
      [.constant 5, .register .rbx, .constant 6])
    0x1010 0x7000 0x6f00 .empty

/-- The visit of a frame, with a runtime that knows every function. -/
def visitOf (frame : Frame) : Visit where
  settings := {}
  hooks := { frameInfo := fun frame => some ⟨frame.bp, "f", "f.py"⟩, statement := fun _ => none }
  memory := .empty
  frame? := some frame

def lossyVisits : List Visit :=
  [visitOf lossyFrame, visitOf (.interpreted 2 2), visitOf (.interpreted 3 3),
    visitOf (.interpreted 4 4)]

/-- An episode that has just begun, with its exception. -/
def begun : Session × Ledger :=
  ((Session.start { slot := 0 } 0).setException ⟨1, 2, 3⟩, { profile := { threshold := 100 } })

/-- The second visit fails, so its own frame is never cleaned up, and no later
visit comes back to the frame that it could not release. -/
theorem lossyFrame_finalized_once :
    (performAll begun lossyVisits).map (fun visited => (visited.calls, visited.result)) =
        [([], .ok ()),
          ([.release 5, .cleanup lossyFrame], .error (.registerUnavailable Register.rbx)),
          ([], .ok ()),
          ([.cleanup (.interpreted 3 3)], .ok ())] ∧
      (stateAfter begun lossyVisits).1.pending? = some (.interpreted 4 4) ∧
      (stateAfter begun lossyVisits).1.exception? = some ⟨1, 2, 3⟩ := by
  obtain ⟨-, -, -, -, -, hexception, -⟩ := finalized_once_at_next_visit lossyVisits begun
  exact ⟨by decide, by decide, hexception⟩

end Deferred
end StackUnwind
