import StackUnwind.Proofs.ValueFaults

/-!
# Accounting for frames

A session accounts for one physical frame after the other. The frame that was
pending is finalised, and the logical frame shown, if it runs a function that
the runtime knows, becomes pending and gets its line, if there is room for it.
This fails exactly when a value of the pending frame cannot be read; what it
changes otherwise is listed in `Accounted`.

Counters, the profile and the notices are not followed.
-/
namespace StackUnwind

/-- Every value that the frame gives up can be read. -/
def Frame.Releasable (memory : Memory) : Frame → Prop
  | .interpreted .. => True
  | .compiled region ip _ _ registers =>
      ∀ location ∈ region.releasesAt ip,
        ∃ value, location.resolve registers region.constants memory = .ok value

/-- The frame that a call cleans up, if it is such a call. -/
def HookCall.cleaned? : HookCall → Option Frame
  | .cleanup frame => some frame
  | .release _ => none

/-- The frames that were cleaned up, in the order of the calls. -/
def Ledger.cleanups (ledger : Ledger) : List Frame :=
  ledger.calls.toList.filterMap HookCall.cleaned?

/-- Whether a frame runs a function that the runtime knows. -/
def Hooks.knows (hooks : Hooks) (frame : Frame) : Bool :=
  (hooks.frameInfo frame).isSome

namespace Ledger

@[simp] theorem countFrame_calls (ledger : Ledger) (info : FrameInfo)
    (statement? : Option Statement) :
    (ledger.countFrame info statement?).calls = ledger.calls := by
  unfold countFrame countStatement
  split
  · dsimp only
    split <;> rfl
  · rfl

@[simp] theorem cleanups_countFrame (ledger : Ledger) (info : FrameInfo)
    (statement? : Option Statement) :
    (ledger.countFrame info statement?).cleanups = ledger.cleanups := by
  rw [cleanups, countFrame_calls, cleanups]

@[simp] theorem call_nil (ledger : Ledger) : ledger.call [] = ledger := by
  simp [call, Array.appendList]

theorem cleanups_call (ledger : Ledger) (calls : List HookCall) :
    (ledger.call calls).cleanups = ledger.cleanups ++ calls.filterMap HookCall.cleaned? := by
  simp [cleanups, call, Array.appendList]

end Ledger

theorem resolveAll_ok {resolve : Location → Except Fault Word} {locations : List Location}
    (h : ∀ location ∈ locations, ∃ value, resolve location = .ok value) :
    (resolveAll resolve locations).2 = .ok () := by
  induction locations with
  | nil => rfl
  | cons location rest ih =>
      obtain ⟨value, hvalue⟩ := h location List.mem_cons_self
      simp only [resolveAll, hvalue]
      exact ih fun l hl => h l (List.mem_cons_of_mem _ hl)

theorem Frame.scopedValues_ok {memory : Memory} {frame : Frame} (h : frame.Releasable memory) :
    (frame.scopedValues memory).2 = .ok () := by
  cases frame with
  | interpreted ip bp => rfl
  | compiled region ip bp sp registers => exact resolveAll_ok h

/-- Releasing values cleans up no frame. -/
theorem HookCall.cleaned_finalizing (values : List Word) (frame : Frame) :
    (values.map HookCall.release ++ [HookCall.cleanup frame]).filterMap HookCall.cleaned? =
      [frame] := by
  have hnone : (HookCall.cleaned? ∘ HookCall.release) = fun _ => none := rfl
  simp [hnone, HookCall.cleaned?]

theorem Frame.finalCalls_cleaned (frame : Frame) (memory : Memory) :
    (frame.finalCalls memory).1.filterMap HookCall.cleaned? = [frame] :=
  HookCall.cleaned_finalizing _ frame

theorem Settings.hasRoom_of_unlimited {settings : Settings} (h : settings.tracebackLimit = 0)
    (lines : Nat) : settings.tracebackHasRoom lines = true := by
  simp [tracebackHasRoom, h]

namespace Session

/-- What accounting for a frame that shows `shown?` changes. -/
structure Accounted (settings : Settings) (hooks : Hooks) (shown? : Option Frame)
    (before : Session × Ledger) (after : Session × Ledger) : Prop where
  active : after.1.active = before.1.active
  slot : after.1.slot = before.1.slot
  exception : after.1.exception? = before.1.exception?
  cleanupBase : after.1.cleanupBase? = before.1.cleanupBase?
  pending : after.1.pending? = shown?.filter hooks.knows
  cleanups : after.2.cleanups = before.2.cleanups ++ before.1.pending?.toList
  reraise : before.1.reraise = false → after.1.reraise = false
  traceback : before.1.reraise = false →
    after.1.traceback = before.1.traceback ++
      if settings.tracebackHasRoom before.1.traceback.length then
        (shown?.bind (TracebackEntry.lineOf? hooks)).toList else []

theorem Accounted.traceback_of_unlimited {settings : Settings} {hooks : Hooks}
    {shown? : Option Frame} {before after : Session × Ledger}
    (h : Accounted settings hooks shown? before after) (hreraise : before.1.reraise = false)
    (hlimit : settings.tracebackLimit = 0) :
    after.1.traceback =
      before.1.traceback ++ (shown?.bind (TracebackEntry.lineOf? hooks)).toList := by
  rw [h.traceback hreraise, if_pos (Settings.hasRoom_of_unlimited hlimit _)]

/-- How the release of the pending frame's values ends. -/
def pendingRelease (memory : Memory) (session : Session) : Except Fault Unit :=
  match session.pending? with
  | none => .ok ()
  | some frame => (frame.scopedValues memory).2

theorem pendingRelease_ok {memory : Memory} {session : Session}
    (h : ∀ frame, session.pending? = some frame → frame.Releasable memory) :
    session.pendingRelease memory = .ok () := by
  unfold pendingRelease
  split
  · rfl
  · rename_i frame hpending
    exact Frame.scopedValues_ok (h frame hpending)

theorem pendingRelease_error {memory : Memory} {session : Session} {fault : Fault}
    (h : session.pendingRelease memory = .error fault) : fault.IsOfValue := by
  unfold pendingRelease at h
  split at h
  · cases h
  · exact Frame.scopedValues_error h

/-- The calls that finalise the pending frame. -/
def pendingCalls (memory : Memory) (session : Session) : List HookCall :=
  match session.pending? with
  | none => []
  | some frame => (frame.finalCalls memory).1

theorem finalizePending_eq (memory : Memory) (session : Session) (ledger : Ledger) :
    session.finalizePending memory ledger =
      ({ session with pending? := none }, ledger.call (session.pendingCalls memory),
        session.pendingRelease memory) := by
  cases hpending : session.pending? with
  | none =>
      have hsame : { session with pending? := none } = session := by
        cases session
        cases hpending
        rfl
      simp only [finalizePending, pendingRelease, pendingCalls, hpending, hsame, Ledger.call_nil]
  | some frame =>
      simp only [finalizePending, pendingRelease, pendingCalls, hpending, pause, resume,
        Frame.finalCalls]

theorem finalizePending_spec (memory : Memory) (session : Session) (ledger : Ledger) :
    ∃ ledger', session.finalizePending memory ledger =
        ({ session with pending? := none }, ledger', session.pendingRelease memory) ∧
      ledger'.cleanups = ledger.cleanups ++ session.pending?.toList := by
  refine ⟨_, finalizePending_eq memory session ledger, ?_⟩
  rw [Ledger.cleanups_call]
  cases hpending : session.pending? with
  | none => simp only [pendingCalls, hpending, List.filterMap_nil, Option.toList_none]
  | some frame =>
      simp only [pendingCalls, hpending, Frame.finalCalls_cleaned, Option.toList_some]

theorem addLine_of_unlimited {settings : Settings} (hlimit : settings.tracebackLimit = 0)
    (entry : TracebackEntry) (session : Session) (ledger : Ledger) :
    session.addLine settings entry ledger =
      ({ session with traceback := session.traceback ++ [entry] },
        ledger.count .tracebackEntry) :=
  if_pos (Settings.hasRoom_of_unlimited hlimit _)

theorem addLine_eq (settings : Settings) (entry : TracebackEntry) (session : Session)
    (ledger : Ledger) :
    ∃ ledger', session.addLine settings entry ledger =
        ({ session with
          traceback := session.traceback ++
            if settings.tracebackHasRoom session.traceback.length then [entry] else [] },
        ledger') ∧
      ledger'.cleanups = ledger.cleanups := by
  unfold addLine
  split
  · exact ⟨_, rfl, rfl⟩
  · exact ⟨ledger, by simp, rfl⟩

/-- A known frame becomes pending, and gets a line unless it had one. -/
theorem enter_accounted (settings : Settings) {hooks : Hooks} {frame : Frame} {info : FrameInfo}
    (hinfo : hooks.frameInfo frame = some info) (session : Session) (ledger : Ledger) :
    Accounted settings hooks (some frame) ({ session with pending? := none }, ledger)
      (session.enter settings hooks frame info ledger) := by
  have hknows : (some frame).filter hooks.knows = some frame := by
    simp [Option.filter, Hooks.knows, hinfo]
  cases hreraise : session.reraise with
  | true =>
      unfold enter
      simp only [hreraise, if_true]
      constructor <;> simp [hknows]
  | false =>
      have hline : TracebackEntry.lineOf? hooks frame =
          some (.ofFrame info (hooks.statement frame)) := by simp [TracebackEntry.lineOf?, hinfo]
      obtain ⟨ledger', hadd, hcleanups⟩ := addLine_eq settings
        (.ofFrame info (hooks.statement frame)) { session with pending? := some frame } ledger
      have henter : session.enter settings hooks frame info ledger =
          ({ session with
            pending? := some frame
            traceback := session.traceback ++
              if settings.tracebackHasRoom session.traceback.length then
                [.ofFrame info (hooks.statement frame)] else [] },
          ledger'.countFrame info (hooks.statement frame)) := by
        unfold enter
        dsimp only
        rw [if_neg (by simp [hreraise]), hadd]
      rw [henter]
      constructor <;>
        simp [hknows, hcleanups, hline, hreraise]

/-- After a fault only the calls of the pending frame were made; the frame shown
leaves no trace. -/
theorem onFrame_eq_of_unreleased (settings : Settings) (hooks : Hooks) {memory : Memory}
    {session : Session} {fault : Fault} (h : session.pendingRelease memory = .error fault)
    (shown? : Option Frame) (ledger : Ledger) :
    session.onFrame settings hooks memory shown? ledger =
      ({ session with pending? := none }, ledger.call (session.pendingCalls memory),
        .error fault) := by
  unfold onFrame
  rw [finalizePending_eq, h]

theorem onFrame_of_unreleased (settings : Settings) (hooks : Hooks) {memory : Memory}
    {session : Session} {fault : Fault} (h : session.pendingRelease memory = .error fault)
    (shown? : Option Frame) (ledger : Ledger) :
    ∃ ledger', session.onFrame settings hooks memory shown? ledger =
      ({ session with pending? := none }, ledger', .error fault) :=
  ⟨_, onFrame_eq_of_unreleased settings hooks h shown? ledger⟩

theorem onFrame_of_released (settings : Settings) (hooks : Hooks) {memory : Memory}
    {session : Session} (h : session.pendingRelease memory = .ok ()) (shown? : Option Frame)
    (ledger : Ledger) :
    ∃ session' ledger', session.onFrame settings hooks memory shown? ledger =
        (session', ledger', .ok ()) ∧
      Accounted settings hooks shown? (session, ledger) (session', ledger') := by
  obtain ⟨ledger₁, hfinal, hcleanups⟩ := finalizePending_spec memory session ledger
  unfold onFrame
  rw [hfinal, h]
  dsimp only
  cases shown? with
  | none =>
      refine ⟨_, _, rfl, ?_⟩
      constructor <;> simp [hcleanups]
  | some frame =>
      dsimp only
      cases hinfo : hooks.frameInfo frame with
      | none =>
          refine ⟨_, _, rfl, ?_⟩
          constructor <;> simp [hcleanups, Option.filter, Hooks.knows, hinfo, TracebackEntry.lineOf?]
      | some info =>
          have henter := enter_accounted settings hinfo { session with pending? := none } ledger₁
          refine ⟨_, _, rfl, ?_⟩
          exact { henter with cleanups := by rw [henter.cleanups, hcleanups]; simp }

end Session
end StackUnwind
