import StackUnwind.Proofs.CapturedUnwinding

/-!
# Frames left behind

An unwinding of a captured stack leaves frames behind, one after the other,
until it stops at a frame or behind the outermost one. `Passage` relates the
states before and after the frames left behind, and `Ending` says how it stops
there. Every run is a passage with an ending, so that what each frame keeps is
shown for passages, by induction, and the ways to stop are told apart once.

Both relations are about the runs of `Unwinding.Run`, with any host, any
session and any frames to pass over.
-/
namespace StackUnwind

namespace Unwinding

/-- The frames are left behind, each passed over on the way to a base or
accounted for without a landing pad. -/
inductive Passage (host : Host) : CapturedCursor → Unwinding → List CapturedFrame →
    CapturedCursor → Unwinding → Prop
  | stays {c u} : Passage host c u [] c u
  | skips {c c' frame rest u u' target} (hskip : u.skipThrough? = some target)
      (hrest : Passage host (c.onto frame)
        (((u.onto c frame).observe (host.kindOf frame)).1.skip target) rest c' u') :
      Passage host c u (frame :: rest) c' u'
  | passes {c c' frame rest u v u'} (hskip : u.skipThrough? = none)
      (haccount : (u.onto c frame).account host frame = (v, .ok ()))
      (hverdict : host.verdict frame = .ok none)
      (hrest : Passage host (c.onto frame) v rest c' u') :
      Passage host c u (frame :: rest) c' u'

/-- How an unwinding stops in front of the frames of a list, of which it may
visit `budget`. -/
inductive Ending (host : Host) (now : Nat) : Nat → CapturedCursor → List CapturedFrame →
    Unwinding → Unwinding → Except Fault Landed → Prop
  | exhausted {budget c u} :
      Ending host now budget c [] u { u with cursor := .captured c.past }
        (.error (.noHandler (host.settings.maxWalkDepth - budget)))
  | tooDeep {c frame rest u} :
      Ending host now 0 c (frame :: rest) u (u.onto c frame)
        (.error (.walkTooDeep host.settings.maxWalkDepth))
  | refused {left c frame rest u u' fault} (hskip : u.skipThrough? = none)
      (haccount : (u.onto c frame).account host frame = (u', .error fault)) :
      Ending host now (left + 1) c (frame :: rest) u u' (.error fault)
  | faults {left c frame rest u u' fault} (hskip : u.skipThrough? = none)
      (haccount : (u.onto c frame).account host frame = (u', .ok ()))
      (hverdict : host.verdict frame = .error fault) :
      Ending host now (left + 1) c (frame :: rest) u u' (.error fault)
  | lands {left c frame rest u u' pad action} (hskip : u.skipThrough? = none)
      (haccount : (u.onto c frame).account host frame = (u', .ok ()))
      (hverdict : host.verdict frame = .ok (some (pad, action))) :
      Ending host now (left + 1) c (frame :: rest) u
        (u'.land now (host.settings.maxWalkDepth - left) pad action).1
        (.ok ⟨pad, frame.bp, action⟩)

variable {host : Host} {now : Nat} {c : CapturedCursor} {frame : CapturedFrame}
variable {u u' : Unwinding}

/-! The account of a frame that the cursor has moved to -/

theorem account_cursor {result : Except Fault Unit}
    (h : (u.onto c frame).account host frame = (u', result)) :
    u'.cursor = .captured (c.onto frame) := by
  have hmoved : (u.onto c frame).cursor = .captured (c.onto frame) := rfl
  have hkeeps := (account_keeps host hmoved rfl).1
  rw [h] at hkeeps
  exact hkeeps

theorem account_accounted (h : (u.onto c frame).account host frame = (u', .ok ())) :
    u'.skipThrough? = u.skipThrough? ∧
      u'.shadows = (u.shadows.see (host.eventOf? frame)).1 ∧
      Session.Accounted host.settings host.hooks (u.shadows.see (host.eventOf? frame)).2
        (u.session, u.ledger) (u'.session, u'.ledger) := by
  have hmoved : (u.onto c frame).cursor = .captured (c.onto frame) := rfl
  cases hrelease : u.session.pendingRelease c.memory with
  | error fault =>
      obtain ⟨v, hfault⟩ := account_of_unreleased host hmoved rfl hrelease
      rw [hfault] at h
      cases h
  | ok _ =>
      obtain ⟨v, hok, -, haccounted⟩ := account_of_released host hmoved rfl hrelease
      rw [hok] at h
      cases h
      exact haccounted

/-- Accounting fails only for a value that cannot be read. -/
theorem account_error {fault : Fault}
    (h : (u.onto c frame).account host frame = (u', .error fault)) : fault.IsOfValue := by
  have hmoved : (u.onto c frame).cursor = .captured (c.onto frame) := rfl
  cases hrelease : u.session.pendingRelease c.memory with
  | error e =>
      obtain ⟨v, hfault⟩ := account_of_unreleased host hmoved rfl hrelease
      rw [hfault] at h
      cases h
      exact Session.pendingRelease_error hrelease
  | ok _ =>
      obtain ⟨v, hok, -⟩ := account_of_released host hmoved rfl hrelease
      rw [hok] at h
      cases h

/-! Passages and endings -/

/-- A passage moves the cursor on, and records no landing. -/
theorem Passage.cursor {passed : List CapturedFrame} {c' : CapturedCursor}
    (h : Passage host c u passed c' u') :
    c'.landing? = c.landing? ∧ c'.nextPosition = c.nextPosition + passed.length := by
  induction h with
  | stays => exact ⟨rfl, rfl⟩
  | @skips c _ frame _ _ _ _ _ _ ih | @passes c _ frame _ _ _ _ _ _ _ _ ih =>
      have hnext : (c.onto frame).nextPosition = c.nextPosition + 1 := rfl
      refine ⟨ih.1, ?_⟩
      rw [ih.2, hnext, List.length_cons]
      omega

/-- Every run leaves some frames behind and stops in front of the others. -/
theorem Run.split {budget : Nat} {ahead : List CapturedFrame} {result : Except Fault Landed}
    (h : Run host now budget c ahead u u' result) :
    ∃ passed rest left c' v, ahead = passed ++ rest ∧ budget = passed.length + left ∧
      Passage host c u passed c' v ∧ Ending host now left c' rest v u' result := by
  induction h with
  | exhausted => exact ⟨[], [], _, _, _, rfl, (Nat.zero_add _).symm, .stays, .exhausted⟩
  | tooDeep => exact ⟨[], _, 0, _, _, rfl, rfl, .stays, .tooDeep⟩
  | refused hskip haccount =>
      exact ⟨[], _, _, _, _, rfl, (Nat.zero_add _).symm, .stays, .refused hskip haccount⟩
  | faults hskip haccount hverdict =>
      exact ⟨[], _, _, _, _, rfl, (Nat.zero_add _).symm, .stays, .faults hskip haccount hverdict⟩
  | @lands left c frame _ _ v pad action hskip haccount hverdict =>
      have hlanded := (land_captured now (account_cursor haccount) rfl
        (host.settings.maxWalkDepth - left) pad action).1
      rw [hlanded]
      exact ⟨[], _, _, _, _, rfl, (Nat.zero_add _).symm, .stays, .lands hskip haccount hverdict⟩
  | @skips _ _ frame _ _ _ _ _ hskip _ ih =>
      obtain ⟨passed, rest, left, c', v, rfl, rfl, hpassage, hending⟩ := ih
      exact ⟨frame :: passed, rest, left, c', v, rfl, Nat.add_right_comm _ _ _,
        .skips hskip hpassage, hending⟩
  | @passes _ _ frame _ _ _ _ _ hskip haccount hverdict _ ih =>
      obtain ⟨passed, rest, left, c', v, rfl, rfl, hpassage, hending⟩ := ih
      exact ⟨frame :: passed, rest, left, c', v, rfl, Nat.add_right_comm _ _ _,
        .passes hskip haccount hverdict hpassage, hending⟩

section
variable {budget : Nat} {rest : List CapturedFrame}

/-- A fault records no landing. -/
theorem Ending.landing_of_error {fault : Fault}
    (h : Ending host now budget c rest u u' (.error fault)) :
    u'.cursor.landing? = c.landing? := by
  cases h with
  | exhausted => rfl
  | tooDeep => rfl
  | refused _ haccount =>
      rw [account_cursor haccount]
      rfl
  | faults _ haccount _ =>
      rw [account_cursor haccount]
      rfl

/-- A landing is that of the next frame's verdict, and is recorded. -/
theorem Ending.landing_of_ok {landed : Landed}
    (h : Ending host now budget c rest u u' (.ok landed)) :
    ∃ frame outer landing, rest = frame :: outer ∧ 0 < budget ∧
      host.verdict frame = .ok (some (landed.ip, landed.action)) ∧ landed.bp = frame.bp ∧
      u'.cursor.landing? = some landing ∧ landing.ip = landed.ip ∧
      landing.frameIndex = c.nextPosition := by
  cases h with
  | @lands left _ frame outer _ v pad action _ haccount hverdict =>
      have hcursor := (land_captured now (account_cursor haccount) rfl
        (host.settings.maxWalkDepth - left) pad action).2
      rw [hcursor]
      exact ⟨frame, outer, _, rfl, Nat.succ_pos left, hverdict, rfl, rfl, rfl, rfl⟩

end
end Unwinding

/-! Calls -/

namespace Engine

/-- A call that lets an exception propagate. -/
inductive Request where
  | raise (exception : ExceptionInfo)
  | reraise (exception : ExceptionInfo)
  | resume

def perform (engine : Engine) (now : Nat) (request : Request) (cursor : Cursor)
    (session : Session) : Engine × Cursor × Session × Except Fault Landed :=
  match request with
  | .raise exception => engine.raise now exception false cursor session
  | .reraise exception => engine.raise now exception true cursor session
  | .resume => engine.resumeCleanup now cursor session

theorem raise_of_active (engine : Engine) (now : Nat) (exception : ExceptionInfo)
    (reraise : Bool) (cursor : Cursor) {session : Session} (hactive : session.active = true) :
    engine.raise now exception reraise cursor session =
      (engine, cursor, session, .error .nestedUnwind) := by
  unfold raise begin
  rw [if_pos hactive]

/-- A raise on an idle session leaves some frames of the stack behind and
stops in front of the others. -/
theorem raise_split (engine : Engine) (now : Nat) (exception : ExceptionInfo) (reraise : Bool)
    (frames : List CapturedFrame) (memory : Memory) {session : Session}
    (hidle : session.active = false) :
    ∃ passed rest left c v u result, frames = passed ++ rest ∧
      engine.host.settings.maxWalkDepth = passed.length + left ∧
      engine.raise now exception reraise (.captured { frames, memory }) session =
        ({ engine with ledger := u.ledger }, u.cursor, u.session, result) ∧
      Unwinding.Passage engine.host { frames, memory }
        { cursor := .captured { frames, memory }
          session := session.opened now exception reraise
          ledger := engine.ledgerOpened exception } passed c v ∧
      Unwinding.Ending engine.host now left c rest v u result := by
  rw [raise_of_idle engine now exception reraise _ hidle]
  obtain ⟨u, result, hcall, hrun⟩ := unwind_exec
    { engine with ledger := engine.ledgerOpened exception } now none { frames, memory }
    (session.opened now exception reraise)
  obtain ⟨passed, rest, left, c, v, hframes, hbudget, hpassage, hending⟩ := hrun.split
  exact ⟨passed, rest, left, c, v, u, result, hframes, hbudget, hcall, hpassage, hending⟩

/-- A call on a captured stack changes nothing and fails, or is a run. -/
inductive Executes (engine : Engine) (now : Nat) (c : CapturedCursor) (session : Session) :
    Engine × Cursor × Session × Except Fault Landed → Prop
  | refused {fault} : Executes engine now c session (engine, .captured c, session, .error fault)
  | ran {u u' result} (hrun : Unwinding.Run engine.host now engine.host.settings.maxWalkDepth
        c c.ahead u u' result) :
      Executes engine now c session
        ({ engine with ledger := u'.ledger }, u'.cursor, u'.session, result)

variable (engine : Engine) (now : Nat) (c : CapturedCursor) (session : Session)

theorem raise_executes (exception : ExceptionInfo) (reraise : Bool) :
    Executes engine now c session
      (engine.raise now exception reraise (.captured c) session) := by
  cases hactive : session.active with
  | true =>
      rw [raise_of_active engine now exception reraise _ hactive]
      exact .refused
  | false =>
      rw [raise_of_idle engine now exception reraise _ hactive]
      obtain ⟨u', result, hcall, hrun⟩ := unwind_exec
        { engine with ledger := engine.ledgerOpened exception } now none c
        (session.opened now exception reraise)
      rw [hcall]
      exact .ran hrun

theorem resumeCleanup_executes :
    Executes engine now c session (engine.resumeCleanup now (.captured c) session) := by
  unfold resumeCleanup
  split_ifs with hactive
  · obtain ⟨u', result, hcall, hrun⟩ := unwind_exec engine now session.cleanupBase? c
      { session with cleanupBase? := none }
    rw [hcall]
    exact .ran hrun
  · exact .refused

theorem perform_executes (request : Request) :
    Executes engine now c session (engine.perform now request (.captured c) session) := by
  cases request with
  | raise exception => exact raise_executes engine now c session exception false
  | reraise exception => exact raise_executes engine now c session exception true
  | resume => exact resumeCleanup_executes engine now c session

end Engine
end StackUnwind
