import StackUnwind.Engine
import StackUnwind.Proofs.FrameAccount
import Mathlib.Tactic.SplitIfs

/-!
# Unwinding captured stacks

On a captured stack the frames that are still ahead of the cursor are a list,
and what the unwinding does is a recursion on that list: frames are passed
over up to a given base, and each frame from there on is accounted for and
then asked for a landing pad. `Run` states this recursion one frame at a time,
and `run_exec` says that an unwinding follows it.

The statements hold for every host and every state of the session. A frame is
looked at only through `kindOf`, `eventOf?`, `tableOf?` and `verdict`.
-/
namespace StackUnwind

/-! What a host sees in a captured frame -/

namespace Host

/-- Who owns a captured frame. -/
def kindOf (host : Host) (frame : CapturedFrame) : FrameKind :=
  host.classifier.classify frame.lookupPc

/-- The event that a captured frame is to a walk, if it concerns the program. -/
def eventOf? (host : Host) (frame : CapturedFrame) : Option WalkEvent :=
  match host.kindOf frame with
  | .compiled region =>
      some (.frame (.compiled region frame.ip frame.bp frame.sp frame.registers))
  | .interpreted => some (.frame (.interpreted frame.ip frame.bp))
  | .deoptTrampoline => some (.deoptTrampoline frame.ip frame.bp)
  | _ => none

/-- The exception table that applies to a captured frame. -/
def tableOf? (host : Host) (frame : CapturedFrame) : Option HandlerTable :=
  match host.kindOf frame with
  | .compiled region => region.handlerTable?
  | .interpreted => host.classifier.interpreterTable? <|> frame.handlers?
  | _ => frame.handlers?

/-- Where a captured frame sends an exception, if not further out. -/
def verdict (host : Host) (frame : CapturedFrame) : Except Fault (Option (Word × Action)) :=
  match host.tableOf? frame with
  | none => .ok none
  | some table => host.padFor? (host.kindOf frame) table frame.lookupPc

/-- Every value that an exception releases on its way out of the frame can be read. -/
def CanRelease (host : Host) (memory : Memory) (frame : CapturedFrame) : Prop :=
  ∀ logical, host.eventOf? frame = some (.frame logical) → logical.Releasable memory

end Host

/-- What a filter makes of a physical frame, which may be no event at all. -/
def ShadowFilter.see (filter : ShadowFilter) (event? : Option WalkEvent) :
    ShadowFilter × Option Frame :=
  match event? with
  | none => (filter, none)
  | some event => filter.accept event

theorem ShadowFilter.see_some {filter : ShadowFilter} {event? : Option WalkEvent} {frame : Frame}
    (h : (filter.see event?).2 = some frame) : event? = some (.frame frame) := by
  unfold see at h
  cases event? with
  | none => cases h
  | some event =>
      cases event with
      | deoptTrampoline ip bp => cases h
      | frame shown =>
          dsimp only [accept] at h
          split at h <;> cases h
          rfl

/-! Captured cursors -/

namespace CapturedCursor

/-- The frames that the cursor has not reached. -/
def ahead (c : CapturedCursor) : List CapturedFrame :=
  c.frames.drop c.nextPosition

/-- The cursor moved to the next frame. -/
def onto (c : CapturedCursor) (frame : CapturedFrame) : CapturedCursor :=
  { c with position? := some c.nextPosition, current? := some frame }

/-- The cursor behind the outermost frame. -/
def past (c : CapturedCursor) : CapturedCursor :=
  { c with position? := some c.frames.length, current? := none }

theorem step_of_cons {c : CapturedCursor} {frame : CapturedFrame} {rest : List CapturedFrame}
    (h : c.ahead = frame :: rest) : c.step = (c.onto frame, true) := by
  have hget : c.frames[c.nextPosition]? = some frame := by
    rw [← List.head?_drop]
    simp only [ahead] at h
    rw [h, List.head?_cons]
  simp only [step, hget, onto]

theorem step_of_nil {c : CapturedCursor} (h : c.ahead = []) : c.step = (c.past, false) := by
  have hget : c.frames[c.nextPosition]? = none := by
    rw [← List.head?_drop]
    simp only [ahead] at h
    rw [h, List.head?_nil]
  simp only [step, hget, past]

theorem ahead_onto {c : CapturedCursor} {frame : CapturedFrame} {rest : List CapturedFrame}
    (h : c.ahead = frame :: rest) : (c.onto frame).ahead = rest := by
  have hdrop : c.frames.drop (c.nextPosition + 1) = rest := by
    simp only [ahead] at h
    rw [← List.drop_drop, h, List.drop_one, List.tail_cons]
  exact hdrop

end CapturedCursor

/-- The frame as a landing leaves it: at the pad, with the pad's two registers. -/
def CapturedFrame.atPad (frame : CapturedFrame) (pad payload selector : Word) : CapturedFrame :=
  { frame with
    ip := pad
    registers := ((frame.registers.put .payload (some payload)).put .selector (some selector)).put
      .returnAddress (some pad) }

namespace Cursor

variable {c : CapturedCursor} {frame : CapturedFrame}

theorem step_of_cons {rest : List CapturedFrame} (h : c.ahead = frame :: rest)
    (callFrames : CallFrame.Table) :
    step callFrames (.captured c) = (.captured (c.onto frame), .ok true) := by
  rw [step, CapturedCursor.step_of_cons h]

theorem step_of_nil (h : c.ahead = []) (callFrames : CallFrame.Table) :
    step callFrames (.captured c) = (.captured c.past, .ok false) := by
  rw [step, CapturedCursor.step_of_nil h]

theorem ip_captured (h : c.current? = some frame) : ip (.captured c) = frame.ip := by
  simp [ip, activation?, h]

theorem sp_captured (h : c.current? = some frame) : sp (.captured c) = frame.sp := by
  simp [sp, activation?, h]

theorem bp_captured (h : c.current? = some frame) : bp (.captured c) = frame.bp := by
  simp [bp, activation?, h]

theorem lookupPc_captured (h : c.current? = some frame) :
    lookupPc (.captured c) = frame.lookupPc := by
  simp [lookupPc, activation?, h]

theorem registers_captured (h : c.current? = some frame) :
    registers (.captured c) = frame.registers := by
  simp [registers, activation?, h]

theorem handlers_captured (h : c.current? = some frame) :
    handlers? (.captured c) = frame.handlers? := by
  simp [handlers?, h]

/-- A captured frame can always be landed in. -/
theorem enterPad_captured (h : c.current? = some frame) (pad payload selector : Word) :
    enterPad (.captured c) pad payload selector =
      (.captured { c with
        current? := some (frame.atPad pad payload selector)
        landing? := some ((frame.atPad pad payload selector).landing (c.position?.getD 0)) },
      .ok ()) := by
  simp only [enterPad, setRegister, CapturedCursor.setRegister, CapturedCursor.current, h]
  rfl

end Cursor

@[simp] theorem Ledger.note_nil (ledger : Ledger) : ledger.note [] = ledger := by
  simp [Ledger.note, Array.appendList]

theorem Ledger.note_note (ledger : Ledger) (front back : List Notice) :
    (ledger.note front).note back = ledger.note (front ++ back) := by
  simp [Ledger.note, Array.appendList]

/-! One frame -/

namespace Unwinding

/-- Accounts for a frame that the exception reaches. -/
def account (host : Host) (frame : CapturedFrame) (u : Unwinding) :
    Unwinding × Except Fault Unit :=
  let (u, frame?) := u.observe (host.kindOf frame)
  match u.session.onFrame host.settings host.hooks u.cursor.memory frame? u.ledger with
  | (session, ledger, .error fault) => ({ u with session, ledger }, .error fault)
  | (session, ledger, .ok ()) =>
      ({ u with session, ledger := ledger.count .frameUnwound }, .ok ())

variable {host : Host} {now : Nat} {u : Unwinding} {c : CapturedCursor} {frame : CapturedFrame}

/-- Observing a frame moves the filter on and is noted, and changes nothing else. -/
theorem observe_captured (host : Host) (hu : u.cursor = .captured c) (hc : c.current? = some frame) :
    ∃ notices, u.observe (host.kindOf frame) =
      ({ u with
        shadows := (u.shadows.see (host.eventOf? frame)).1
        ledger := u.ledger.note notices },
      (u.shadows.see (host.eventOf? frame)).2) := by
  unfold observe Host.eventOf?
  rw [hu]
  cases host.kindOf frame <;>
    simp only [Cursor.capture?, Cursor.ip_captured hc, Cursor.bp_captured hc,
      Cursor.sp_captured hc, Cursor.registers_captured hc, Option.map_some, Option.map_none,
      ShadowFilter.see, Ledger.note_note] <;>
    exact ⟨_, rfl⟩

theorem search_captured (hu : u.cursor = .captured c) (hc : c.current? = some frame)
    (frames : Nat) :
    u.search host now frames (host.kindOf frame) =
      match host.verdict frame with
      | .error fault => .stop u (.error fault)
      | .ok none => .next u
      | .ok (some (pad, action)) =>
          .stop (u.land now frames pad action).1 (u.land now frames pad action).2 := by
  have htable : host.classifier.tableFor? (host.kindOf frame) u.cursor = host.tableOf? frame := by
    unfold Classifier.tableFor? Host.tableOf?
    rw [hu]
    cases host.kindOf frame <;> simp only [Cursor.handlers_captured hc]
  unfold search Host.verdict
  rw [htable, hu, Cursor.lookupPc_captured hc]
  cases host.tableOf? frame with
  | none => rfl
  | some table => rfl

/-- The turn of one frame: it is passed over on the way to a base, or else
accounted for and asked for a landing pad. -/
theorem visit_captured (hu : u.cursor = .captured c) (hc : c.current? = some frame)
    (frames : Nat) :
    u.visit host now frames =
      match u.skipThrough? with
      | some target => .next ((u.observe (host.kindOf frame)).1.skip target)
      | none =>
          match u.account host frame with
          | (u, .error fault) => .stop u (.error fault)
          | (u, .ok ()) => u.search host now frames (host.kindOf frame) := by
  have hkind : host.classifier.classify u.cursor.lookupPc = host.kindOf frame := by
    rw [hu, Cursor.lookupPc_captured hc, Host.kindOf]
  obtain ⟨notices, hobserve⟩ := observe_captured host hu hc
  unfold visit account
  rw [hkind]
  simp only [hobserve]
  cases u.skipThrough? with
  | some target => rfl
  | none =>
      dsimp only
      generalize Session.onFrame host.settings host.hooks u.cursor.memory
        (u.shadows.see (host.eventOf? frame)).2 u.session (u.ledger.note notices) = answer
      obtain ⟨session, ledger, result⟩ := answer
      cases result with
      | error fault => rfl
      | ok _ => rfl

/-- Accounting does not move the cursor, and leaves no frames to pass over. -/
theorem account_keeps (host : Host) (hu : u.cursor = .captured c) (hc : c.current? = some frame) :
    (u.account host frame).1.cursor = u.cursor ∧
      (u.account host frame).1.skipThrough? = u.skipThrough? := by
  obtain ⟨notices, hobserve⟩ := observe_captured host hu hc
  unfold account
  simp only [hobserve]
  split <;> exact ⟨rfl, rfl⟩

theorem account_of_unreleased (host : Host) (hu : u.cursor = .captured c)
    (hc : c.current? = some frame) {fault : Fault}
    (h : u.session.pendingRelease c.memory = .error fault) :
    ∃ u', u.account host frame = (u', .error fault) := by
  obtain ⟨notices, hobserve⟩ := observe_captured host hu hc
  obtain ⟨ledger, hframe⟩ := Session.onFrame_of_unreleased host.settings host.hooks h
    (u.shadows.see (host.eventOf? frame)).2 (u.ledger.note notices)
  have hmemory : u.cursor.memory = c.memory := by
    rw [hu]
    rfl
  unfold account
  simp only [hobserve, hmemory, hframe]
  exact ⟨_, rfl⟩

theorem account_of_released (host : Host) (hu : u.cursor = .captured c)
    (hc : c.current? = some frame) (h : u.session.pendingRelease c.memory = .ok ()) :
    ∃ u', u.account host frame = (u', .ok ()) ∧
      u'.cursor = u.cursor ∧ u'.skipThrough? = u.skipThrough? ∧
      u'.shadows = (u.shadows.see (host.eventOf? frame)).1 ∧
      Session.Accounted host.settings host.hooks (u.shadows.see (host.eventOf? frame)).2
        (u.session, u.ledger) (u'.session, u'.ledger) := by
  obtain ⟨notices, hobserve⟩ := observe_captured host hu hc
  obtain ⟨session, ledger, hframe, haccounted⟩ := Session.onFrame_of_released
    host.settings host.hooks h (u.shadows.see (host.eventOf? frame)).2 (u.ledger.note notices)
  have hmemory : u.cursor.memory = c.memory := by
    rw [hu]
    rfl
  unfold account
  simp only [hobserve, hmemory, hframe]
  exact ⟨_, rfl, rfl, rfl, rfl, { haccounted with cleanups := haccounted.cleanups }⟩

/-- Accounting succeeds when the values of the pending frame can be read. -/
theorem account_ok (host : Host) (hu : u.cursor = .captured c) (hc : c.current? = some frame)
    (hpending : ∀ pending, u.session.pending? = some pending → pending.Releasable c.memory) :
    ∃ u', u.account host frame = (u', .ok ()) ∧
      u'.cursor = u.cursor ∧ u'.skipThrough? = u.skipThrough? ∧
      u'.shadows = (u.shadows.see (host.eventOf? frame)).1 ∧
      Session.Accounted host.settings host.hooks (u.shadows.see (host.eventOf? frame)).2
        (u.session, u.ledger) (u'.session, u'.ledger) :=
  account_of_released host hu hc (Session.pendingRelease_ok hpending)

/-- Landing succeeds in a captured frame, and is recorded. -/
theorem land_captured (now : Nat) (hu : u.cursor = .captured c) (hc : c.current? = some frame)
    (frames : Nat) (pad : Word) (action : Action) :
    (u.land now frames pad action).2 = .ok ⟨pad, frame.bp, action⟩ ∧
    (u.land now frames pad action).1.cursor = .captured { c with
      current? :=
        some (frame.atPad pad u.session.exceptionAddress action.selector.toUInt64)
      landing? :=
        some ((frame.atPad pad u.session.exceptionAddress action.selector.toUInt64).landing
          (c.position?.getD 0)) } := by
  unfold land
  simp only [hu, Cursor.enterPad_captured hc, Cursor.bp_captured hc]
  exact ⟨rfl, trivial⟩

/-- Landing adds no line and cleans nothing up. -/
theorem land_keeps (now : Nat) (u : Unwinding) (frames : Nat) (pad : Word) (action : Action) :
    (u.land now frames pad action).1.session.traceback = u.session.traceback ∧
      (u.land now frames pad action).1.ledger.cleanups = u.ledger.cleanups := by
  unfold land
  cases action <;> exact ⟨rfl, rfl⟩

/-- A cleanup landing keeps the session but for the base it remembers. -/
theorem land_cleanup_session (now : Nat) (u : Unwinding) (frames : Nat) (pad : Word) :
    (u.land now frames pad .cleanup).1.session =
      { u.session with cleanupBase? := some u.cursor.bp } := rfl

/-! A whole run -/

/-- The unwinding with its cursor moved to the next frame. -/
def onto (c : CapturedCursor) (frame : CapturedFrame) (u : Unwinding) : Unwinding :=
  { u with cursor := .captured (c.onto frame) }

/-- How an unwinding ends that has the frames of a list ahead of its cursor and
may visit `budget` of them. -/
inductive Run (host : Host) (now : Nat) : Nat → CapturedCursor → List CapturedFrame →
    Unwinding → Unwinding → Except Fault Landed → Prop
  | exhausted {budget c u} :
      Run host now budget c [] u { u with cursor := .captured c.past }
        (.error (.noHandler (host.settings.maxWalkDepth - budget)))
  | tooDeep {c frame rest u} :
      Run host now 0 c (frame :: rest) u (u.onto c frame)
        (.error (.walkTooDeep host.settings.maxWalkDepth))
  | skips {left c frame rest u u' r target} (hskip : u.skipThrough? = some target)
      (hrun : Run host now left (c.onto frame) rest
        (((u.onto c frame).observe (host.kindOf frame)).1.skip target) u' r) :
      Run host now (left + 1) c (frame :: rest) u u' r
  | refused {left c frame rest u u' fault} (hskip : u.skipThrough? = none)
      (haccount : (u.onto c frame).account host frame = (u', .error fault)) :
      Run host now (left + 1) c (frame :: rest) u u' (.error fault)
  | faults {left c frame rest u u' fault} (hskip : u.skipThrough? = none)
      (haccount : (u.onto c frame).account host frame = (u', .ok ()))
      (hverdict : host.verdict frame = .error fault) :
      Run host now (left + 1) c (frame :: rest) u u' (.error fault)
  | lands {left c frame rest u u' pad action} (hskip : u.skipThrough? = none)
      (haccount : (u.onto c frame).account host frame = (u', .ok ()))
      (hverdict : host.verdict frame = .ok (some (pad, action))) :
      Run host now (left + 1) c (frame :: rest) u
        (u'.land now (host.settings.maxWalkDepth - left) pad action).1
        (u'.land now (host.settings.maxWalkDepth - left) pad action).2
  | passes {left c frame rest u u' u'' r} (hskip : u.skipThrough? = none)
      (haccount : (u.onto c frame).account host frame = (u', .ok ()))
      (hverdict : host.verdict frame = .ok none)
      (hrun : Run host now left (c.onto frame) rest u' u'' r) :
      Run host now (left + 1) c (frame :: rest) u u'' r

theorem advance_of_nil (hu : u.cursor = .captured c) (h : c.ahead = []) :
    u.advance host = ({ u with cursor := .captured c.past }, .ok false) := by
  rw [advance, hu, Cursor.step_of_nil h]
  simp only [Cursor.stepNotices, Ledger.note_nil]

theorem advance_of_cons {rest : List CapturedFrame} (hu : u.cursor = .captured c)
    (h : c.ahead = frame :: rest) : u.advance host = (u.onto c frame, .ok true) := by
  rw [advance, hu, Cursor.step_of_cons h]
  simp only [Cursor.stepNotices, Ledger.note_nil]
  rfl

theorem run_of_nil (hu : u.cursor = .captured c) (h : c.ahead = []) (budget : Nat) :
    u.run host now budget = ({ u with cursor := .captured c.past },
      .error (.noHandler (host.settings.maxWalkDepth - budget))) := by
  rw [run.eq_def, advance_of_nil hu h]

theorem run_of_cons {rest : List CapturedFrame} (hu : u.cursor = .captured c)
    (h : c.ahead = frame :: rest) (budget : Nat) :
    u.run host now budget =
      match budget with
      | 0 => (u.onto c frame, .error (.walkTooDeep host.settings.maxWalkDepth))
      | left + 1 =>
          match (u.onto c frame).visit host now (host.settings.maxWalkDepth - left) with
          | .next u => u.run host now left
          | .stop u result => (u, result) := by
  cases budget with
  | zero => rw [run, advance_of_cons hu h]
  | succ left =>
      rw [run]
      cases hturn : (u.onto c frame).visit host now (host.settings.maxWalkDepth - left) <;>
        simp only [advance_of_cons hu h, hturn]

/-- Every unwinding of a captured stack follows the relation. -/
theorem run_exec (host : Host) (now : Nat) {ahead : List CapturedFrame} (hu : u.cursor = .captured c)
    (h : c.ahead = ahead) (budget : Nat) :
    Run host now budget c ahead u (u.run host now budget).1 (u.run host now budget).2 := by
  induction budget generalizing c u ahead with
  | zero =>
      cases ahead with
      | nil =>
          rw [run_of_nil hu h]
          exact .exhausted
      | cons frame rest =>
          rw [run_of_cons hu h]
          exact .tooDeep
  | succ left ih =>
      cases ahead with
      | nil =>
          rw [run_of_nil hu h]
          exact .exhausted
      | cons frame rest =>
          have hc : (c.onto frame).current? = some frame := rfl
          have hmoved : (u.onto c frame).cursor = .captured (c.onto frame) := rfl
          rw [run_of_cons hu h]
          dsimp only
          rw [visit_captured hmoved hc]
          cases hskip : u.skipThrough? with
          | some target =>
              obtain ⟨notices, hobserve⟩ := observe_captured host hmoved hc
              refine .skips hskip ?_
              have hcursor : (((u.onto c frame).observe (host.kindOf frame)).1.skip
                  target).cursor = .captured (c.onto frame) := by
                rw [hobserve]
                rfl
              have hrun := ih hcursor (CapturedCursor.ahead_onto h)
              rw [show (u.onto c frame).skipThrough? = some target from hskip]
              exact hrun
          | none =>
              rw [show (u.onto c frame).skipThrough? = none from hskip]
              dsimp only
              obtain ⟨hcursor, -⟩ := account_keeps host hmoved hc
              rcases haccount : (u.onto c frame).account host frame with ⟨u', _ | _⟩
              · exact .refused hskip haccount
              · rw [haccount] at hcursor
                have hu' : u'.cursor = .captured (c.onto frame) := hcursor.trans hmoved
                dsimp only
                rw [search_captured hu' hc]
                cases hverdict : host.verdict frame with
                | error fault => exact .faults hskip haccount hverdict
                | ok pad? =>
                    cases pad? with
                    | none =>
                        exact .passes hskip haccount hverdict
                          (ih hu' (CapturedCursor.ahead_onto h))
                    | some pad => exact .lands hskip haccount hverdict

end Unwinding

/-! Calls -/

/-- A call on a captured stack is a run over the frames ahead. -/
theorem Engine.unwind_exec (engine : Engine) (now : Nat) (skipThrough? : Option Word)
    (c : CapturedCursor) (session : Session) :
    ∃ u result, engine.unwind now skipThrough? (.captured c) session =
        ({ engine with ledger := u.ledger }, u.cursor, u.session, result) ∧
      Unwinding.Run engine.host now engine.host.settings.maxWalkDepth c c.ahead
        { cursor := .captured c, session, ledger := engine.ledger, skipThrough? } u result :=
  ⟨_, _, rfl, Unwinding.run_exec engine.host now rfl rfl _⟩

/-- The session in which an exception begins to propagate. -/
def Session.opened (session : Session) (now : Nat) (exception : ExceptionInfo) (reraise : Bool) :
    Session :=
  { slot := session.slot, active := true, exception? := some exception, reraise
    startedAt? := some now }

/-- The ledger with the beginning of an episode in it. -/
def Engine.ledgerOpened (engine : Engine) (exception : ExceptionInfo) : Ledger :=
  (engine.ledger.count .sessionBegun).note [.episodeBegun exception.value]

theorem Engine.raise_of_idle (engine : Engine) (now : Nat) (exception : ExceptionInfo)
    (reraise : Bool) (cursor : Cursor) {session : Session} (hidle : session.active = false) :
    engine.raise now exception reraise cursor session =
      Engine.unwind { engine with ledger := engine.ledgerOpened exception } now none cursor
        (session.opened now exception reraise) := by
  unfold raise begin
  rw [if_neg (by simp [hidle])]
  cases reraise <;> rfl

end StackUnwind
