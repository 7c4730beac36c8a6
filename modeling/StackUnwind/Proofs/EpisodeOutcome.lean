import StackUnwind.Proofs.Passage
import StackUnwind.Proofs.StepFaults

/-!
# What becomes of an episode

An unwinding on any cursor, captured or live, passes frames and then fails on
its way or lands. `Continues` lists what passing frames leaves alone: the
episode with its exception, the counters of episodes and landings, and the
landing that the cursor has recorded. `Settles` tells the two ways to stop
apart. A landing is counted before it is carried out, and carrying it out
fails only on a live cursor, for a register that was not recovered.
-/
namespace StackUnwind

/-- The counters of episodes and landings. -/
structure Tally where
  begun : Word
  ended : Word
  cleanups : Word
  catches : Word
  deriving DecidableEq, Repr

namespace Ledger

def tally (ledger : Ledger) : Tally where
  begun := ledger.statistics.sessionsBegun
  ended := ledger.statistics.sessionsEnded
  cleanups := ledger.statistics.cleanupLandings
  catches := ledger.statistics.catchLandings

theorem tally_countFrame (ledger : Ledger) (info : FrameInfo)
    (statement? : Option Statement) :
    (ledger.countFrame info statement?).tally = ledger.tally := by
  unfold countFrame countStatement
  split
  · dsimp only
    split <;> rfl
  · rfl

end Ledger

/-! Frames -/

namespace Session

variable (settings : Settings) (hooks : Hooks) (memory : Memory)

theorem finalizePending_tally (session : Session) (ledger : Ledger) :
    (session.finalizePending memory ledger).2.1.tally = ledger.tally := by
  unfold finalizePending
  split <;> rfl

theorem enter_tally (frame : Frame) (info : FrameInfo) (session : Session) (ledger : Ledger) :
    (session.enter settings hooks frame info ledger).2.tally = ledger.tally := by
  unfold enter addLine
  dsimp only
  split_ifs
  · rfl
  · exact Ledger.tally_countFrame _ _ _
  · exact Ledger.tally_countFrame _ _ _

/-- Accounting for a frame keeps the episode. -/
theorem onFrame_keeps (frame? : Option Frame) (session : Session) (ledger : Ledger) :
    let after := session.onFrame settings hooks memory frame? ledger
    after.1.active = session.active ∧ after.1.exception? = session.exception? ∧
      after.1.cleanupBase? = session.cleanupBase? := by
  cases hrelease : session.pendingRelease memory with
  | error fault =>
      obtain ⟨ledger', hframe⟩ := onFrame_of_unreleased settings hooks hrelease frame? ledger
      rw [hframe]
      exact ⟨rfl, rfl, rfl⟩
  | ok _ =>
      obtain ⟨session', ledger', hframe, haccounted⟩ :=
        onFrame_of_released settings hooks hrelease frame? ledger
      rw [hframe]
      exact ⟨haccounted.active, haccounted.exception, haccounted.cleanupBase⟩

/-- Accounting for a frame counts no landing. -/
theorem onFrame_tally (frame? : Option Frame) (session : Session) (ledger : Ledger) :
    (session.onFrame settings hooks memory frame? ledger).2.1.tally = ledger.tally := by
  have hfinal := finalizePending_tally memory session ledger
  unfold onFrame
  generalize session.finalizePending memory ledger = final at hfinal
  obtain ⟨session', ledger', _ | _⟩ := final
  · exact hfinal
  · dsimp only
    split
    · exact hfinal
    · split
      · exact hfinal
      · exact (enter_tally settings hooks _ _ session' ledger').trans hfinal

theorem onFrame_error {frame? : Option Frame} {session : Session} {ledger : Ledger}
    {fault : Fault}
    (h : (session.onFrame settings hooks memory frame? ledger).2.2 = .error fault) :
    fault.IsOfValue := by
  cases hrelease : session.pendingRelease memory with
  | error e =>
      obtain ⟨ledger', hframe⟩ := onFrame_of_unreleased settings hooks hrelease frame? ledger
      rw [hframe] at h
      cases h
      exact pendingRelease_error hrelease
  | ok _ =>
      obtain ⟨session', ledger', hframe, -⟩ :=
        onFrame_of_released settings hooks hrelease frame? ledger
      rw [hframe] at h
      cases h

end Session

/-! Cursors -/

namespace LiveCursor

theorem step_landing (callFrames : CallFrame.Table) (c : LiveCursor) :
    (c.step callFrames).1.landing? = c.landing? := by
  unfold step
  split_ifs
  · rfl
  · rfl
  · split <;> rfl

theorem resume_error {c : LiveCursor} {fault : Fault} (h : c.resume = .error fault) :
    ∃ register, fault = .incompleteRegisters c.activation.ip register := by
  unfold resume at h
  split at h <;> cases h
  exact ⟨_, rfl⟩

end LiveCursor

namespace Cursor

def isLive : Cursor → Bool
  | .captured _ => false
  | .live _ => true

/-- A step records no landing, and if it moved it stands on a frame. -/
theorem step_keeps (callFrames : CallFrame.Table) (cursor : Cursor) :
    (cursor.step callFrames).1.landing? = cursor.landing? ∧
      (cursor.step callFrames).1.isLive = cursor.isLive ∧
      ((cursor.step callFrames).2 = .ok true →
        (cursor.step callFrames).1.activation?.isSome = true) := by
  cases cursor with
  | captured c =>
      cases hahead : c.ahead with
      | nil =>
          rw [step_of_nil hahead]
          exact ⟨rfl, rfl, fun hmoved => by cases hmoved⟩
      | cons frame rest =>
          rw [step_of_cons hahead]
          exact ⟨rfl, rfl, fun _ => rfl⟩
  | live c => exact ⟨c.step_landing callFrames, rfl, fun _ => rfl⟩

theorem setRegister_tracked (c : LiveCursor) {register : Register}
    (h : register.toNat < Register.count) (value : Word) :
    ∃ a, setRegister (.live c) register value = .ok (.live { c with activation := a }) := by
  simp only [setRegister, LiveCursor.setRegister, Activation.set, RegisterFile.set, if_pos h]
  exact ⟨_, rfl⟩

/-- Entering a pad records the landing, or fails on a live cursor for a
register that was not recovered. -/
theorem enterPad_of_frame {cursor : Cursor} (hframe : cursor.activation?.isSome = true)
    (pad payload selector : Word) :
    (cursor.enterPad pad payload selector).2 = .ok () ∨
      cursor.isLive = true ∧
        (cursor.enterPad pad payload selector).1.landing? = cursor.landing? ∧
        ∃ register, (cursor.enterPad pad payload selector).2 =
          .error (.incompleteRegisters pad register) := by
  cases cursor with
  | captured c =>
      obtain ⟨frame, hcurrent⟩ : ∃ frame, c.current? = some frame := by
        simpa [activation?, Option.isSome_iff_exists] using hframe
      rw [enterPad_captured hcurrent]
      exact .inl rfl
  | live c =>
      obtain ⟨a, hpayload⟩ := setRegister_tracked c
        (show Register.payload.toNat < _ by decide) payload
      obtain ⟨b, hselector⟩ := setRegister_tracked { c with activation := a }
        (show Register.selector.toNat < _ by decide) selector
      simp only [enterPad, hpayload, hselector, setIp]
      cases hresume : (LiveCursor.setIp { c with activation := b } pad).resume with
      | ok landed =>
          rw [resume, hresume]
          exact .inl rfl
      | error fault =>
          obtain ⟨register, rfl⟩ := LiveCursor.resume_error hresume
          rw [resume, hresume]
          exact .inr ⟨rfl, rfl, register, rfl⟩

end Cursor

/-! Unwinding -/

namespace Unwinding

/-- What frames that are passed leave alone. -/
structure Continues (u v : Unwinding) : Prop where
  active : v.session.active = u.session.active
  exception : v.session.exception? = u.session.exception?
  cleanupBase : v.session.cleanupBase? = u.session.cleanupBase?
  tally : v.ledger.tally = u.ledger.tally
  landing : v.cursor.landing? = u.cursor.landing?
  isLive : v.cursor.isLive = u.cursor.isLive

theorem Continues.of_same {u v : Unwinding} (hcursor : v.cursor = u.cursor)
    (hsession : v.session = u.session) (htally : v.ledger.tally = u.ledger.tally) :
    Continues u v :=
  ⟨by rw [hsession], by rw [hsession], by rw [hsession], htally, by rw [hcursor], by rw [hcursor]⟩

theorem Continues.trans {u v w : Unwinding} (h : Continues u v) (h' : Continues v w) :
    Continues u w where
  active := h'.active.trans h.active
  exception := h'.exception.trans h.exception
  cleanupBase := h'.cleanupBase.trans h.cleanupBase
  tally := h'.tally.trans h.tally
  landing := h'.landing.trans h.landing
  isLive := h'.isLive.trans h.isLive

/-- How an unwinding stops: it fails on its way, or at a frame that it lands
in, which it counts as landed in also when that fails. -/
inductive Settles (now : Nat) (u : Unwinding) : Unwinding → Except Fault Landed → Prop
  | fails {v fault} (hkeeps : Continues u v) (hfault : ¬ fault.RefusesFrame) :
      Settles now u v (.error fault)
  | lands {v} (frames pad action) (hkeeps : Continues u v)
      (hframe : v.cursor.activation?.isSome = true) :
      Settles now u (v.land now frames pad action).1 (v.land now frames pad action).2

theorem Settles.after {now : Nat} {u v w : Unwinding} {result : Except Fault Landed}
    (hkeeps : Continues u v) (h : Settles now v w result) : Settles now u w result := by
  cases h with
  | fails hmore hfault => exact .fails (hkeeps.trans hmore) hfault
  | lands frames pad action hmore hframe =>
      exact .lands frames pad action (hkeeps.trans hmore) hframe

/-- A turn passes the frame, or settles the unwinding. -/
def Turns (now : Nat) (u : Unwinding) : UnwindTurn → Prop
  | .next v => Continues u v
  | .stop v result => Settles now u v result

theorem Turns.after {now : Nat} {u v : Unwinding} {turn : UnwindTurn}
    (hkeeps : Continues u v) (h : Turns now v turn) : Turns now u turn := by
  cases turn with
  | next w => exact hkeeps.trans h
  | stop w result => exact Settles.after hkeeps h

variable {host : Host} {now : Nat} {u : Unwinding}

theorem observe_keeps (kind : FrameKind) (u : Unwinding) :
    (u.observe kind).1.cursor = u.cursor ∧ Continues u (u.observe kind).1 := by
  unfold observe
  dsimp only
  split
  · exact ⟨rfl, .of_same rfl rfl rfl⟩
  · exact ⟨rfl, .of_same rfl rfl rfl⟩

theorem search_turns (frames : Nat) (kind : FrameKind)
    (hframe : u.cursor.activation?.isSome = true) :
    Turns now u (u.search host now frames kind) := by
  have hsame : Continues u u := .of_same rfl rfl rfl
  unfold search
  split
  · exact hsame
  · split
    · rename_i table _ _ fault hpad
      exact .fails hsame (host.padFor_failsWithin kind table _ fault hpad).not_refusesFrame
    · exact hsame
    · exact .lands frames _ _ hsame hframe

theorem visit_turns (frames : Nat) (hframe : u.cursor.activation?.isSome = true) :
    Turns now u (u.visit host now frames) := by
  obtain ⟨hcursor, hobserved⟩ := observe_keeps (host.classifier.classify u.cursor.lookupPc) u
  unfold visit
  dsimp only
  generalize u.observe (host.classifier.classify u.cursor.lookupPc) = observed
    at hcursor hobserved ⊢
  obtain ⟨v, frame?⟩ := observed
  dsimp only at hcursor hobserved ⊢
  split
  · exact hobserved.trans (.of_same rfl rfl rfl)
  · obtain ⟨hactive, hexception, hbase⟩ := Session.onFrame_keeps host.settings host.hooks
      v.cursor.memory frame? v.session v.ledger
    have htally := Session.onFrame_tally host.settings host.hooks v.cursor.memory frame?
      v.session v.ledger
    split
    · rename_i session ledger fault hframe
      rw [hframe] at hactive hexception hbase htally
      refine .fails (hobserved.trans ⟨hactive, hexception, hbase, htally, rfl, rfl⟩) ?_
      have hfault : (v.session.onFrame host.settings host.hooks v.cursor.memory frame?
          v.ledger).2.2 = .error fault := by rw [hframe]
      exact (Session.onFrame_error _ _ _ hfault).isOfStep.not_refusesFrame
    · rename_i session ledger haccount
      rw [haccount] at hactive hexception hbase htally
      have hpassed : Continues u { v with session, ledger := ledger.count .frameUnwound } :=
        hobserved.trans ⟨hactive, hexception, hbase, htally, rfl, rfl⟩
      exact Turns.after hpassed (search_turns frames _ (by rw [hcursor]; exact hframe))

/-- What an unwinding does from a frame that its cursor has reached. -/
def proceed (host : Host) (now budget : Nat) (u : Unwinding) : Unwinding × Except Fault Landed :=
  match budget with
  | 0 => (u, .error (.walkTooDeep host.settings.maxWalkDepth))
  | left + 1 =>
      match u.visit host now (host.settings.maxWalkDepth - left) with
      | .next u => u.run host now left
      | .stop u result => (u, result)

/-- Moving outwards changes nothing that the books of an episode are about. -/
theorem advance_continues (host : Host) (u : Unwinding) : Continues u (u.advance host).1 := by
  obtain ⟨hlanding, hlive, -⟩ := u.cursor.step_keeps host.callFrames
  exact ⟨rfl, rfl, rfl, rfl, hlanding, hlive⟩

theorem run_eq_proceed {v : Unwinding} (hmoved : u.advance host = (v, .ok true)) (budget : Nat) :
    u.run host now budget = v.proceed host now budget := by
  rw [run.eq_def, hmoved]
  cases budget <;> rfl

theorem run_settles_of_proceed {budget : Nat}
    (hproceed : ∀ v : Unwinding, v.cursor.activation?.isSome = true →
      Settles now v (v.proceed host now budget).1 (v.proceed host now budget).2) :
    Settles now u (u.run host now budget).1 (u.run host now budget).2 := by
  have hcontinues := advance_continues host u
  rcases hadvance : u.advance host with ⟨v, fault | _ | _⟩ <;> rw [hadvance] at hcontinues
  · have hfault : (u.cursor.step host.callFrames).2 = .error fault := congrArg Prod.snd hadvance
    rw [run.eq_def, hadvance]
    exact .fails hcontinues
      (u.cursor.step_failsWithin host.callFrames fault hfault).not_refusesFrame
  · rw [run.eq_def, hadvance]
    exact .fails hcontinues (by rintro ⟨_, _, h⟩; cases h)
  · have hframe : v.cursor.activation?.isSome = true := by
      have hcursor : (u.cursor.step host.callFrames).1 = v.cursor :=
        congrArg (·.1.cursor) hadvance
      rw [← hcursor]
      exact (u.cursor.step_keeps host.callFrames).2.2 (congrArg Prod.snd hadvance)
    rw [run_eq_proceed hadvance]
    exact Settles.after hcontinues (hproceed v hframe)

/-- Every unwinding, on any cursor, settles. -/
theorem run_settles (host : Host) (now budget : Nat) (u : Unwinding) :
    Settles now u (u.run host now budget).1 (u.run host now budget).2 := by
  -- The step outwards is the same for every budget; only what follows it is not.
  induction budget generalizing u with
  | zero =>
      apply run_settles_of_proceed
      intro v _
      exact .fails (.of_same rfl rfl rfl) (by rintro ⟨_, _, h⟩; cases h)
  | succ left ih =>
      apply run_settles_of_proceed
      intro v hframe
      have hvisit : Turns now v (v.visit host now (host.settings.maxWalkDepth - left)) :=
        visit_turns _ hframe
      unfold proceed
      dsimp only
      cases hturn : v.visit host now (host.settings.maxWalkDepth - left) with
      | next w =>
          rw [hturn] at hvisit
          exact Settles.after hvisit (ih w)
      | stop w result =>
          rw [hturn] at hvisit
          exact hvisit

/-! Landing -/

theorem land_cleanup_tally (frames : Nat) (pad : Word) :
    (u.land now frames pad .cleanup).1.ledger.tally =
      { u.ledger.tally with cleanups := u.ledger.tally.cleanups + 1 } := rfl

theorem land_catches_session (frames : Nat) (pad : Word) (filter : Int64) :
    (u.land now frames pad (.catches filter)).1.session = (u.session.finish now).2 := rfl

theorem land_catches_tally (frames : Nat) (pad : Word) (filter : Int64) :
    (u.land now frames pad (.catches filter)).1.ledger.tally =
      { u.ledger.tally with
        ended := u.ledger.tally.ended + 1, catches := u.ledger.tally.catches + 1 } := rfl

theorem land_action {frames : Nat} {pad : Word} {action : Action} {landed : Landed}
    (h : (u.land now frames pad action).2 = .ok landed) : landed.action = action := by
  unfold land at h
  dsimp only at h
  generalize (u.cursor.enterPad pad u.session.exceptionAddress action.selector.toUInt64).2 = done
    at h
  cases done with
  | error fault => cases h
  | ok _ =>
      cases h
      rfl

/-- A landing fails only for a register, on a live cursor, and is not recorded then. -/
theorem land_error (frames : Nat) (pad : Word) (action : Action) {fault : Fault}
    (hframe : u.cursor.activation?.isSome = true)
    (h : (u.land now frames pad action).2 = .error fault) :
    fault.RefusesFrame ∧ u.cursor.isLive = true ∧
      (u.land now frames pad action).1.cursor.landing? = u.cursor.landing? := by
  have hresult : (u.land now frames pad action).2 =
      (u.cursor.enterPad pad u.session.exceptionAddress action.selector.toUInt64).2.map
        fun _ => ⟨pad, u.cursor.bp, action⟩ := rfl
  have hcursor : (u.land now frames pad action).1.cursor =
      (u.cursor.enterPad pad u.session.exceptionAddress action.selector.toUInt64).1 := rfl
  rw [hresult] at h
  rcases Cursor.enterPad_of_frame hframe pad u.session.exceptionAddress
    action.selector.toUInt64 with hok | ⟨hlive, hlanding, register, hrefused⟩
  · rw [hok] at h
    cases h
  · rw [hrefused] at h
    cases h
    exact ⟨⟨pad, register, rfl⟩, hlive, hcursor ▸ hlanding⟩

end Unwinding

/-! Calls -/

namespace Engine

namespace Request

/-- Whether a session is in the state that the request needs. -/
def admits (session : Session) : Request → Bool
  | .raise _ | .reraise _ => !session.active
  | .resume => session.active

/-- The fault of a request that is not admitted. -/
def refusal : Request → Fault
  | .raise _ | .reraise _ => .nestedUnwind
  | .resume => .noActiveSession

/-- The unwinding that an admitted request starts with. -/
def opening (engine : Engine) (now : Nat) (cursor : Cursor) (session : Session) :
    Request → Unwinding
  | .raise exception =>
      { cursor, session := session.opened now exception false
        ledger := engine.ledgerOpened exception }
  | .reraise exception =>
      { cursor, session := session.opened now exception true
        ledger := engine.ledgerOpened exception }
  | .resume =>
      { cursor, session := { session with cleanupBase? := none }, ledger := engine.ledger
        skipThrough? := session.cleanupBase? }

theorem opening_active {request : Request} {session : Session}
    (h : request.admits session = true) (engine : Engine) (now : Nat) (cursor : Cursor) :
    (request.opening engine now cursor session).session.active = true := by
  cases request with
  | raise exception => rfl
  | reraise exception => rfl
  | resume => exact h

end Request

variable (engine : Engine) (now : Nat) (request : Request) (cursor : Cursor) {session : Session}

/-- A request that is not admitted changes nothing. -/
theorem perform_of_refused (h : request.admits session = false) :
    engine.perform now request cursor session =
      (engine, cursor, session, .error request.refusal) := by
  cases request with
  | raise exception =>
      exact raise_of_active engine now exception false cursor (by simpa [Request.admits] using h)
  | reraise exception =>
      exact raise_of_active engine now exception true cursor (by simpa [Request.admits] using h)
  | resume =>
      simp only [perform, resumeCleanup]
      rw [if_neg (by simpa [Request.admits] using h)]
      rfl

/-- An admitted request runs from its opening. -/
theorem perform_eq_run (h : request.admits session = true) :
    engine.perform now request cursor session =
      let done := (request.opening engine now cursor session).run engine.host now
        engine.host.settings.maxWalkDepth
      ({ engine with ledger := done.1.ledger }, done.1.cursor, done.1.session, done.2) := by
  cases request with
  | raise exception =>
      exact raise_of_idle engine now exception false cursor (by simpa [Request.admits] using h)
  | reraise exception =>
      exact raise_of_idle engine now exception true cursor (by simpa [Request.admits] using h)
  | resume =>
      simp only [perform, resumeCleanup]
      rw [if_pos (by simpa [Request.admits] using h)]
      rfl

theorem perform_of_admitted (h : request.admits session = true) :
    ∃ u result, engine.perform now request cursor session =
        ({ engine with ledger := u.ledger }, u.cursor, u.session, result) ∧
      Unwinding.Settles now (request.opening engine now cursor session) u result :=
  ⟨_, _, perform_eq_run engine now request cursor h,
    Unwinding.run_settles engine.host now engine.host.settings.maxWalkDepth _⟩

end Engine
end StackUnwind
