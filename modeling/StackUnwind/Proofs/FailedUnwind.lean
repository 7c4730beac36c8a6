import StackUnwind.Proofs.EpisodeOutcome
import StackUnwind.Proofs.InnermostHandler
import Mathlib

/-!
# Unwinding that fails

A call that was admitted and fails leaves the episode as it was: open, with
its exception, and with no landing counted or recorded. This is so for every
fault but one. A frame that was found by a live cursor and cannot be landed in
is refused only after the landing was counted, and after the session was told
of it; so the episode of a refused catch is over, and its exception has
nowhere to go.
-/
namespace StackUnwind

/-- The exception that propagates while a request is served. -/
def Engine.Request.inFlight? (session : Session) : Engine.Request → Option ExceptionInfo
  | .raise exception | .reraise exception => some exception
  | .resume => session.exception?

namespace FailedUnwind

open Engine Unwinding

/-- The episode is open with its exception, no cleanup pad runs, and no landing
was counted. -/
structure EpisodeKept (exception? : Option ExceptionInfo) (before after : Statistics)
    (session : Session) : Prop where
  active : session.active = true
  exception : session.exception? = exception?
  cleanupBase : session.cleanupBase? = none
  cleanups : after.cleanupLandings = before.cleanupLandings
  catches : after.catchLandings = before.catchLandings
  ended : after.sessionsEnded = before.sessionsEnded

/-- Session and counters are those of a landing: of a cleanup, which keeps the
episode open, or of a catch, which ends it. -/
def LandingCounted (before after : Statistics) (session : Session) : Prop :=
  (session.active = true ∧ session.cleanupBase?.isSome = true ∧
    after.cleanupLandings = before.cleanupLandings + 1) ∨
  (session.active = false ∧ after.catchLandings = before.catchLandings + 1 ∧
    after.sessionsEnded = before.sessionsEnded + 1)

theorem LandingCounted.not_kept {exception? : Option ExceptionInfo} {before after : Statistics}
    {session : Session} (h : LandingCounted before after session) :
    ¬ EpisodeKept exception? before after session := by
  intro hkept
  rcases h with ⟨-, hbase, -⟩ | ⟨hidle, -⟩
  · rw [hkept.cleanupBase] at hbase
    cases hbase
  · rw [hkept.active] at hidle
    cases hidle

variable {engine : Engine} {now : Nat} {request : Request} {cursor : Cursor} {session : Session}
variable {u v : Unwinding}

/-- The frames that a call passes keep its episode. -/
theorem kept_of_continues (hadmits : request.admits session = true)
    (h : Continues (request.opening engine now cursor session) v) :
    EpisodeKept (request.inFlight? session) engine.ledger.statistics v.ledger.statistics
      v.session where
  active := h.active.trans (Request.opening_active hadmits engine now cursor)
  exception := by
    rw [h.exception]
    cases request <;> rfl
  cleanupBase := by
    rw [h.cleanupBase]
    cases request <;> rfl
  cleanups := by
    have htally := congrArg Tally.cleanups h.tally
    cases request <;> exact htally
  catches := by
    have htally := congrArg Tally.catches h.tally
    cases request <;> exact htally
  ended := by
    have htally := congrArg Tally.ended h.tally
    cases request <;> exact htally

theorem counted_of_land {exception? : Option ExceptionInfo} {before : Statistics}
    (hkept : EpisodeKept exception? before v.ledger.statistics v.session) (now frames : Nat)
    (pad : Word) (action : Action) :
    LandingCounted before (v.land now frames pad action).1.ledger.statistics
      (v.land now frames pad action).1.session := by
  cases action with
  | cleanup =>
      exact .inl ⟨hkept.active, rfl, congrArg (· + 1) hkept.cleanups⟩
  | catches filter =>
      exact .inr ⟨rfl, congrArg (· + 1) hkept.catches, congrArg (· + 1) hkept.ended⟩

/-- A call that fails records no landing, and keeps its episode unless a frame
was refused; that happens on live cursors only, and the landing is counted then. -/
theorem keeps_episode_unless_refused {fault : Fault}
    (hresult : (engine.perform now request cursor session).2.2.2 = .error fault)
    (hfault : fault ≠ request.refusal) :
    let after := engine.perform now request cursor session
    after.2.1.landing? = cursor.landing? ∧
    (EpisodeKept (request.inFlight? session) engine.ledger.statistics
      after.1.ledger.statistics after.2.2.1 ↔ ¬ fault.RefusesFrame) ∧
    (fault.RefusesFrame → cursor.isLive = true ∧
      LandingCounted engine.ledger.statistics after.1.ledger.statistics after.2.2.1) := by
  cases hadmits : request.admits session with
  | false =>
      rw [perform_of_refused engine now request cursor hadmits] at hresult
      exact absurd (Except.error.inj hresult).symm hfault
  | true =>
      obtain ⟨u, result, hcall, hsettles⟩ := perform_of_admitted engine now request cursor hadmits
      have hcursor : (request.opening engine now cursor session).cursor = cursor := by
        cases request <;> rfl
      rw [hcall] at hresult ⊢
      dsimp only at hresult ⊢
      cases hsettles with
      | fails hkeeps hpassed =>
          cases hresult
          have hkept := kept_of_continues hadmits hkeeps
          rw [hkeeps.landing, hcursor]
          exact ⟨rfl, iff_of_true hkept hpassed, fun hrefuses => absurd hrefuses hpassed⟩
      | @lands v frames pad action hkeeps hframe =>
          -- The frame was found, so the fault can only be that it was refused.
          obtain ⟨hrefuses, hlive, hlanding⟩ := land_error frames pad action hframe hresult
          have hcounted := counted_of_land (kept_of_continues hadmits hkeeps) now frames pad action
          rw [hlanding, hkeeps.landing, hcursor]
          rw [hkeeps.isLive, hcursor] at hlive
          exact ⟨rfl, iff_of_false hcounted.not_kept (not_not_intro hrefuses),
            fun _ => ⟨hlive, hcounted⟩⟩

/-- A stack whose only frame belongs to the runtime. -/
def raisedOutside : Engine × Cursor × Session × Except Fault Landed :=
  perform (.create InnermostHandler.catchingHost) 0 (.raise ⟨1, 2, 3⟩)
    (.captured { frames := [InnermostHandler.foreignFrame], memory := .empty }) { slot := 0x8000 }

theorem uncaught_exception_kept :
    raisedOutside.2.2.2 = .error (.noHandler 1) ∧
      EpisodeKept (some ⟨1, 2, 3⟩) {} raisedOutside.1.ledger.statistics raisedOutside.2.2.1 := by
  have hresult : raisedOutside.2.2.2 = .error (.noHandler 1) := by cbv
  have hkept := (keeps_episode_unless_refused hresult (by decide)).2.1
  exact ⟨hresult, hkept.mpr (by rintro ⟨_, _, h⟩; cases h)⟩

/-- A live stack on which the frame that catches is found by its base record,
which does not have the callee-saved registers. -/
def raisedOnLive : Engine × Cursor × Session × Except Fault Landed :=
  perform (.create InnermostHandler.catchingHost) 0 (.raise ⟨1, 2, 3⟩)
    (.live
      { memory := (Memory.empty.write 0x7010 0x7030).write 0x7018 0x1020
        activation := .ofPointers 0x9010 0x7000 0x7010 })
    { slot := 0x8000 }

/-- The catch fails, but the episode is over and counted as caught. -/
theorem refused_catch_ends_episode :
    raisedOnLive.2.2.2 = .error (.incompleteRegisters 0x1050 Register.rbx) ∧
      raisedOnLive.2.1.landing? = none ∧ raisedOnLive.2.2.1.active = false ∧
      raisedOnLive.1.ledger.statistics.catchLandings = 1 ∧
      raisedOnLive.1.ledger.statistics.sessionsEnded = 1 := by
  refine ⟨?_, ?_, ?_, ?_, ?_⟩ <;> cbv

end FailedUnwind
end StackUnwind
