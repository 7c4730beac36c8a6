import StackUnwind.Proofs.EpisodeOutcome
import StackUnwind.Proofs.InnermostHandler
import Mathlib

/-!
# Histories of a session

A session and an engine go through any number of calls, each with a cursor,
code and hooks of its own, and each with any result. The counters of the
engine are kept as books about the session: an episode is open or closed, one
that is closed was caught, and at most one is open, which is when the session
is active. `Books` states this, every call keeps it, and so it holds in every
history.

Counters are words and wrap; the books are about natural numbers, and speak
about the counters up to that.
-/
namespace StackUnwind

/-- Nothing is left in the session of the frames of an episode. -/
structure Session.AtRest (session : Session) : Prop where
  pending : session.pending? = none
  cleanupBase : session.cleanupBase? = none
  reraise : session.reraise = false

/-- The number of episodes that a request begins. -/
def Engine.Request.begins (session : Session) : Engine.Request → Nat
  | .raise _ | .reraise _ => if session.active then 0 else 1
  | .resume => 0

namespace SessionHistory

open Engine Unwinding

/-- The states of an engine and a session after some calls, of which `episodes`
began an episode. -/
inductive History (host : Host) (slot : Word) : (episodes : Nat) → Engine → Session → Prop
  | fresh : History host slot 0 (.create host) { slot }
  | call {episodes engine session engine' cursor' session' result}
      (before : History host slot episodes engine session)
      (current : Host) (now : Nat) (request : Request) (cursor : Cursor)
      (hcall : perform { engine with host := current } now request cursor session =
        (engine', cursor', session', result)) :
      History host slot (episodes + request.begins session) engine' session'

/-- What the counters say about a session with `episodes` episodes, of which
`closed` are over. -/
structure Books (episodes closed : Nat) (tally : Tally) (session : Session) : Prop where
  balance : episodes = closed + if session.active then 1 else 0
  begun : tally.begun = UInt64.ofNat episodes
  ended : tally.ended = UInt64.ofNat closed
  catches : tally.catches = UInt64.ofNat closed
  atRest : session.active = false → session.AtRest

variable {episodes closed now : Nat} {engine : Engine} {session : Session} {u u' : Unwinding}

theorem counted_once_more {counter : Word} {n : Nat} (h : counter = UInt64.ofNat n) :
    counter + 1 = UInt64.ofNat (n + 1) := by
  rw [h, UInt64.ofNat_add]
  rfl

/-- An admitted request opens an episode, or goes on with the open one. -/
theorem Books.opening (h : Books episodes closed engine.ledger.tally session) {request : Request}
    (hadmits : request.admits session = true) (cursor : Cursor) :
    Books (episodes + request.begins session) closed
      (request.opening engine now cursor session).ledger.tally
      (request.opening engine now cursor session).session := by
  obtain ⟨hbalance, hbegun, hended, hcatches, -⟩ := h
  cases request with
  | raise exception | reraise exception =>
      have hidle : session.active = false := by simpa [Request.admits] using hadmits
      simp only [Request.begins, hidle, Bool.false_eq_true, if_false] at hbalance ⊢
      exact ⟨by simp [hbalance, Request.opening, Session.opened], counted_once_more hbegun,
        hended, hcatches, fun hover => Bool.noConfusion hover⟩
  | resume =>
      have hactive : session.active = true := hadmits
      refine ⟨hbalance, hbegun, hended, hcatches, fun hidle => ?_⟩
      exact absurd (hactive.symm.trans hidle) (by decide)

/-- An unwinding leaves its episode open, or closes it with a catch. -/
theorem Books.settle {result : Except Fault Landed} (hsettles : Settles now u u' result)
    (hactive : u.session.active = true) (h : Books episodes closed u.ledger.tally u.session) :
    ∃ closed', Books episodes closed' u'.ledger.tally u'.session := by
  obtain ⟨hbalance, hbegun, hended, hcatches, -⟩ := h
  rw [if_pos hactive] at hbalance
  cases hsettles with
  | fails hkeeps _ =>
      have hopen := hkeeps.active.trans hactive
      rw [← hkeeps.tally] at hbegun hended hcatches
      exact ⟨closed, by rw [if_pos hopen]; exact hbalance, hbegun, hended, hcatches,
        fun hidle => absurd (hopen.symm.trans hidle) (by decide)⟩
  | @lands v frames pad action hkeeps _ =>
      have hopen := hkeeps.active.trans hactive
      rw [← hkeeps.tally] at hbegun hended hcatches
      -- A landing is counted whether or not it can be carried out, so its result is not asked for.
      cases action with
      | cleanup =>
          rw [land_cleanup_session, land_cleanup_tally]
          exact ⟨closed, by rw [if_pos hopen]; exact hbalance, hbegun, hended, hcatches,
            fun hidle => absurd (hopen.symm.trans hidle) (by decide)⟩
      | catches filter =>
          rw [land_catches_session, land_catches_tally]
          exact ⟨closed + 1, hbalance, hbegun, counted_once_more hended,
            counted_once_more hcatches, fun _ => ⟨rfl, rfl, rfl⟩⟩

/-- Every call keeps the books. -/
theorem Books.call (h : Books episodes closed engine.ledger.tally session) (now : Nat)
    (request : Request) (cursor : Cursor) :
    ∃ closed', Books (episodes + request.begins session) closed'
      (engine.perform now request cursor session).1.ledger.tally
      (engine.perform now request cursor session).2.2.1 := by
  cases hadmits : request.admits session with
  | false =>
      have hbegins : request.begins session = 0 := by
        cases request <;> simp_all [Request.admits, Request.begins]
      rw [perform_of_refused engine now request cursor hadmits, hbegins]
      exact ⟨closed, h⟩
  | true =>
      obtain ⟨u, result, hcall, hsettles⟩ := perform_of_admitted engine now request cursor hadmits
      rw [hcall]
      exact (h.opening hadmits cursor).settle hsettles
        (Request.opening_active hadmits engine now cursor)

theorem History.books {host : Host} {slot : Word} (h : History host slot episodes engine session) :
    ∃ closed, Books episodes closed engine.ledger.tally session := by
  induction h with
  | fresh => exact ⟨0, rfl, rfl, rfl, rfl, fun _ => ⟨rfl, rfl, rfl⟩⟩
  | @call _ engine session _ _ _ _ _ current now request cursor hcall ih =>
      obtain ⟨closed, hbooks⟩ := ih
      have hkept := Books.call (show Books _ closed { engine with host := current }.ledger.tally
        session from hbooks) now request cursor
      rw [hcall] at hkept
      exact hkept

/-- In every history, each episode that began has ended in a catch, but for one
if the session is active; a session that is not active is at rest; and a call
that the session's state does not allow changes nothing at all. -/
theorem episodes_balance {host : Host} {slot : Word}
    (h : History host slot episodes engine session) :
    engine.ledger.statistics.sessionsBegun = UInt64.ofNat episodes ∧
    (episodes < 2 ^ 64 → engine.ledger.statistics.sessionsBegun.toNat =
      engine.ledger.statistics.sessionsEnded.toNat + if session.active then 1 else 0) ∧
    engine.ledger.statistics.catchLandings = engine.ledger.statistics.sessionsEnded ∧
    (session.active = false →
      session.pending? = none ∧ session.cleanupBase? = none ∧ session.reraise = false) ∧
    (session.active = true → ∀ current now exception cursor,
      perform { engine with host := current } now (.raise exception) cursor session =
        ({ engine with host := current }, cursor, session, .error .nestedUnwind) ∧
      perform { engine with host := current } now (.reraise exception) cursor session =
        ({ engine with host := current }, cursor, session, .error .nestedUnwind)) ∧
    (session.active = false → ∀ current now cursor,
      perform { engine with host := current } now .resume cursor session =
        ({ engine with host := current }, cursor, session, .error .noActiveSession)) := by
  obtain ⟨closed, hbalance, hbegun, hended, hcatches, hrest⟩ := h.books
  refine ⟨hbegun, fun hfew => ?_, hcatches.trans hended.symm, fun hidle => ?_, ?_, ?_⟩
  · have hbegunNat : engine.ledger.statistics.sessionsBegun.toNat = episodes := by
      rw [show engine.ledger.statistics.sessionsBegun = UInt64.ofNat episodes from hbegun]
      exact UInt64.toNat_ofNat_of_lt' hfew
    have hendedNat : engine.ledger.statistics.sessionsEnded.toNat = closed := by
      rw [show engine.ledger.statistics.sessionsEnded = UInt64.ofNat closed from hended]
      exact UInt64.toNat_ofNat_of_lt' (lt_of_le_of_lt (by omega) hfew)
    rw [hbegunNat, hendedNat]
    exact hbalance
  · exact ⟨(hrest hidle).pending, (hrest hidle).cleanupBase, (hrest hidle).reraise⟩
  · intro hactive current now exception cursor
    constructor
    · exact perform_of_refused _ now (.raise exception) cursor (by simp [Request.admits, hactive])
    · exact perform_of_refused _ now (.reraise exception) cursor (by simp [Request.admits, hactive])
  · intro hidle current now cursor
    exact perform_of_refused _ now .resume cursor hidle

/-- An exception that a compiled frame catches. -/
def caught : Engine × Cursor × Session × Except Fault Landed :=
  perform (.create InnermostHandler.catchingHost) 0 (.raise ⟨1, 2, 3⟩)
    (.captured
      { frames := [InnermostHandler.foreignFrame, InnermostHandler.catchingFrame]
        memory := .empty })
    { slot := 0x8000 }

/-- A second exception, which leaves a live stack without frames. -/
def uncaught : Engine × Cursor × Session × Except Fault Landed :=
  perform { caught.1 with host := InnermostHandler.catchingHost } 5 (.reraise ⟨4, 5, 6⟩)
    (.live { memory := .empty, activation := .ofPointers 0 0 0 }) caught.2.2.1

/-- Two episodes began and one was caught; the other is open, and a third is refused. -/
theorem second_episode_open :
    caught.2.2.2 = .ok ⟨0x1050, 0x7030, .catches 1⟩ ∧
      uncaught.2.2.2 = .error (.noHandler 0) ∧ uncaught.2.2.1.active = true ∧
      uncaught.1.ledger.statistics.sessionsBegun = 2 ∧
      uncaught.1.ledger.statistics.sessionsBegun.toNat =
        uncaught.1.ledger.statistics.sessionsEnded.toNat + 1 ∧
      perform { uncaught.1 with host := InnermostHandler.catchingHost } 9 (.raise ⟨7, 8, 9⟩)
          uncaught.2.1 uncaught.2.2.1 =
        ({ uncaught.1 with host := InnermostHandler.catchingHost }, uncaught.2.1,
          uncaught.2.2.1, .error .nestedUnwind) := by
  have hidle : caught.2.2.1.active = false := by cbv
  have hactive : uncaught.2.2.1.active = true := by cbv
  have htwo : 0 + Request.begins { slot := 0x8000 } (.raise ⟨1, 2, 3⟩) +
      Request.begins caught.2.2.1 (.reraise ⟨4, 5, 6⟩) = 2 := by simp [Request.begins, hidle]
  have hfirst : History InnermostHandler.catchingHost 0x8000
      (0 + Request.begins { slot := 0x8000 } (.raise ⟨1, 2, 3⟩)) caught.1 caught.2.2.1 :=
    .call .fresh InnermostHandler.catchingHost 0 (.raise ⟨1, 2, 3⟩) _ (Eq.refl caught)
  have hhistory : History InnermostHandler.catchingHost 0x8000 2 uncaught.1 uncaught.2.2.1 :=
    htwo ▸ .call hfirst InnermostHandler.catchingHost 5 (.reraise ⟨4, 5, 6⟩) _ (Eq.refl uncaught)
  obtain ⟨hbegun, hbalance, -, -, hnested, -⟩ := episodes_balance hhistory
  refine ⟨by cbv, by cbv, hactive, hbegun, ?_, (hnested hactive _ _ _ _).1⟩
  rw [hbalance (by decide), if_pos hactive]

end SessionHistory
end StackUnwind
