import StackUnwind.Proofs.CleanupEpisode
import StackUnwind.Proofs.Lockstep
import StackUnwind.Proofs.WalkAgreement
import Mathlib

/-!
# The limit of tracebacks

A limit on the lines of a traceback decides which lines are kept and nothing
else. Two episodes that begin alike, one without a limit and one with it, visit
the same frames, give the same results and land alike; a frame behind the limit
still becomes pending, is finalised and counted, and still uses up the mark of
an exception that is raised again. Only the traceback and the counter of its
lines differ, and the limited traceback is the front of the other.

This is so after every call of an episode, on captured and live stacks, with
any tables and hooks.
-/
namespace StackUnwind

/-- The engine with another limit on tracebacks. -/
def Engine.limitedTo (engine : Engine) (limit : Nat) : Engine :=
  { engine with
    host := engine.host.withSettings { engine.host.settings with tracebackLimit := limit } }

/-- The request that an exception is raised, for the first time or again. -/
def Engine.Request.raising (exception : ExceptionInfo) (again : Bool) : Engine.Request :=
  if again then .reraise exception else .raise exception

namespace TracebackLimit

/-- Two stages that differ at most in the traceback and in the counter of lines. -/
structure SameButTraceback (p q : Stage) : Prop where
  result : q.result = p.result
  cursor : q.cursor = p.cursor
  entered : q.entered = p.entered
  session : q.session = { p.session with traceback := q.session.traceback }
  calls : q.ledger.calls = p.ledger.calls
  profile : q.ledger.profile = p.ledger.profile
  statistics : q.ledger.statistics = { p.ledger.statistics with
    tracebackEntries := q.ledger.statistics.tracebackEntries }
  notices : q.ledger.notices = p.ledger.notices

/-- The ledger with another count of traceback lines. -/
def withLines (ledger : Ledger) (lines : Word) : Ledger :=
  { ledger with statistics := { ledger.statistics with tracebackEntries := lines } }

/-- The second session has the lines that its settings keep of the first, if
both began `fresh`, and nothing else is different. -/
structure Trimmed (settings : Settings) (fresh : Prop) (a b : Session × Ledger) : Prop where
  session : b.1 = { a.1 with traceback := b.1.traceback }
  ledger : b.2 = withLines a.2 b.2.statistics.tracebackEntries
  traceback : fresh → b.1.traceback = settings.kept a.1.traceback

theorem countFrame_withLines (ledger : Ledger) (lines : Word) (info : FrameInfo)
    (statement? : Option Statement) :
    (withLines ledger lines).countFrame info statement? =
      withLines (ledger.countFrame info statement?) lines := by
  have hprofile : (withLines ledger lines).profile = ledger.profile := rfl
  unfold Ledger.countFrame Ledger.countStatement
  split
  · simp only [hprofile]
    split <;> rfl
  · rfl

variable {settings settings' : Settings} {hooks : Hooks} {fresh : Prop}
variable {a b : Session × Ledger}

theorem eq_withLines {ledger ledger' : Ledger} {lines : Word} (h : ledger' = withLines ledger lines) :
    ledger' = withLines ledger ledger'.statistics.tracebackEntries := by
  rw [h]
  rfl

/-- A line is offered to both; the second takes it if it has room. -/
theorem Trimmed.addLine (hlimit : settings.tracebackLimit = 0) (h : Trimmed settings' fresh a b)
    (entry : TracebackEntry) :
    Trimmed settings' fresh (a.1.addLine settings entry a.2) (b.1.addLine settings' entry b.2) := by
  have hkept := settings'.kept_concat a.1.traceback (some entry)
  rw [Session.addLine_of_unlimited hlimit]
  unfold Session.addLine
  split_ifs with hroom'
  · constructor
    · exact congrArg (fun s : Session => { s with traceback := b.1.traceback ++ [entry] }) h.session
    · exact eq_withLines (congrArg (·.count .tracebackEntry) h.ledger)
    · intro hfresh
      rw [← h.traceback hfresh, if_pos hroom'] at hkept
      exact hkept.symm
  · constructor
    · exact h.session
    · exact h.ledger
    · intro hfresh
      rw [← h.traceback hfresh, if_neg hroom', List.append_nil] at hkept
      exact hkept.symm

theorem Trimmed.counted (h : Trimmed settings' fresh a b) (info : FrameInfo)
    (statement? : Option Statement) :
    Trimmed settings' fresh (a.1, a.2.countFrame info statement?)
      (b.1, b.2.countFrame info statement?) := by
  have hcounted : b.2.countFrame info statement? =
      withLines (a.2.countFrame info statement?) b.2.statistics.tracebackEntries :=
    (congrArg (·.countFrame info statement?) h.ledger).trans (countFrame_withLines _ _ _ _)
  exact ⟨h.session, eq_withLines hcounted, h.traceback⟩

/-- Entering a frame keeps both alike: it becomes pending and is counted
whether or not it gets a line. -/
theorem Trimmed.enter (hlimit : settings.tracebackLimit = 0) (h : Trimmed settings' fresh a b)
    (frame : Frame) (info : FrameInfo) :
    Trimmed settings' fresh (a.1.enter settings hooks frame info a.2)
      (b.1.enter settings' hooks frame info b.2) := by
  have hreraise : b.1.reraise = a.1.reraise := by rw [h.session]
  have hpending : Trimmed settings' fresh ({ a.1 with pending? := some frame }, a.2)
      ({ b.1 with pending? := some frame }, b.2) :=
    ⟨congrArg (fun s : Session => { s with pending? := some frame }) h.session, h.ledger,
      h.traceback⟩
  unfold Session.enter
  dsimp only
  by_cases hflag : a.1.reraise = true
  · rw [if_pos hflag, if_pos (hreraise.trans hflag)]
    exact ⟨congrArg (fun s : Session => { s with reraise := false }) hpending.session, h.ledger,
      h.traceback⟩
  · rw [if_neg hflag, if_neg (hreraise ▸ hflag)]
    exact (hpending.addLine hlimit _).counted info _

/-- All that an unwinding does keeps the two alike, if the first has no limit. -/
theorem sustained (hlimit : settings.tracebackLimit = 0) (settings' : Settings) (hooks : Hooks)
    (fresh : Prop) :
    Sustained settings settings' hooks (fun _ => Trimmed settings' fresh) where
  active h := by rw [h.session]
  pending h := by rw [h.session]
  cleanupBase h := by rw [h.session]
  address h := by rw [h.session]; rfl
  noted h notices := ⟨h.session, congrArg (·.note notices) h.ledger, h.traceback⟩
  unwound h := ⟨h.session, congrArg (·.count .frameUnwound) h.ledger, h.traceback⟩
  finalized h calls :=
    ⟨congrArg (fun s : Session => { s with pending? := none }) h.session,
      congrArg (·.call calls) h.ledger, h.traceback⟩
  entered h _ _ := h.enter hlimit _ _
  rebased h base? :=
    ⟨congrArg (fun s : Session => { s with cleanupBase? := base? }) h.session, h.ledger,
      h.traceback⟩
  cleanedUp h := ⟨h.session, congrArg (·.count .cleanupLanding) h.ledger, h.traceback⟩
  caught {_ a b} h now := by
    have helapsed : (b.1.finish now).1 = (a.1.finish now).1 := by rw [h.session]; rfl
    rw [helapsed]
    exact ⟨congrArg (fun s : Session => (s.finish now).2) h.session,
      congrArg (·.count fun s => (s.sessionEnded (a.1.finish now).1).catchLanding) h.ledger,
      h.traceback⟩

/-- The first call of an episode leaves both alike. -/
theorem stage_raising (engine : Engine) (limit : Nat) (exception : ExceptionInfo) (again : Bool)
    (cursor : Cursor) (session : Session) (now : Nat) :
    Stage.Paired (fun _ => Trimmed (engine.limitedTo limit).host.settings (session.active = false))
      ((engine.limitedTo 0).stage now (.raising exception again) cursor session [])
      ((engine.limitedTo limit).stage now (.raising exception again) cursor session []) := by
  have hadmits : (Engine.Request.raising exception again).admits session = !session.active := by
    cases again <;> rfl
  cases hactive : session.active with
  | true =>
      rw [hactive] at hadmits
      rw [Engine.stage_of_refused hadmits, Engine.stage_of_refused hadmits]
      exact ⟨rfl, rfl, rfl, rfl, rfl, fun hidle => nomatch hidle⟩
  | false =>
      rw [hactive] at hadmits
      refine Engine.stage_paired (sustained rfl _ _ _) rfl rfl rfl hadmits hadmits ?_
      cases again with
      | false => exact ⟨rfl, rfl, rfl, rfl, rfl, fun _ => (Settings.kept_nil _).symm⟩
      | true => exact ⟨rfl, rfl, rfl, rfl, rfl, fun _ => (Settings.kept_nil _).symm⟩

/-- Without a limit and with one, an episode has the same stages but for the
traceback and the counter of its lines. Of an episode that begins here, the
limited traceback is the front of the other after every call. -/
theorem limit_affects_traceback_only (engine : Engine) {limit : Nat} (hlimit : 0 < limit)
    (exception : ExceptionInfo) (again : Bool) (cursor : Cursor) (session : Session)
    (times : List Nat) :
    List.Forall₂ (fun unlimited limited => SameButTraceback unlimited limited ∧
        (session.active = false →
          limited.session.traceback = unlimited.session.traceback.take limit))
      ((engine.limitedTo 0).stages (.raising exception again) cursor session [] times)
      ((engine.limitedTo limit).stages (.raising exception again) cursor session [] times) := by
  have hkept (lines : Traceback) :
      (engine.limitedTo limit).host.settings.kept lines = lines.take limit :=
    if_neg (Nat.pos_iff_ne_zero.mp hlimit)
  have hsustained : Sustained (engine.limitedTo 0).host.settings
      (engine.limitedTo limit).host.settings engine.host.hooks _ :=
    sustained rfl _ _ (session.active = false)
  refine (Engine.stages_paired hsustained rfl rfl rfl
    (stage_raising engine limit exception again cursor session) times).imp ?_
  intro unlimited limited hpaired
  have hbooks := hpaired.books
  have hledger : limited.ledger =
      withLines unlimited.ledger limited.ledger.statistics.tracebackEntries := hbooks.ledger
  constructor
  · exact
      { result := hpaired.result
        cursor := hpaired.cursor
        entered := hpaired.entered
        session := hbooks.session
        calls := by rw [hledger]; rfl
        profile := by rw [hledger]; rfl
        statistics := by rw [hledger]; rfl
        notices := by rw [hledger]; rfl }
  · intro hidle
    exact (hbooks.traceback hidle).trans (hkept _)

section
open CleanupEpisode

/-- An interpreted frame, compiled code that cleans up and compiled code that
catches, passed by an exception that is raised again. -/
def passesOfThree (limit : Nat) : List Stage :=
  ((Engine.create mixedHost).limitedTo limit).stages (.raising ⟨1, 2, 3⟩ true)
    (.captured
      { frames := [shadowFrame, compiledCleaningFrame, catchingFrame], memory := .empty })
    { slot := 0x8000 } [] [0, 7]

/-- The innermost frame has no line, and the limit cuts off the last of the others. -/
theorem catching_line_cut_off :
    (passesOfThree 0).map (·.session.traceback) =
      [[lineAt 0x7058], [lineAt 0x7058, lineAt 0x7070]] ∧
    (passesOfThree 1).map (·.session.traceback) = [[lineAt 0x7058], [lineAt 0x7058]] ∧
    List.Forall₂ (fun unlimited limited => SameButTraceback unlimited limited ∧
        limited.session.traceback = unlimited.session.traceback.take 1)
      (passesOfThree 0) (passesOfThree 1) := by
  refine ⟨by cbv, by cbv, ?_⟩
  have hstages := limit_affects_traceback_only (.create mixedHost) Nat.one_pos ⟨1, 2, 3⟩ true
    (.captured
      { frames := [shadowFrame, compiledCleaningFrame, catchingFrame], memory := .empty })
    { slot := 0x8000 } [0, 7]
  exact hstages.imp fun _ _ h => ⟨h.1, h.2 rfl⟩

end

end TracebackLimit
end StackUnwind
