import StackUnwind.Proofs.EpisodeOutcome
import Mathlib

/-!
# Two episodes in lockstep

An episode is a first call and the calls that resume it, each on the stack that
code at the last landing pad sees. `Engine.stages` lists what the calls leave.
It also keeps the frames that the exception has entered: the logical frames of
known functions that it reached, which are the ones that become pending. They
are traced beside the run, whose result is that of the run itself.

Two episodes that differ in a setting, or in how they began, are compared one
frame at a time. A relation between the two states that every visit of a frame
keeps, while both go on or both stop with the same result, holds for whole runs
(`Lockstep`). When it relates sessions and ledgers only, it is enough that it is
kept by what is done to them (`Sustained`), and it then holds of all stages.
-/
namespace StackUnwind

/-! The frames that an exception enters -/

/-- The frame that becomes pending when a frame shows `frame?`: one of a known
function, once the values of the frame before could be read. -/
def Session.entering? (hooks : Hooks) (memory : Memory) (frame? : Option Frame)
    (session : Session) : Option Frame :=
  match session.pendingRelease memory with
  | .ok () => frame?.filter hooks.knows
  | .error _ => none

namespace Unwinding

/-- The frame that a visit of the current frame enters, unless that is passed over. -/
def entered? (host : Host) (u : Unwinding) : Option Frame :=
  let (u, frame?) := u.observe (host.classifier.classify u.cursor.lookupPc)
  match u.skipThrough? with
  | some _ => none
  | none => u.session.entering? host.hooks u.cursor.memory frame?

/-- A run that also keeps the frames it enters. -/
def runTraced (host : Host) (now : Nat) (budget : Nat) (u : Unwinding) :
    List Frame × Unwinding × Except Fault Landed :=
  let limit := host.settings.maxWalkDepth
  match u.advance host with
  | (u, .error fault) => ([], u, .error fault)
  | (u, .ok false) => ([], u, .error (.noHandler (limit - budget)))
  | (u, .ok true) =>
      match budget with
      | 0 => ([], u, .error (.walkTooDeep limit))
      | left + 1 =>
          let here := (u.entered? host).toList
          match u.visit host now (limit - left) with
          | .next u =>
              let (later, done) := runTraced host now left u
              (here ++ later, done)
          | .stop u result => (here, u, result)

section
variable {host : Host} {u moved : Unwinding} (now : Nat)

theorem runTraced_of_fault {fault : Fault} (h : u.advance host = (moved, .error fault))
    (budget : Nat) : u.runTraced host now budget = ([], moved, .error fault) := by
  rw [runTraced.eq_def, h]

theorem runTraced_of_outermost (h : u.advance host = (moved, .ok false)) (budget : Nat) :
    u.runTraced host now budget =
      ([], moved, .error (.noHandler (host.settings.maxWalkDepth - budget))) := by
  rw [runTraced.eq_def, h]

theorem runTraced_of_frame (h : u.advance host = (moved, .ok true)) (budget : Nat) :
    u.runTraced host now budget =
      match budget with
      | 0 => ([], moved, .error (.walkTooDeep host.settings.maxWalkDepth))
      | left + 1 =>
          match moved.visit host now (host.settings.maxWalkDepth - left) with
          | .next v =>
              ((moved.entered? host).toList ++ (v.runTraced host now left).1,
                (v.runTraced host now left).2)
          | .stop v result => ((moved.entered? host).toList, v, result) := by
  rw [runTraced.eq_def, h]

end

theorem runTraced_eq_run (host : Host) (now budget : Nat) (u : Unwinding) :
    (u.runTraced host now budget).2 = u.run host now budget := by
  induction budget generalizing u with
  | zero =>
      rw [runTraced, run]
      obtain ⟨u, _ | _ | _⟩ := u.advance host <;> rfl
  | succ left ih =>
      rw [runTraced, run]
      obtain ⟨u, _ | _ | _⟩ := u.advance host
      · rfl
      · rfl
      · dsimp only
        generalize visit host now (host.settings.maxWalkDepth - left) _ = turn
        cases turn with
        | next u => exact ih u
        | stop u result => rfl

end Unwinding

/-! Episodes -/

/-- What a call of an episode leaves, and the frames that the exception has
entered since the episode began. -/
structure Stage where
  ledger : Ledger
  cursor : Cursor
  session : Session
  result : Except Fault Landed
  entered : List Frame

namespace Engine

/-- The frames that a call enters. -/
def entries (engine : Engine) (now : Nat) (request : Request) (cursor : Cursor)
    (session : Session) : List Frame :=
  if request.admits session then
    ((request.opening engine now cursor session).runTraced engine.host now
      engine.host.settings.maxWalkDepth).1
  else []

/-- A call, after `before` was entered. -/
def stage (engine : Engine) (now : Nat) (request : Request) (cursor : Cursor)
    (session : Session) (before : List Frame) : Stage :=
  let (after, cursor', session', result) := engine.perform now request cursor session
  { ledger := after.ledger, cursor := cursor', session := session', result
    entered := before ++ engine.entries now request cursor session }

/-- The calls of an episode at some readings of the clock: the first serves the
request, and each of the others resumes where the one before it landed. -/
def stages (engine : Engine) (request : Request) (cursor : Cursor) (session : Session)
    (before : List Frame) : (times : List Nat) → List Stage
  | [] => []
  | now :: later =>
      let done := engine.stage now request cursor session before
      done :: match done.cursor.afterLanding? with
        | none => []
        | some next =>
            (engine.perform now request cursor session).1.stages .resume next done.session
              done.entered later

variable {engine : Engine} {now : Nat} {request : Request} {cursor : Cursor} {session : Session}

theorem stage_of_refused (h : request.admits session = false) (before : List Frame) :
    engine.stage now request cursor session before =
      ⟨engine.ledger, cursor, session, .error request.refusal, before⟩ := by
  have hnone : engine.entries now request cursor session = [] := by
    rw [entries, if_neg (by simp [h])]
  simp only [stage, perform_of_refused engine now request cursor h, hnone, List.append_nil]

theorem stage_of_admitted (h : request.admits session = true) (before : List Frame) :
    engine.stage now request cursor session before =
      let traced := (request.opening engine now cursor session).runTraced engine.host now
        engine.host.settings.maxWalkDepth
      ⟨traced.2.1.ledger, traced.2.1.cursor, traced.2.1.session, traced.2.2,
        before ++ traced.1⟩ := by
  simp only [stage, perform_eq_run engine now request cursor h, entries, if_pos h,
    Unwinding.runTraced_eq_run]

/-- A call changes nothing of its engine but the ledger. -/
theorem perform_engine (engine : Engine) (now : Nat) (request : Request) (cursor : Cursor)
    (session : Session) (before : List Frame) :
    (engine.perform now request cursor session).1 =
      { engine with ledger := (engine.stage now request cursor session before).ledger } := by
  cases h : request.admits session with
  | false =>
      rw [stage_of_refused h, perform_of_refused engine now request cursor h]
  | true =>
      simp only [stage, perform_eq_run engine now request cursor h]

/-- A stack that a landing leaves is a captured one. -/
theorem captured_of_afterLanding {cursor next : Cursor} (h : cursor.afterLanding? = some next) :
    ∃ c, next = .captured c := by
  cases cursor with
  | captured c =>
      obtain ⟨c', -, rfl⟩ := Option.map_eq_some_iff.mp h
      exact ⟨c', rfl⟩
  | live c => cases h

/-- What the first call and every call that resumes leave holds at all stages. -/
theorem forall_stages {P : Stage → Prop} {before : List Frame}
    (hfirst : ∀ now, P (engine.stage now request cursor session before))
    (hlater : ∀ ledger now c session before,
      P (stage { engine with ledger } now .resume (.captured c) session before))
    (times : List Nat) :
    ∀ stage ∈ engine.stages request cursor session before times, P stage := by
  induction times generalizing engine request cursor session before with
  | nil => exact List.forall_mem_nil P
  | cons now later ih =>
      unfold stages
      refine List.forall_mem_cons.mpr ⟨hfirst now, ?_⟩
      rw [perform_engine engine now request cursor session before]
      cases hnext : (engine.stage now request cursor session before).cursor.afterLanding? with
      | none => exact List.forall_mem_nil P
      | some next =>
          obtain ⟨c, rfl⟩ := captured_of_afterLanding hnext
          exact ih (fun now => hlater _ now c _ _) hlater

end Engine

/-! Lockstep -/

namespace Unwinding

/-- Two turns that both go on, or both stop with the same result. -/
inductive Matched (R S : Unwinding → Unwinding → Prop) : UnwindTurn → UnwindTurn → Prop
  | next {u v} (h : R u v) : Matched R S (.next u) (.next v)
  | stop {u v result} (h : S u v) : Matched R S (.stop u result) (.stop v result)

/-- Two hosts let unwindings that are related by `R` go on in step, and stop
them in states that are related by `S`. Both relations may depend on the
frames entered so far. -/
structure Lockstep (host host' : Host) (now : Nat)
    (R S : List Frame → Unwinding → Unwinding → Prop) : Prop where
  callFrames : host'.callFrames = host.callFrames
  maxWalkDepth : host'.settings.maxWalkDepth = host.settings.maxWalkDepth
  cursor : ∀ {seen u v}, R seen u v → v.cursor = u.cursor
  noted : ∀ {seen u v}, R seen u v → ∀ notices,
    R seen { u with ledger := u.ledger.note notices } { v with ledger := v.ledger.note notices }
  visited : ∀ {seen u v cursor}, R seen u v →
    u.cursor.step host.callFrames = (cursor, .ok true) → ∀ frames,
    let u' : Unwinding := { u with cursor }
    let v' : Unwinding := { v with cursor }
    let after := seen ++ (u'.entered? host).toList
    v'.entered? host' = u'.entered? host ∧
      Matched (R after) (S after) (u'.visit host now frames) (v'.visit host' now frames)
  moved : ∀ {seen u v cursor arrival}, R seen u v →
    u.cursor.step host.callFrames = (cursor, arrival) →
    S seen { u with cursor } { v with cursor }

variable {host host' : Host} {now : Nat} {R S : List Frame → Unwinding → Unwinding → Prop}
variable {seen : List Frame} {u v : Unwinding}

/-- Two unwindings in lockstep move outwards alike, and what they then do with
the frame that they reach is alike too. -/
theorem Lockstep.advance (h : Lockstep host host' now R S) (hR : R seen u v) :
    ∃ u' v' arrival, u.advance host = (u', arrival) ∧ v.advance host' = (v', arrival) ∧
      S seen u' v' ∧ (arrival = .ok true → ∀ frames,
        let after := seen ++ (u'.entered? host).toList
        v'.entered? host' = u'.entered? host ∧
          Matched (R after) (S after) (u'.visit host now frames) (v'.visit host' now frames)) := by
  rcases hstep : u.cursor.step host.callFrames with ⟨cursor, arrival⟩
  have hnoted := h.noted hR (u.cursor.stepNotices host.callFrames)
  refine ⟨_, _, arrival, by rw [Unwinding.advance, hstep], ?_, h.moved hnoted hstep,
    fun hmoved => h.visited hnoted (hmoved ▸ hstep)⟩
  rw [Unwinding.advance, h.cursor hR, h.callFrames, hstep]

/-- Two runs in lockstep enter the same frames and end with the same result. -/
theorem Lockstep.runTraced (h : Lockstep host host' now R S) (hR : R seen u v) (budget : Nat) :
    ∃ later u' v' result, u.runTraced host now budget = (later, u', result) ∧
      v.runTraced host' now budget = (later, v', result) ∧ S (seen ++ later) u' v' := by
  -- The budget plays no part while a frame is reached, so it is split late.
  induction budget using Nat.strongRecOn generalizing seen u v with
  | ind budget ih =>
      obtain ⟨uMoved, vMoved, arrival, hu, hv, hend, hvisited⟩ := h.advance hR
      rw [← List.append_nil seen] at hend
      cases arrival with
      | error fault =>
          rw [runTraced_of_fault now hu, runTraced_of_fault now hv]
          exact ⟨[], _, _, _, rfl, rfl, hend⟩
      | ok moved =>
          cases moved with
          | false =>
              rw [runTraced_of_outermost now hu, runTraced_of_outermost now hv, h.maxWalkDepth]
              exact ⟨[], _, _, _, rfl, rfl, hend⟩
          | true =>
              rw [runTraced_of_frame now hu, runTraced_of_frame now hv, h.maxWalkDepth]
              cases budget with
              | zero => exact ⟨[], _, _, _, rfl, rfl, hend⟩
              | succ left =>
                  obtain ⟨hentered, hmatched⟩ :=
                    hvisited rfl (host.settings.maxWalkDepth - left)
                  rw [hentered]
                  dsimp only
                  generalize visit host now (host.settings.maxWalkDepth - left) _ = turn
                    at hmatched ⊢
                  generalize visit host' now (host.settings.maxWalkDepth - left) _ = turn'
                    at hmatched ⊢
                  cases hmatched with
                  | @stop u' v' result hend => exact ⟨_, u', v', result, rfl, rfl, hend⟩
                  | @next u' v' hnext =>
                      obtain ⟨later, u'', v'', result, hu, hv, hend⟩ :=
                        ih left (Nat.lt_succ_self left) hnext
                      rw [List.append_assoc] at hend
                      dsimp only
                      rw [hu, hv]
                      exact ⟨_, u'', v'', result, rfl, rfl, hend⟩

end Unwinding

/-- Calls in lockstep leave stages with the same result and the same frames entered. -/
theorem Engine.stage_lockstep {engine engine' : Engine} {now : Nat} {request request' : Request}
    {cursor : Cursor} {session session' : Session} {before : List Frame}
    {R S : List Frame → Unwinding → Unwinding → Prop}
    (h : Unwinding.Lockstep engine.host engine'.host now R S)
    (hadmits : request.admits session = true) (hadmits' : request'.admits session' = true)
    (hR : R before (request.opening engine now cursor session)
      (request'.opening engine' now cursor session')) :
    ∃ u v result entered,
      engine.stage now request cursor session before =
        ⟨u.ledger, u.cursor, u.session, result, entered⟩ ∧
      engine'.stage now request' cursor session' before =
        ⟨v.ledger, v.cursor, v.session, result, entered⟩ ∧ S entered u v := by
  obtain ⟨later, u, v, result, hu, hv, hend⟩ :=
    h.runTraced hR engine.host.settings.maxWalkDepth
  rw [stage_of_admitted hadmits, stage_of_admitted hadmits', h.maxWalkDepth]
  dsimp only
  rw [hu, hv]
  exact ⟨u, v, result, before ++ later, rfl, rfl, hend⟩

/-! Related sessions and ledgers -/

namespace Host

def withSettings (host : Host) (settings : Settings) : Host :=
  { host with settings }

variable (host : Host) (settings : Settings)

@[simp] theorem withSettings_settings : (host.withSettings settings).settings = settings := rfl
@[simp] theorem withSettings_classifier :
    (host.withSettings settings).classifier = host.classifier := rfl
@[simp] theorem withSettings_hooks : (host.withSettings settings).hooks = host.hooks := rfl

variable {settings} in
theorem padFor_withSettings
    (hverify : settings.verifyLandingPads = host.settings.verifyLandingPads) (kind : FrameKind)
    (table : HandlerTable) (pc : Word) :
    (host.withSettings settings).padFor? kind table pc = host.padFor? kind table pc := by
  simp only [padFor?, verifyPad, withSettings_settings, withSettings_classifier, hverify]

end Host

/-- A relation between two sessions, each with its ledger, that everything an
unwinding does to them keeps, under two settings. It may depend on the frames
entered so far. -/
structure Sustained (settings settings' : Settings) (hooks : Hooks)
    (T : List Frame → Session × Ledger → Session × Ledger → Prop) : Prop where
  active : ∀ {seen a b}, T seen a b → b.1.active = a.1.active
  pending : ∀ {seen a b}, T seen a b → b.1.pending? = a.1.pending?
  cleanupBase : ∀ {seen a b}, T seen a b → b.1.cleanupBase? = a.1.cleanupBase?
  address : ∀ {seen a b}, T seen a b → b.1.exceptionAddress = a.1.exceptionAddress
  noted : ∀ {seen a b}, T seen a b → ∀ notices,
    T seen (a.1, a.2.note notices) (b.1, b.2.note notices)
  unwound : ∀ {seen a b}, T seen a b →
    T seen (a.1, a.2.count .frameUnwound) (b.1, b.2.count .frameUnwound)
  finalized : ∀ {seen a b}, T seen a b → ∀ calls,
    T seen ({ a.1 with pending? := none }, a.2.call calls)
      ({ b.1 with pending? := none }, b.2.call calls)
  entered : ∀ {seen a b frame info}, T seen a b → a.1.active = true →
    hooks.frameInfo frame = some info →
    T (seen ++ [frame]) (a.1.enter settings hooks frame info a.2)
      (b.1.enter settings' hooks frame info b.2)
  rebased : ∀ {seen a b}, T seen a b → ∀ base?,
    T seen ({ a.1 with cleanupBase? := base? }, a.2) ({ b.1 with cleanupBase? := base? }, b.2)
  cleanedUp : ∀ {seen a b}, T seen a b →
    T seen (a.1, a.2.count .cleanupLanding) (b.1, b.2.count .cleanupLanding)
  caught : ∀ {seen a b}, T seen a b → ∀ now,
    T seen ((a.1.finish now).2,
        a.2.count fun s => (s.sessionEnded (a.1.finish now).1).catchLanding)
      ((b.1.finish now).2, b.2.count fun s => (s.sessionEnded (b.1.finish now).1).catchLanding)

namespace Sustained

variable {settings settings' : Settings} {hooks : Hooks}
variable {T : List Frame → Session × Ledger → Session × Ledger → Prop}
variable {seen : List Frame} {a b : Session × Ledger}

theorem onFrame (h : Sustained settings settings' hooks T) (hT : T seen a b)
    (hactive : a.1.active = true) (memory : Memory) (frame? : Option Frame) :
    ∃ a' b' result, a.1.onFrame settings hooks memory frame? a.2 = (a'.1, a'.2, result) ∧
      b.1.onFrame settings' hooks memory frame? b.2 = (b'.1, b'.2, result) ∧
      b.1.entering? hooks memory frame? = a.1.entering? hooks memory frame? ∧
      T (seen ++ (a.1.entering? hooks memory frame?).toList) a' b' := by
  have hrelease : b.1.pendingRelease memory = a.1.pendingRelease memory := by
    unfold Session.pendingRelease
    rw [h.pending hT]
  have hcalls : b.1.pendingCalls memory = a.1.pendingCalls memory := by
    unfold Session.pendingCalls
    rw [h.pending hT]
  have hfinal := h.finalized hT (a.1.pendingCalls memory)
  unfold Session.onFrame Session.entering?
  rw [Session.finalizePending_eq, Session.finalizePending_eq, hrelease, hcalls]
  cases a.1.pendingRelease memory with
  | error fault => exact ⟨_, _, _, rfl, rfl, rfl, by simpa using hfinal⟩
  | ok _ =>
      dsimp only
      cases frame? with
      | none => exact ⟨_, _, _, rfl, rfl, rfl, by simpa using hfinal⟩
      | some frame =>
          dsimp only
          cases hinfo : hooks.frameInfo frame with
          | none =>
              have hnone : (some frame).filter hooks.knows = none := by
                simp [Option.filter, Hooks.knows, hinfo]
              rw [hnone]
              exact ⟨_, _, _, rfl, rfl, rfl, by simpa using hfinal⟩
          | some info =>
              have hsome : (some frame).filter hooks.knows = some frame := by
                simp [Option.filter, Hooks.knows, hinfo]
              rw [hsome]
              exact ⟨_, _, _, rfl, rfl, rfl, h.entered hfinal hactive hinfo⟩

end Sustained

namespace Unwinding

/-- Two unwindings at the same place, with related sessions and ledgers. -/
structure Alongside (T : List Frame → Session × Ledger → Session × Ledger → Prop)
    (seen : List Frame) (u v : Unwinding) : Prop where
  cursor : v.cursor = u.cursor
  shadows : v.shadows = u.shadows
  skipThrough : v.skipThrough? = u.skipThrough?
  books : T seen (u.session, u.ledger) (v.session, v.ledger)

variable {host : Host} {settings' : Settings} {now : Nat}
variable {T : List Frame → Session × Ledger → Session × Ledger → Prop}
variable {seen : List Frame} {u v : Unwinding}

theorem Alongside.moved (h : Alongside T seen u v) (cursor : Cursor) :
    Alongside T seen { u with cursor } { v with cursor } :=
  ⟨rfl, h.shadows, h.skipThrough, h.books⟩

theorem Alongside.observe (hT : Sustained host.settings settings' host.hooks T)
    (h : Alongside T seen u v) (kind : FrameKind) :
    (v.observe kind).2 = (u.observe kind).2 ∧
      Alongside T seen (u.observe kind).1 (v.observe kind).1 := by
  unfold Unwinding.observe
  rw [h.cursor, h.shadows]
  dsimp only
  split
  · exact ⟨rfl, rfl, rfl, h.skipThrough, hT.noted h.books _⟩
  · exact ⟨rfl, rfl, rfl, h.skipThrough, hT.noted (hT.noted h.books _) _⟩

theorem Alongside.land (hT : Sustained host.settings settings' host.hooks T)
    (h : Alongside T seen u v) (now frames : Nat) (pad : Word) (action : Action) :
    (v.land now frames pad action).2 = (u.land now frames pad action).2 ∧
      Alongside T seen (u.land now frames pad action).1 (v.land now frames pad action).1 := by
  unfold Unwinding.land
  rw [h.cursor, hT.address h.books]
  cases action with
  | cleanup =>
      refine ⟨rfl, rfl, h.shadows, h.skipThrough, ?_⟩
      exact hT.noted (hT.cleanedUp (hT.rebased h.books (some u.cursor.bp))) _
  | catches filter =>
      refine ⟨rfl, rfl, h.shadows, h.skipThrough, ?_⟩
      exact hT.noted (hT.caught h.books now) _

theorem Alongside.search (hT : Sustained host.settings settings' host.hooks T)
    (hverify : settings'.verifyLandingPads = host.settings.verifyLandingPads)
    (h : Alongside T seen u v) (hactive : u.session.active = true) (frames : Nat)
    (kind : FrameKind) :
    Matched (fun u v => Alongside T seen u v ∧ u.session.active = true) (Alongside T seen)
      (u.search host now frames kind) (v.search (host.withSettings settings') now frames kind) := by
  unfold Unwinding.search
  rw [h.cursor, Host.withSettings_classifier]
  cases host.classifier.tableFor? kind u.cursor with
  | none => exact .next ⟨h, hactive⟩
  | some table =>
      dsimp only
      rw [host.padFor_withSettings hverify]
      cases host.padFor? kind table u.cursor.lookupPc with
      | error fault => exact .stop h
      | ok pad? =>
          cases pad? with
          | none => exact .next ⟨h, hactive⟩
          | some landing =>
              obtain ⟨pad, action⟩ := landing
              obtain ⟨hresult, hlanded⟩ := h.land hT now frames pad action
              dsimp only
              rw [hresult]
              exact .stop hlanded

theorem Alongside.skip (hT : Sustained host.settings settings' host.hooks T)
    (h : Alongside T seen u v) (target : Word) :
    Alongside T seen (u.skip target) (v.skip target) := by
  unfold Unwinding.skip
  rw [h.cursor]
  exact ⟨rfl, h.shadows, rfl, hT.noted h.books _⟩

/-- A visit to the same frame keeps two unwindings alongside each other. -/
theorem Alongside.visit (hT : Sustained host.settings settings' host.hooks T)
    (hverify : settings'.verifyLandingPads = host.settings.verifyLandingPads)
    (h : Alongside T seen u v) (hactive : u.session.active = true) (frames : Nat) :
    let after := seen ++ (u.entered? host).toList
    v.entered? (host.withSettings settings') = u.entered? host ∧
      Matched (fun u v => Alongside T after u v ∧ u.session.active = true) (Alongside T after)
        (u.visit host now frames) (v.visit (host.withSettings settings') now frames) := by
  have hkeeps := (observe_keeps (host.classifier.classify u.cursor.lookupPc) u).2.active
  obtain ⟨hshown, hobserved⟩ := h.observe hT (host.classifier.classify u.cursor.lookupPc)
  unfold Unwinding.visit Unwinding.entered?
  rw [h.cursor, Host.withSettings_classifier, Host.withSettings_hooks, Host.withSettings_settings]
  dsimp only
  generalize u.observe (host.classifier.classify u.cursor.lookupPc) = seenBy at *
  generalize v.observe (host.classifier.classify u.cursor.lookupPc) = seenBy' at *
  obtain ⟨w, frame?⟩ := seenBy
  obtain ⟨w', frame'?⟩ := seenBy'
  dsimp only at hkeeps hshown hobserved ⊢
  obtain rfl : frame? = frame'? := hshown.symm
  rw [hobserved.skipThrough]
  cases w.skipThrough? with
  | some target =>
      rw [Option.toList_none, List.append_nil]
      refine ⟨rfl, Matched.next ?_⟩
      exact ⟨hobserved.skip hT target, hkeeps.trans hactive⟩
  | none =>
      have hopen : w.session.active = true := hkeeps.trans hactive
      obtain ⟨a, b, result, ha, hb, hentering, hbooks⟩ :=
        hT.onFrame hobserved.books hopen w.cursor.memory frame?
      have hstays := (Session.onFrame_keeps host.settings host.hooks w.cursor.memory frame?
        w.session w.ledger).1
      dsimp only at ha hb hentering hbooks ⊢
      rw [hobserved.cursor, hentering, ha, hb]
      rw [ha] at hstays
      refine ⟨rfl, ?_⟩
      cases result with
      | error fault => exact .stop ⟨rfl, hobserved.shadows, rfl, hbooks⟩
      | ok _ =>
          refine Alongside.search hT hverify ?_ (hstays.trans hopen) frames _
          exact ⟨rfl, hobserved.shadows, rfl, hT.unwound hbooks⟩

/-- Unwindings alongside each other, of an open episode, are in lockstep. -/
theorem lockstep_of_sustained (hT : Sustained host.settings settings' host.hooks T)
    (hverify : settings'.verifyLandingPads = host.settings.verifyLandingPads)
    (hdepth : settings'.maxWalkDepth = host.settings.maxWalkDepth) (now : Nat) :
    Lockstep host (host.withSettings settings') now
      (fun seen u v => Alongside T seen u v ∧ u.session.active = true) (Alongside T) where
  callFrames := rfl
  maxWalkDepth := hdepth
  cursor h := h.1.cursor
  noted h notices :=
    ⟨⟨h.1.cursor, h.1.shadows, h.1.skipThrough, hT.noted h.1.books notices⟩, h.2⟩
  visited {_ _ _ cursor} h _ frames := (h.1.moved cursor).visit hT hverify h.2 frames
  moved h _ := h.1.moved _

end Unwinding

/-! Related stages -/

/-- Two stages with the same result at the same place, and related sessions and ledgers. -/
structure Stage.Paired (T : List Frame → Session × Ledger → Session × Ledger → Prop)
    (p q : Stage) : Prop where
  result : q.result = p.result
  cursor : q.cursor = p.cursor
  entered : q.entered = p.entered
  books : T p.entered (p.session, p.ledger) (q.session, q.ledger)

namespace Engine

variable {engine engine' : Engine} {settings' : Settings}
variable {T : List Frame → Session × Ledger → Session × Ledger → Prop}
variable {now : Nat} {request request' : Request} {cursor : Cursor} {session session' : Session}
variable {before : List Frame}

theorem stage_paired (hT : Sustained engine.host.settings settings' engine.host.hooks T)
    (hverify : settings'.verifyLandingPads = engine.host.settings.verifyLandingPads)
    (hdepth : settings'.maxWalkDepth = engine.host.settings.maxWalkDepth)
    (hhost : engine'.host = engine.host.withSettings settings')
    (hadmits : request.admits session = true) (hadmits' : request'.admits session' = true)
    (hopening : Unwinding.Alongside T before (request.opening engine now cursor session)
      (request'.opening engine' now cursor session')) :
    Stage.Paired T (engine.stage now request cursor session before)
      (engine'.stage now request' cursor session' before) := by
  have hlockstep := Unwinding.lockstep_of_sustained hT hverify hdepth now
  rw [← hhost] at hlockstep
  obtain ⟨u, v, result, entered, hu, hv, hend⟩ := stage_lockstep hlockstep hadmits hadmits'
    ⟨hopening, Request.opening_active hadmits engine now cursor⟩
  rw [hu, hv]
  exact ⟨rfl, hend.cursor, rfl, hend.books⟩

theorem stage_resume_paired (hT : Sustained engine.host.settings settings' engine.host.hooks T)
    (hverify : settings'.verifyLandingPads = engine.host.settings.verifyLandingPads)
    (hdepth : settings'.maxWalkDepth = engine.host.settings.maxWalkDepth)
    (hhost : engine'.host = engine.host.withSettings settings')
    (hbooks : T before (session, engine.ledger) (session', engine'.ledger)) :
    Stage.Paired T (engine.stage now .resume cursor session before)
      (engine'.stage now .resume cursor session' before) := by
  have hactive : Request.admits session' .resume = Request.admits session .resume :=
    hT.active hbooks
  cases hadmits : Request.admits session .resume with
  | false =>
      rw [stage_of_refused hadmits, stage_of_refused (hactive.trans hadmits)]
      exact ⟨rfl, rfl, rfl, hbooks⟩
  | true =>
      refine stage_paired hT hverify hdepth hhost hadmits (hactive.trans hadmits) ?_
      exact ⟨rfl, rfl, hT.cleanupBase hbooks, hT.rebased hbooks none⟩

/-- Episodes whose first calls leave paired stages are paired throughout. -/
theorem stages_paired (hT : Sustained engine.host.settings settings' engine.host.hooks T)
    (hverify : settings'.verifyLandingPads = engine.host.settings.verifyLandingPads)
    (hdepth : settings'.maxWalkDepth = engine.host.settings.maxWalkDepth)
    (hhost : engine'.host = engine.host.withSettings settings')
    (hfirst : ∀ now, Stage.Paired T (engine.stage now request cursor session before)
      (engine'.stage now request' cursor session' before)) (times : List Nat) :
    List.Forall₂ (Stage.Paired T) (engine.stages request cursor session before times)
      (engine'.stages request' cursor session' before times) := by
  induction times generalizing engine engine' request request' cursor session session' before with
  | nil => exact .nil
  | cons now later ih =>
      have hpaired := hfirst now
      unfold stages
      refine .cons hpaired ?_
      rw [hpaired.cursor, perform_engine engine now request cursor session before,
        perform_engine engine' now request' cursor session' before]
      cases (engine.stage now request cursor session before).cursor.afterLanding? with
      | none => exact .nil
      | some next =>
          dsimp only
          rw [hpaired.entered]
          refine ih hT hverify hdepth hhost fun now => ?_
          exact stage_resume_paired hT hverify hdepth hhost hpaired.books

end Engine
end StackUnwind
