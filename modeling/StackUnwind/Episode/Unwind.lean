import StackUnwind.Episode.Session

/-!
# Unwinding

An exception leaves one physical frame after the other until it finds a
landing pad. Frames without an exception table, and calls without a pad, let
it pass; a call that its table does not list is a fault. A cleanup pad keeps
the episode open, to be resumed when the cleanup is done; a catching pad ends
it.
-/
namespace StackUnwind

/-- Where control went. -/
structure Landed where
  ip : Word
  bp : Word
  action : Action
  deriving DecidableEq, Repr

/-- An unwinding in progress. -/
structure Unwinding where
  cursor : Cursor
  session : Session
  ledger : Ledger
  shadows : ShadowFilter := {}
  /-- Frames are passed over up to the one with this base. -/
  skipThrough? : Option Word := none

/-- What one frame does with the exception. -/
inductive UnwindTurn where
  | next (unwinding : Unwinding)
  | stop (unwinding : Unwinding) (result : Except Fault Landed)

/-- The exception table of the frame at a cursor. -/
def Classifier.tableFor? (classifier : Classifier) (kind : FrameKind) (cursor : Cursor) :
    Option HandlerTable :=
  match kind with
  | .compiled region => region.handlerTable?
  | .interpreted => classifier.interpreterTable? <|> cursor.handlers?
  | _ => cursor.handlers?

/-- Checks that a landing pad lies in the code of its frame, if that is asked for. -/
def Host.verifyPad (host : Host) (kind : FrameKind) (pad : Word) : Except Fault Unit :=
  if host.settings.verifyLandingPads then
    match host.classifier.landingRange? kind with
    | some range =>
        if range.contains pad then .ok ()
        else .error (.landingPadOutOfRange pad range.start range.stop)
    | none => .ok ()
  else .ok ()

/-- Where a table sends an exception that is raised at `pc`, if not further out. -/
def Host.padFor? (host : Host) (kind : FrameKind) (table : HandlerTable) (pc : Word) :
    Except Fault (Option (Word × Action)) := do
  match ← table.find pc with
  | none => throw (.noCallSite pc)
  | some site =>
      match site.landingPad? with
      | none => return none
      | some pad =>
          host.verifyPad kind pad
          return some (pad, ← table.determineAction site)

namespace Unwinding

/-- The logical frame at the cursor, once shadows are dropped. -/
def observe (kind : FrameKind) (u : Unwinding) : Unwinding × Option Frame :=
  let event? : Option WalkEvent := match kind with
    | .deoptTrampoline => some (.deoptTrampoline u.cursor.ip u.cursor.bp)
    | kind => (u.cursor.capture? kind).map .frame
  let ledger := u.ledger.note (u.cursor.captureNotices kind)
  match event? with
  | none => ({ u with ledger }, none)
  | some event =>
      let (shadows, frame?) := u.shadows.accept event
      ({ u with shadows, ledger := ledger.note (u.shadows.notices event) }, frame?)

/-- Lands at a pad, as the `frames`-th frame met. -/
def land (now frames : Nat) (pad : Word) (action : Action) (u : Unwinding) :
    Unwinding × Except Fault Landed :=
  let bp := u.cursor.bp
  let payload := u.session.exceptionAddress
  let (session, ledger) := match action with
    | .cleanup => ({ u.session with cleanupBase? := some bp }, u.ledger.count .cleanupLanding)
    | .catches _ =>
        let (elapsed, session) := u.session.finish now
        (session, u.ledger.count fun s => (s.sessionEnded elapsed).catchLanding)
  let ledger := ledger.note [.landed pad bp action frames]
  let (cursor, result) := u.cursor.enterPad pad payload action.selector.toUInt64
  ({ u with cursor, session, ledger }, result.map fun _ => ⟨pad, bp, action⟩)

/-- Passes over a frame that was left before the cleanup ran. -/
def skip (target : Word) (u : Unwinding) : Unwinding :=
  { u with
    skipThrough? := if u.cursor.bp = target then none else some target
    ledger := u.ledger.note [.frameSkipped u.cursor.ip u.cursor.bp] }

/-- Looks for a landing pad in the current frame. -/
def search (host : Host) (now frames : Nat) (kind : FrameKind) (u : Unwinding) : UnwindTurn :=
  match host.classifier.tableFor? kind u.cursor with
  | none => .next u
  | some table =>
      match host.padFor? kind table u.cursor.lookupPc with
      | .error fault => .stop u (.error fault)
      | .ok none => .next u
      | .ok (some (pad, action)) =>
          let (u, result) := u.land now frames pad action
          .stop u result

/-- Lets the exception reach the current frame, the `frames`-th met. -/
def visit (host : Host) (now frames : Nat) (u : Unwinding) : UnwindTurn :=
  let kind := host.classifier.classify u.cursor.lookupPc
  let (u, frame?) := u.observe kind
  match u.skipThrough? with
  | some target => .next (u.skip target)
  | none =>
      match u.session.onFrame host.settings host.hooks u.cursor.memory frame? u.ledger with
      | (session, ledger, .error fault) => .stop { u with session, ledger } (.error fault)
      | (session, ledger, .ok ()) =>
          { u with session, ledger := ledger.count .frameUnwound }.search host now frames kind

/-- Moves outwards by one frame. -/
def advance (host : Host) (u : Unwinding) : Unwinding × Except Fault Bool :=
  let (cursor, moved) := u.cursor.step host.callFrames
  ({ u with cursor, ledger := u.ledger.note (u.cursor.stepNotices host.callFrames) }, moved)

/-- Leaves frames while `budget` of them are allowed. -/
def run (host : Host) (now : Nat) (budget : Nat) (u : Unwinding) :
    Unwinding × Except Fault Landed :=
  let limit := host.settings.maxWalkDepth
  match u.advance host with
  | (u, .error fault) => (u, .error fault)
  | (u, .ok false) => (u, .error (.noHandler (limit - budget)))
  | (u, .ok true) =>
      match budget with
      | 0 => (u, .error (.walkTooDeep limit))
      | left + 1 =>
          match u.visit host now (limit - left) with
          | .next u => run host now left u
          | .stop u result => (u, result)

end Unwinding
end StackUnwind
