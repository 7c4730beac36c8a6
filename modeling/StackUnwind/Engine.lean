import StackUnwind.Deopt
import StackUnwind.Episode.Unwind

/-!
# The engine

One program's code, settings and hooks, with the ledger of all that was done.
Cursors and sessions belong to threads and are passed in. Each operation
returns the engine it leaves.
-/
namespace StackUnwind

structure Engine where
  host : Host
  ledger : Ledger

namespace Engine

def create (host : Host) : Engine where
  host := host
  ledger :=
    { profile := { threshold := host.settings.promotionThreshold }
      notices := #[.configured host.settings] }

def note (engine : Engine) (notices : List Notice) : Engine :=
  { engine with ledger := engine.ledger.note notices }

/-! Code -/

def withRegions (engine : Engine) (regions : RegionTable) : Engine :=
  { engine with
    host := { engine.host with classifier := { engine.host.classifier with regions } } }

def registerRegion (engine : Engine) (region : CodeRegion) : Except Fault Engine := do
  let regions ← engine.host.classifier.regions.register region
  return (engine.withRegions regions).note [.regionRegistered region]

/-- Removes the region that starts at an address, if there is one. -/
def retireRegion (engine : Engine) (start : Word) : Option CodeRegion × Engine :=
  let regions := engine.host.classifier.regions
  match regions.startingAt? start with
  | none => (none, engine)
  | some region =>
      (some region, (engine.withRegions (regions.retire start)).note [.regionRetired region])

def registerCallFrames (engine : Engine) (sec : CallFrame.Section) : Engine :=
  { engine with
    host := { engine.host with callFrames := engine.host.callFrames.register sec } }.note
    [.callFramesRegistered sec.size]

/-! Introspection -/

/-- Gives the engine the notices of a walk, and hands out the rest of it. -/
def absorb {σ : Type} (engine : Engine) (done : Walk σ × Except Fault Unit) :
    Engine × Cursor × σ × Except Fault Unit :=
  let (walk, result) := done
  (engine.note walk.notices.toList, walk.cursor, walk.state, result)

/-- The state of a compiled frame; each that is found is counted. -/
def deopt (engine : Engine) (memory : Memory) (frame : Frame) :
    Engine × Except Fault DeoptState :=
  match DeoptState.ofFrame engine.host.hooks memory frame with
  | .error fault => (engine, .error fault)
  | .ok state =>
      let engine := engine.note (DeoptState.notices frame)
      ({ engine with ledger := engine.ledger.count .deoptState }, .ok state)

/-! Exceptions -/

/-- Takes an unwinding up at the cursor's position. -/
def unwind (engine : Engine) (now : Nat) (skipThrough? : Option Word) (cursor : Cursor)
    (session : Session) : Engine × Cursor × Session × Except Fault Landed :=
  let (u, result) := Unwinding.run engine.host now engine.host.settings.maxWalkDepth
    { cursor, session, ledger := engine.ledger, skipThrough? }
  ({ engine with ledger := u.ledger }, u.cursor, u.session, result)

/-- Begins an episode, which no session may have more than one of. -/
def begin (engine : Engine) (now : Nat) (exception : ExceptionInfo) (reraise : Bool)
    (session : Session) : Except Fault (Engine × Session) :=
  if session.active then .error .nestedUnwind
  else
    let session := (session.start now).setException exception
    let session := if reraise then session.markReraise else session
    let ledger := (engine.ledger.count .sessionBegun).note [.episodeBegun exception.value]
    .ok ({ engine with ledger }, session)

/-- Raises an exception at the cursor's position. When it is raised again, the
innermost frame keeps the traceback line it has. -/
def raise (engine : Engine) (now : Nat) (exception : ExceptionInfo) (reraise : Bool)
    (cursor : Cursor) (session : Session) : Engine × Cursor × Session × Except Fault Landed :=
  match engine.begin now exception reraise session with
  | .error fault => (engine, cursor, session, .error fault)
  | .ok (engine, session) => engine.unwind now none cursor session

/-- Goes on with an exception after a cleanup pad, outside the frame whose pad it was. -/
def resumeCleanup (engine : Engine) (now : Nat) (cursor : Cursor) (session : Session) :
    Engine × Cursor × Session × Except Fault Landed :=
  if session.active then
    engine.unwind now session.cleanupBase? cursor { session with cleanupBase? := none }
  else (engine, cursor, session, .error .noActiveSession)

end Engine
end StackUnwind
