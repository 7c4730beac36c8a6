import StackUnwind.Episode.Ledger
import StackUnwind.Stack.Walk

/-!
# Sessions

The state of one thread's exception while it propagates. A frame is finalised
only when the exception has moved past it, so the frame that catches is not.
Clock readings are given by the caller, in nanoseconds.
-/
namespace StackUnwind

/-- An exception in flight: its type, value and traceback objects. -/
structure ExceptionInfo where
  kind : Word
  value : Word
  traceback : Word
  deriving DecidableEq, Repr

/-- What is set aside while cleanup code runs. -/
structure PausedSession where
  pending? : Option Frame
  exception? : Option ExceptionInfo
  reraise : Bool
  deriving DecidableEq, Repr

structure Session where
  /-- Where the session keeps its exception, for landing pads to read. -/
  slot : Word
  /-- An episode is in progress. -/
  active : Bool := false
  exception? : Option ExceptionInfo := none
  /-- The last frame visited, which is finalised when the next is reached. -/
  pending? : Option Frame := none
  /-- The next frame already has its traceback line. -/
  reraise : Bool := false
  traceback : Traceback := []
  startedAt? : Option Nat := none
  /-- Base of the frame whose cleanup pad is running. -/
  cleanupBase? : Option Word := none
  deriving DecidableEq, Repr

namespace Session

/-- Starts an episode; nothing of an earlier one is kept. -/
def start (session : Session) (now : Nat) : Session :=
  { slot := session.slot, active := true, startedAt? := some now }

/-- Ends the episode, and says how long it ran. The exception and its
traceback stay for the frame that caught it. -/
def finish (session : Session) (now : Nat) : Nat × Session :=
  let elapsed := match session.startedAt? with
    | some start => now - start
    | none => 0
  (elapsed, { session with
    active := false, pending? := none, reraise := false, startedAt? := none, cleanupBase? := none })

/-- Sets aside the frame, the exception and the re-raise flag. -/
def pause (session : Session) : PausedSession × Session :=
  (⟨session.pending?, session.exception?, session.reraise⟩,
    { session with pending? := none, exception? := none, reraise := false })

/-- Takes back what was set aside. -/
def resume (session : Session) (paused : PausedSession) : Session :=
  { session with
    pending? := paused.pending?, exception? := paused.exception?, reraise := paused.reraise }

def markReraise (session : Session) : Session :=
  { session with reraise := true }

def setException (session : Session) (exception : ExceptionInfo) : Session :=
  { session with exception? := some exception }

/-- Hands out the exception. -/
def takeException (session : Session) : Option ExceptionInfo × Session :=
  (session.exception?, { session with exception? := none })

/-- Hands out the traceback. -/
def takeTraceback (session : Session) : Traceback × Session :=
  (session.traceback, { session with traceback := [] })

/-- The address that a landing pad receives, zero without an exception. -/
def exceptionAddress (session : Session) : Word :=
  if session.exception?.isSome then session.slot else 0

end Session

/-- The values at some locations, up to the first that cannot be read. -/
def resolveAll (resolve : Location → Except Fault Word) :
    List Location → List Word × Except Fault Unit
  | [] => ([], .ok ())
  | location :: rest =>
      match resolve location with
      | .error fault => ([], .error fault)
      | .ok value =>
          let (values, result) := resolveAll resolve rest
          (value :: values, result)

/-- The values that a frame gives up when an exception leaves it. -/
def Frame.scopedValues (memory : Memory) : Frame → List Word × Except Fault Unit
  | .interpreted .. => ([], .ok ())
  | .compiled region ip _ _ registers =>
      resolveAll (fun location => location.resolve registers region.constants memory)
        (region.releasesAt ip)

/-- The calls that finalise a frame: each value is released, then the frame is
cleaned up, also when a value could not be read. -/
def Frame.finalCalls (frame : Frame) (memory : Memory) : List HookCall × Except Fault Unit :=
  let (values, result) := frame.scopedValues memory
  (values.map .release ++ [.cleanup frame], result)

namespace Session

/-- Finalises the pending frame, if there is one. The session is paused while
the runtime is called. -/
def finalizePending (memory : Memory) (session : Session) (ledger : Ledger) :
    Session × Ledger × Except Fault Unit :=
  match session.pending? with
  | none => (session, ledger, .ok ())
  | some frame =>
      let (paused, session) := { session with pending? := none }.pause
      let (calls, result) := frame.finalCalls memory
      (session.resume paused, ledger.call calls, result)

/-- Adds the line of a frame, if the traceback has room for it. -/
def addLine (settings : Settings) (entry : TracebackEntry) (session : Session) (ledger : Ledger) :
    Session × Ledger :=
  if settings.tracebackHasRoom session.traceback.length then
    ({ session with traceback := session.traceback ++ [entry] }, ledger.count .tracebackEntry)
  else (session, ledger)

/-- Enters a frame of a function: it becomes pending, and unless its exception
is being raised again it gets a line and is counted. -/
def enter (settings : Settings) (hooks : Hooks) (frame : Frame) (info : FrameInfo)
    (session : Session) (ledger : Ledger) : Session × Ledger :=
  let session := { session with pending? := some frame }
  if session.reraise then ({ session with reraise := false }, ledger)
  else
    let statement? := hooks.statement frame
    let (session, ledger) := session.addLine settings (.ofFrame info statement?) ledger
    (session, ledger.countFrame info statement?)

/-- Accounts for one physical frame that the exception passes, given the
logical frame it shows. The frame before is finalised first. -/
def onFrame (settings : Settings) (hooks : Hooks) (memory : Memory) (frame? : Option Frame)
    (session : Session) (ledger : Ledger) : Session × Ledger × Except Fault Unit :=
  match session.finalizePending memory ledger with
  | (session, ledger, .error fault) => (session, ledger, .error fault)
  | (session, ledger, .ok ()) =>
      match frame? with
      | none => (session, ledger, .ok ())
      | some frame =>
          match hooks.frameInfo frame with
          | none => (session, ledger, .ok ())
          | some info =>
              let (session, ledger) := session.enter settings hooks frame info ledger
              (session, ledger, .ok ())

end Session
end StackUnwind
