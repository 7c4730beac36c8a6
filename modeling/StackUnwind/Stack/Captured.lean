import StackUnwind.Handler.Table
import StackUnwind.Machine.SavedContext
import StackUnwind.Stack.Activation

/-!
# Captured stacks

A cursor over frames that were captured earlier, innermost first. It begins in
front of the first frame. Changes are made to a copy of the current frame, and
landing is recorded.
-/
namespace StackUnwind

structure CapturedFrame extends Activation where
  /-- The exception table of a frame that no code region describes. -/
  handlers? : Option HandlerTable := none
  deriving DecidableEq, Repr

/-- The frame with what the context at `address` says about its registers. -/
def CapturedFrame.inContext (frame : CapturedFrame) (context : SavedContext) (address : Word) :
    CapturedFrame :=
  { frame with
    registers := frame.registers.putAll (context.registers address).toList
    sp := SavedContext.resumerSp address }

structure CapturedCursor where
  frames : List CapturedFrame
  memory : Memory
  position? : Option Nat := none
  current? : Option CapturedFrame := none
  landing? : Option Landing := none

namespace CapturedCursor

/-- The position behind the current one. -/
def nextPosition (cursor : CapturedCursor) : Nat :=
  match cursor.position? with
  | none => 0
  | some position => position + 1

/-- Moves outwards by one frame. -/
def step (cursor : CapturedCursor) : CapturedCursor × Bool :=
  match cursor.frames[cursor.nextPosition]? with
  | some frame =>
      ({ cursor with position? := some cursor.nextPosition, current? := some frame }, true)
  | none => ({ cursor with position? := some cursor.frames.length, current? := none }, false)

/-- The current frame, or the fault that there is none. -/
def current (cursor : CapturedCursor) : Except Fault CapturedFrame :=
  match cursor.current? with
  | some frame => .ok frame
  | none => .error (.stepFailed 0 .notOnAFrame)

def setRegister (cursor : CapturedCursor) (register : Register) (value : Word) :
    Except Fault CapturedCursor := do
  let frame ← cursor.current
  let activation ← frame.toActivation.set register value
  return { cursor with current? := some { frame with toActivation := activation } }

def setIp (cursor : CapturedCursor) (ip : Word) : CapturedCursor :=
  { cursor with
    current? := cursor.current?.map fun frame =>
      { frame with toActivation := frame.toActivation.withIp ip } }

/-- Goes on in the first of the frames further out to which a saved context returns. -/
def reanchor (cursor : CapturedCursor) (address : Word) : Except Fault CapturedCursor := do
  let context ← SavedContext.read cursor.memory address
  let returnsHere (frame : CapturedFrame) : Bool :=
    frame.ip == context.rip && frame.bp == context.rbp
  let further := cursor.frames.drop cursor.nextPosition
  match further.findIdx? returnsHere, further.find? returnsHere with
  | some index, some frame =>
      return { cursor with
        position? := some (cursor.nextPosition + index)
        current? := some (frame.inContext context address) }
  | _, _ => .error (.stepFailed context.rip .noMatchingFrame)

/-- Records the current frame as landed. -/
def resume (cursor : CapturedCursor) : Except Fault CapturedCursor := do
  let frame ← cursor.current
  return { cursor with landing? := some (frame.landing (cursor.position?.getD 0)) }

/-- The stack that code at a landing pad sees: the landed frame, which runs
there, and the frames outside it. -/
def afterLanding? (cursor : CapturedCursor) : Option CapturedCursor :=
  match cursor.landing? with
  | none => none
  | some landing =>
      match cursor.frames.drop landing.frameIndex with
      | [] => none
      | top :: outer =>
          let top := { top with ip := landing.ip, registers := landing.registers, exact := true }
          some { frames := top :: outer, memory := cursor.memory }

end CapturedCursor
end StackUnwind
