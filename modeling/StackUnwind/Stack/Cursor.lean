import StackUnwind.Stack.Captured
import StackUnwind.Stack.Live

/-!
# Cursors

One-frame-at-a-time access to a stack, captured or live. A cursor begins in
front of the innermost frame.
-/
namespace StackUnwind

inductive Cursor where
  | captured (cursor : CapturedCursor)
  | live (cursor : LiveCursor)

namespace Cursor

/-- The state of the current frame. A live cursor always has one. -/
def activation? : Cursor → Option Activation
  | .captured c => c.current?.map (·.toActivation)
  | .live c => some c.activation

/-- The instruction pointer of the current frame, zero when there is none. -/
def ip (cursor : Cursor) : Word :=
  (cursor.activation?.map Activation.ip).getD 0

def sp (cursor : Cursor) : Word :=
  (cursor.activation?.map Activation.sp).getD 0

def bp (cursor : Cursor) : Word :=
  (cursor.activation?.map Activation.bp).getD 0

def lookupPc (cursor : Cursor) : Word :=
  (cursor.activation?.map Activation.lookupPc).getD 0

/-- The registers recovered for the current frame. -/
def registers (cursor : Cursor) : RegisterFile :=
  (cursor.activation?.map Activation.registers).getD .empty

def register (cursor : Cursor) (reg : Register) : Except Fault Word :=
  match cursor.activation? with
  | some a => a.registers.get reg
  | none => .error (.stepFailed 0 .notOnAFrame)

/-- Reports each register that cannot be asked for, for lack of a frame. -/
def registersNotices (cursor : Cursor) : List Notice :=
  match cursor.activation? with
  | some _ => []
  | none => (List.range Register.count).map fun n =>
      .registerSkipped (UInt16.ofNat n) (.stepFailed 0 .notOnAFrame)

def memory : Cursor → Memory
  | .captured c => c.memory
  | .live c => c.memory

/-- The exception table that the stack itself has for the current frame. -/
def handlers? : Cursor → Option HandlerTable
  | .captured c => c.current?.bind (·.handlers?)
  | .live _ => none

def landing? : Cursor → Option Landing
  | .captured c => c.landing?
  | .live c => c.landing?

/-- Moves outwards by one frame; false when the outermost was passed. -/
def step (callFrames : CallFrame.Table) : Cursor → Cursor × Except Fault Bool
  | .captured c => let (c, moved) := c.step; (.captured c, .ok moved)
  | .live c => let (c, moved) := c.step callFrames; (.live c, moved)

def stepNotices (callFrames : CallFrame.Table) : Cursor → List Notice
  | .captured _ => []
  | .live c => c.stepNotices callFrames

def setRegister (cursor : Cursor) (reg : Register) (value : Word) : Except Fault Cursor :=
  match cursor with
  | .captured c => .captured <$> c.setRegister reg value
  | .live c => .live <$> c.setRegister reg value

def setIp (cursor : Cursor) (ip : Word) : Cursor :=
  match cursor with
  | .captured c => .captured (c.setIp ip)
  | .live c => .live (c.setIp ip)

/-- Goes on in the resumer whose context was saved at `address`; it becomes
the current frame. -/
def reanchor (cursor : Cursor) (address : Word) : Except Fault Cursor :=
  match cursor with
  | .captured c => .captured <$> c.reanchor address
  | .live c => .live <$> c.reanchor address

/-- Lands in the current frame. -/
def resume : Cursor → Except Fault Cursor
  | .captured c => .captured <$> c.resume
  | .live c => .live <$> c.resume

/-- The cursor of code that runs at the landing pad; live stacks have none. -/
def afterLanding? : Cursor → Option Cursor
  | .captured c => c.afterLanding?.map .captured
  | .live _ => none

/-- Writes the two registers that a landing pad receives, moves to the pad and
lands. What was written stays when the landing fails. -/
def enterPad (cursor : Cursor) (pad payload selector : Word) : Cursor × Except Fault Unit :=
  match cursor.setRegister .payload payload with
  | .error fault => (cursor, .error fault)
  | .ok cursor =>
      match cursor.setRegister .selector selector with
      | .error fault => (cursor, .error fault)
      | .ok cursor =>
          let cursor := cursor.setIp pad
          match cursor.resume with
          | .error fault => (cursor, .error fault)
          | .ok cursor => (cursor, .ok ())

/-- The frame of the running program at the cursor, if its kind is one. -/
def capture? (cursor : Cursor) : FrameKind → Option Frame
  | .compiled region =>
      some (.compiled region cursor.ip cursor.bp cursor.sp cursor.registers)
  | .interpreted => some (.interpreted cursor.ip cursor.bp)
  | _ => none

def captureNotices (cursor : Cursor) : FrameKind → List Notice
  | .compiled _ =>
      let missing := cursor.registers.missingCalleeSaved.length
      cursor.registersNotices ++
        (if missing = 0 then [] else [.calleeSavedMissing missing cursor.ip])
  | _ => []

end Cursor
end StackUnwind
