import StackUnwind.Machine.SavedContext
import StackUnwind.Notice
import StackUnwind.Stack.Activation

/-!
# Live stacks

A cursor over a running stack. The caller of a frame is found by call-frame
rows, or else by the record that `bp` points to: the caller's `bp`, and behind
it the return address. Such a record says nothing about the other callee-saved
registers, and a frame with an unknown one cannot be landed in.
-/
namespace StackUnwind

structure LiveCursor where
  memory : Memory
  activation : Activation
  /-- The innermost frame was yielded. -/
  started : Bool := false
  /-- The outermost frame was passed. -/
  finished : Bool := false
  landing? : Option Landing := none

namespace LiveCursor

/-- The caller's registers by the record at the frame's base. -/
def stepByBase (a : Activation) (memory : Memory) : Except Fault (Option RegisterFile) :=
  if a.bp = 0 then .ok none
  else do
    let base ← memory.read a.bp
    let returnAddress ← memory.read (a.bp + 8)
    if returnAddress = 0 then return none
    else if base ≠ 0 ∧ base ≤ a.bp then
      throw (.stepFailed a.ip .framePointerNotAscending)
    else
      return some (RegisterFile.empty.putAll
        [(.rbp, base), (.rsp, a.bp + 16), (.returnAddress, returnAddress)])

/-- The caller's registers, none when the frame has no caller. -/
def callerRegisters (callFrames : CallFrame.Table) (a : Activation) (memory : Memory) :
    Except Fault (Option RegisterFile) := do
  match ← callFrames.step a.lookupPc a.registers memory with
  | some caller => return some caller.registers
  | none => stepByBase a memory

/-- The frame of a caller, which must lie further up; none when the registers
give it no return address. -/
def callerFrame (a : Activation) (registers : RegisterFile) : Except Fault (Option Activation) :=
  match registers.value? .returnAddress with
  | none => .ok none
  | some ip =>
      if ip = 0 then .ok none
      else do
        let sp ← registers.get .rsp
        if sp ≤ a.sp then throw (.stepFailed a.ip .stackPointerNotAdvancing)
        else
          return some { ip, sp, registers, bp := (registers.value? .rbp).getD 0 }

/-- The frame that called a frame, if it is not the outermost. -/
def caller? (callFrames : CallFrame.Table) (a : Activation) (memory : Memory) :
    Except Fault (Option Activation) := do
  match ← callerRegisters callFrames a memory with
  | some registers => callerFrame a registers
  | none => return none

/-- Moves outwards by one frame; the answer comes with the cursor as it is then. -/
def step (callFrames : CallFrame.Table) (cursor : LiveCursor) : LiveCursor × Except Fault Bool :=
  if cursor.finished then (cursor, .ok false)
  else if !cursor.started then
    let finished := cursor.activation.ip == 0
    ({ cursor with started := true, finished }, .ok !finished)
  else
    match caller? callFrames cursor.activation cursor.memory with
    | .ok (some activation) => ({ cursor with activation }, .ok true)
    | .ok none => ({ cursor with finished := true }, .ok false)
    | .error fault => (cursor, .error fault)

def stepNotices (callFrames : CallFrame.Table) (cursor : LiveCursor) : List Notice :=
  if cursor.finished || !cursor.started then []
  else
    let a := cursor.activation
    Notice.ofStep a.lookupPc (callFrames.step a.lookupPc a.registers cursor.memory)

def setRegister (cursor : LiveCursor) (register : Register) (value : Word) :
    Except Fault LiveCursor := do
  return { cursor with activation := ← cursor.activation.set register value }

/-- Moves the current frame to an address, at which it then stands. -/
def setIp (cursor : LiveCursor) (ip : Word) : LiveCursor :=
  { cursor with activation := { cursor.activation.withIp ip with exact := true } }

/-- Goes on in the resumer whose context was saved at `address`. -/
def reanchor (cursor : LiveCursor) (address : Word) : Except Fault LiveCursor := do
  let context ← SavedContext.read cursor.memory address
  return { cursor with
    activation := {
      ip := context.rip
      sp := SavedContext.resumerSp address
      bp := context.rbp
      registers := context.registers address }
    started := true
    finished := false }

/-- Lands in the current frame, of which all callee-saved registers must be known. -/
def resume (cursor : LiveCursor) : Except Fault LiveCursor :=
  match cursor.activation.registers.missingCalleeSaved with
  | register :: _ => .error (.incompleteRegisters cursor.activation.ip register)
  | [] => .ok { cursor with landing? := some (cursor.activation.landing 0) }

def text (cursor : LiveCursor) : String :=
  let a := cursor.activation
  Text.someFields "NativeCursor"
    [("ip", Text.hex a.ip.toNat), ("sp", Text.hex a.sp.toNat), ("bp", Text.hex a.bp.toNat),
      ("regs", a.registers.text), ("done", toString cursor.finished)]

end LiveCursor
end StackUnwind
