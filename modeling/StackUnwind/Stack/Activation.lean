import StackUnwind.Machine.RegisterFile

/-!
# Activations

The machine state of one physical frame. A frame that waits in a call has the
return address as its instruction pointer, and that address may already lie
behind the code of the calling function; so the frame is looked up one byte
before. A frame that stands at the instruction itself is exact.
-/
namespace StackUnwind

structure Activation where
  ip : Word
  sp : Word
  bp : Word
  registers : RegisterFile
  exact : Bool := false
  deriving DecidableEq, Repr

namespace Activation

/-- A frame of which only the three pointers are known. -/
def ofPointers (ip sp bp : Word) : Activation where
  ip := ip
  sp := sp
  bp := bp
  registers :=
    RegisterFile.empty.putAll [(.returnAddress, ip), (.rsp, sp), (.rbp, bp)]

/-- The address by which a frame is classified and its tables are searched. -/
def lookupPc (a : Activation) : Word :=
  if a.exact then a.ip else Word.predSat a.ip

/-- Writes a register, and the pointer that it stands for. -/
def set (a : Activation) (register : Register) (value : Word) : Except Fault Activation := do
  let registers ← a.registers.set register value
  return { a with
    registers
    ip := if register = .returnAddress then value else a.ip
    sp := if register = .rsp then value else a.sp
    bp := if register = .rbp then value else a.bp }

/-- Writes each register in turn, leaving out those that are not tracked. -/
def setAll (a : Activation) (values : List (Register × Word)) : Activation :=
  values.foldl (fun a (register, value) => (a.set register value).toOption.getD a) a

/-- Moves the frame to an address. -/
def withIp (a : Activation) (ip : Word) : Activation :=
  { a with ip, registers := a.registers.put .returnAddress (some ip) }

end Activation

/-- The state in which a frame goes on after a landing. -/
structure Landing where
  ip : Word
  sp : Word
  bp : Word
  registers : RegisterFile
  /-- Position of the frame among the captured ones. -/
  frameIndex : Nat
  deriving DecidableEq, Repr

def Activation.landing (a : Activation) (frameIndex : Nat) : Landing :=
  ⟨a.ip, a.sp, a.bp, a.registers, frameIndex⟩

end StackUnwind
