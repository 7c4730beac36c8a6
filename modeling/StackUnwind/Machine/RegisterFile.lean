import StackUnwind.Fault
import StackUnwind.Machine.Register

/-!
# Register files

The registers recovered for one frame. A register that was not recovered has
no value; reading it is a fault and never a zero.
-/
namespace StackUnwind

structure RegisterFile where
  slots : Vector (Option Word) Register.count
  deriving DecidableEq, Repr

namespace RegisterFile

def empty : RegisterFile :=
  ⟨Vector.replicate Register.count none⟩

/-- The value of a register, if it is tracked and recovered. -/
def value? (file : RegisterFile) (register : Register) : Option Word :=
  if h : register.toNat < Register.count then file.slots[register.toNat] else none

def get (file : RegisterFile) (register : Register) : Except Fault Word :=
  if register.toNat < Register.count then
    match file.value? register with
    | some value => .ok value
    | none => .error (.registerUnavailable register)
  else .error (.badRegister register)

/-- Writes a slot; registers that are not tracked have none. -/
def put (file : RegisterFile) (register : Register) (value? : Option Word) : RegisterFile :=
  if h : register.toNat < Register.count then ⟨file.slots.set register.toNat value?⟩ else file

def set (file : RegisterFile) (register : Register) (value : Word) : Except Fault RegisterFile :=
  if register.toNat < Register.count then .ok (file.put register (some value))
  else .error (.badRegister register)

def clear (file : RegisterFile) (register : Register) : RegisterFile :=
  file.put register none

/-- Writes each pair in turn, leaving out registers that are not tracked. -/
def putAll (file : RegisterFile) (values : List (Register × Word)) : RegisterFile :=
  values.foldl (fun file (register, value) => file.put register (some value)) file

/-- The file whose registers are given by a function of their number. -/
def ofFn (value? : Register → Option Word) : RegisterFile :=
  ⟨Vector.ofFn fun i => value? (UInt16.ofNat i)⟩

def isAvailable (file : RegisterFile) (register : Register) : Bool :=
  (file.value? register).isSome

/-- The recovered registers in ascending order. -/
def toList (file : RegisterFile) : List (Register × Word) :=
  (List.range Register.count).filterMap fun i =>
    (file.value? (UInt16.ofNat i)).map (UInt16.ofNat i, ·)

def size (file : RegisterFile) : Nat :=
  file.toList.length

/-- Callee-saved registers that were not recovered, in the order of the convention. -/
def missingCalleeSaved (file : RegisterFile) : List Register :=
  Register.calleeSaved.filter fun register => !file.isAvailable register

def text (file : RegisterFile) : String :=
  let entries := file.toList.map fun (register, value) =>
    "\"" ++ register.name ++ "\": " ++ Text.hex value.toNat
  "\x7b" ++ String.intercalate ", " entries ++ "\x7d"

end RegisterFile
end StackUnwind
