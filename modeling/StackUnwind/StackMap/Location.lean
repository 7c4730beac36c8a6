import StackUnwind.Machine.Memory
import StackUnwind.Machine.RegisterFile

/-!
# Value locations

Where a live value is found when a call returns. A location is stored as a
tag, a register number and a signed 32-bit payload.
-/
namespace StackUnwind

inductive Location where
  | register (reg : Register)
  /-- Spilled to a slot of the frame, at a distance from a register. -/
  | direct (base : Register) (offset : Int32)
  /-- In memory at a distance from a register; read like `direct`. -/
  | indirect (base : Register) (offset : Int32)
  | constant (value : Int64)
  /-- An entry of the map's constant pool. -/
  | pooled (index : UInt32)
  deriving DecidableEq, Repr

/-- A location as it is stored. -/
structure StoredLocation where
  tag : UInt8
  register : Register
  payload : Int32
  deriving DecidableEq, Repr

/-- The location that is stored. A negative pool index is reported as the
word it would be, against a pool of no entries. -/
def StoredLocation.decode (stored : StoredLocation) : Except Fault Location :=
  if stored.tag = 1 then .ok (.register stored.register)
  else if stored.tag = 2 then .ok (.direct stored.register stored.payload)
  else if stored.tag = 3 then .ok (.indirect stored.register stored.payload)
  else if stored.tag = 4 then .ok (.constant stored.payload.toInt64)
  else if stored.tag = 5 then
    if stored.payload < 0 then
      .error (.constantOutOfRange stored.payload.toInt64.toUInt64.toNat 0)
    else .ok (.pooled stored.payload.toUInt32)
  else .error (.unknownLocationTag stored.tag)

namespace Location

/-- The stored form, with constants and indices cut to 32 bits. -/
def store : Location → StoredLocation
  | .register reg => ⟨1, reg, 0⟩
  | .direct base offset => ⟨2, base, offset⟩
  | .indirect base offset => ⟨3, base, offset⟩
  | .constant value => ⟨4, 0, value.toInt32⟩
  | .pooled index => ⟨5, 0, index.toInt32⟩

def readsMemory : Location → Bool
  | .direct .. | .indirect .. => true
  | _ => false

/-- The word at a signed distance from the contents of a register. -/
def readSlot (base : Register) (offset : Int32) (file : RegisterFile) (memory : Memory) :
    Except Fault Word := do
  memory.read ((← file.get base).displace offset.toInt64)

/-- The value found at a location of a frame with these registers, in code
with this constant pool. -/
def resolve (location : Location) (file : RegisterFile) (pool : List Word) (memory : Memory) :
    Except Fault Word :=
  match location with
  | .register reg => file.get reg
  | .direct base offset | .indirect base offset => readSlot base offset file memory
  | .constant value => .ok value.toUInt64
  | .pooled index =>
      match pool[index.toNat]? with
      | some word => .ok word
      | none => .error (.constantOutOfRange index.toNat pool.length)

end Location
end StackUnwind
