import StackUnwind.Fault

/-!
# Stack memory

Memory is a source of words at absolute addresses, some of which cannot be
read.
-/
namespace StackUnwind

structure Memory where
  word? : Word → Option Word

namespace Memory

/-- Memory in which nothing can be read. -/
def empty : Memory :=
  ⟨fun _ => none⟩

def read (memory : Memory) (address : Word) : Except Fault Word :=
  match memory.word? address with
  | some word => .ok word
  | none => .error (.invalidRead address)

def write (memory : Memory) (address word : Word) : Memory :=
  ⟨fun a => if a = address then some word else memory.word? a⟩

/-- Writes consecutive words from `address` on. -/
def writeWords (memory : Memory) (address : Word) : List Word → Memory
  | [] => memory
  | word :: rest => (memory.write address word).writeWords (address + 8) rest

/-- The lowest address that is read from a live address space. -/
def lowestLive : Word := 0x1000

/-- A live address space, whose low and unaligned addresses are refused unread. -/
def live (memory : Memory) : Memory :=
  ⟨fun a => if a < lowestLive ∨ a % 8 ≠ 0 then none else memory.word? a⟩

end Memory
end StackUnwind
