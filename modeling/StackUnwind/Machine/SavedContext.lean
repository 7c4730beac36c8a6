import StackUnwind.Machine.Memory
import StackUnwind.Machine.RegisterFile
import StackUnwind.Text

/-!
# Saved contexts of generators

Resuming a generator pushes the resumer's callee-saved registers and return
address. A walk that meets the generator's entry goes on in the resumer by
reading this block, seven words from its lowest address upwards.
-/
namespace StackUnwind

structure SavedContext where
  r15 : Word
  r14 : Word
  r13 : Word
  r12 : Word
  rbx : Word
  rbp : Word
  rip : Word
  deriving DecidableEq, Repr

namespace SavedContext

/-- The words in the order of their addresses. -/
def words (context : SavedContext) : List Word :=
  [context.r15, context.r14, context.r13, context.r12, context.rbx, context.rbp, context.rip]

/-- The context stored at `address`; the first word that cannot be read is the fault. -/
def read (memory : Memory) (address : Word) : Except Fault SavedContext := do
  let r15 ← memory.read address
  let r14 ← memory.read (address + 8)
  let r13 ← memory.read (address + 16)
  let r12 ← memory.read (address + 24)
  let rbx ← memory.read (address + 32)
  let rbp ← memory.read (address + 40)
  let rip ← memory.read (address + 48)
  return { r15, r14, r13, r12, rbx, rbp, rip }

/-- The resumer's stack pointer once the context at `address` is popped. -/
def resumerSp (address : Word) : Word :=
  address + 56

/-- What a context stored at `address` says about the resumer's registers. -/
def values (context : SavedContext) (address : Word) : List (Register × Word) :=
  [(.r15, context.r15), (.r14, context.r14), (.r13, context.r13), (.r12, context.r12),
    (.rbx, context.rbx), (.rbp, context.rbp), (.returnAddress, context.rip),
    (.rsp, resumerSp address)]

def registers (context : SavedContext) (address : Word) : RegisterFile :=
  RegisterFile.empty.putAll (context.values address)

/-- Each word with the name of its register. -/
def named (context : SavedContext) : List (String × Word) :=
  ["r15", "r14", "r13", "r12", "rbx", "rbp", "rip"].zip context.words

def text (context : SavedContext) : String :=
  Text.namedFields "ReturnContext" (context.named.map fun (name, word) =>
    (name, toString word.toNat))

end SavedContext

/-- Stores a context at `address`. -/
def Memory.writeContext (memory : Memory) (address : Word) (context : SavedContext) : Memory :=
  memory.writeWords address context.words

end StackUnwind
