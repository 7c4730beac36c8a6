import StackUnwind.CallFrame.Row
import StackUnwind.Machine.Memory
import StackUnwind.Machine.RegisterFile

/-!
# Call-frame sections

A section indexes its descriptions by the start of their code. A step finds
the description for an address, evaluates its row there and applies the row to
the registers of the frame, which gives the registers of the caller.
-/
namespace StackUnwind
namespace CallFrame

/-- The end of a description's code, as the index sees it. -/
def Description.stop (description : Description) : Word :=
  Word.addSat description.start description.length

structure Section where
  address : Word
  /-- In ascending order of their starts. -/
  descriptions : List Description
  deriving DecidableEq, Repr

/-- What a step recovers: the frame address and the caller's registers. -/
structure Caller where
  frameAddress : Word
  registers : RegisterFile
  deriving DecidableEq, Repr

/-- The callee-saved registers, which a frame that has no rule for them has left alone. -/
def keptRegisters (file : RegisterFile) : RegisterFile :=
  Register.calleeSaved.foldl (fun kept reg => kept.put reg (file.value? reg)) .empty

/-- The caller's value under a rule, if the register has one. -/
def RegisterRule.evaluate (rule : RegisterRule) (pc frameAddress : Word) (reg : Register)
    (file : RegisterFile) (memory : Memory) : Except Fault (Option Word) :=
  match rule with
  | .undefined => .ok none
  | .sameValue => .ok (file.value? reg)
  | .offset distance => some <$> memory.read (frameAddress.displace distance)
  | .valueOffset distance => .ok (some (frameAddress.displace distance))
  | .otherRegister source => .ok (file.value? source)
  | .expression => .error (.unsupportedRow pc .savedRegister)

/-- Applies rules in their order, leaving out registers that are not tracked. -/
def applyRules (pc frameAddress : Word) (file : RegisterFile) (memory : Memory) :
    RuleList → RegisterFile → Except Fault RegisterFile
  | [], caller => .ok caller
  | (reg, rule) :: rest, caller =>
      if reg.toNat < Register.count then do
        let value? ← rule.evaluate pc frameAddress reg file memory
        applyRules pc frameAddress file memory rest (caller.put reg value?)
      else applyRules pc frameAddress file memory rest caller

/-- The canonical frame address that a rule gives. -/
def FrameRule.evaluate (rule : FrameRule) (pc : Word) (file : RegisterFile) :
    Except Fault Word :=
  match rule with
  | .registerOffset reg offset => return (← file.get reg).displace offset
  | .expression => .error (.unsupportedRow pc .frameAddress)

/-- Applies a row to the registers of a frame stopped at `pc`. The caller's
stack pointer is the frame address, and its return address is found in the
return column. -/
def RowState.apply (row : RowState) (returnColumn : Register) (pc : Word) (file : RegisterFile)
    (memory : Memory) : Except Fault Caller := do
  let frameAddress ← row.frame.evaluate pc file
  let caller ← applyRules pc frameAddress file memory row.rules (keptRegisters file)
  let caller := caller.put .rsp (some frameAddress)
  let caller :=
    if returnColumn = .returnAddress then caller
    else caller.put .returnAddress (caller.value? returnColumn)
  return ⟨frameAddress, caller⟩

namespace Section

/-- Reads and indexes a section loaded at `address`. -/
def ofBytes (bytes : Bytes) (address : Word) : Except Fault Section :=
  match Image.descriptions ⟨bytes, address⟩ with
  | .ok descriptions =>
      .ok ⟨address, descriptions.mergeSort fun a b => a.start ≤ b.start⟩
  | .error cause => .error (.dwarf cause)

def size (sec : Section) : Nat :=
  sec.descriptions.length

/-- The last description that starts at or before `pc`, if it reaches `pc`. -/
def find? (sec : Section) (pc : Word) : Option Description :=
  (sec.descriptions.takeWhile fun d => d.start ≤ pc).getLast?.filter fun d => pc < d.stop

def covers (sec : Section) (pc : Word) : Bool :=
  (sec.find? pc).isSome

/-- The caller of a frame at `pc`; none when no row describes that address. -/
def step (sec : Section) (pc : Word) (file : RegisterFile) (memory : Memory) :
    Except Fault (Option Caller) :=
  match sec.find? pc with
  | none => .ok none
  | some description =>
      match description.row? { sectionAddress := sec.address } pc with
      | .error cause => .error (.dwarf cause)
      | .ok none => .ok none
      | .ok (some row) => some <$> row.apply description.common.returnColumn pc file memory

end Section

/-- Registered sections under the numbers they were given, in order. -/
structure Table where
  nextNumber : Nat := 0
  sections : List (Nat × Section) := []
  deriving DecidableEq, Repr

namespace Table

/-- Adds a section; its number is the table's `nextNumber` before. -/
def register (table : Table) (sec : Section) : Table :=
  ⟨table.nextNumber + 1, table.sections ++ [(table.nextNumber, sec)]⟩

/-- Whether a section is still registered. -/
def holds (table : Table) (number : Nat) : Bool :=
  table.sections.any fun (n, _) => n == number

def retire (table : Table) (number : Nat) : Table :=
  { table with sections := table.sections.filter fun (n, _) => n != number }

/-- The first section that covers `pc`, with its number. -/
def sectionFor? (table : Table) (pc : Word) : Option (Nat × Section) :=
  table.sections.find? fun (_, sec) => sec.covers pc

def step (table : Table) (pc : Word) (file : RegisterFile) (memory : Memory) :
    Except Fault (Option Caller) :=
  match table.sectionFor? pc with
  | none => .ok none
  | some (_, sec) => sec.step pc file memory

end Table
end CallFrame
end StackUnwind
