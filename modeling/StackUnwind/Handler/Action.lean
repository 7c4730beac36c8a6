import StackUnwind.Dwarf.Field
import StackUnwind.Fault

/-!
# Actions of a call site

An action record is a type filter and the distance to the next record of its
chain, measured from the distance field itself; zero ends the chain. A chain
asks for cleanup or for a catch. Following a chain stops with a fault once it
has read more records than the table has room for.
-/
namespace StackUnwind

/-- What a call site wants done with the exception in flight. -/
inductive Action where
  /-- Run the landing pad and keep unwinding afterwards. -/
  | cleanup
  /-- Stop here; the landing pad switches on the filter. -/
  | catches (filter : Int64)
  deriving DecidableEq, Repr

/-- The value handed to the landing pad: zero for cleanup. -/
def Action.selector : Action → Int64
  | .cleanup => 0
  | .catches filter => filter

def Action.text : Action → String
  | .cleanup => "Cleanup"
  | .catches filter => s!"Catch({filter.toInt})"

structure ActionRecord where
  filter : Int64
  /-- Where the next record of the chain starts. -/
  next? : Option Word
  deriving DecidableEq, Repr

namespace ActionRecord

/-- Both fields of a record, and where the second one starts. -/
def fields : Decoder DwarfFault (Int64 × Nat × Int64) := do
  let filter ← Leb128.readSigned
  let position := (← get).offset
  let distance ← Leb128.readSigned
  return (filter, position, distance)

/-- The record that starts at `offset` in an action table. -/
def readAt (table : Bytes) (offset : Word) : Except Fault ActionRecord :=
  if offset.toNat < table.length then
    match fields.outcome ⟨table.drop offset.toNat, offset.toNat⟩ with
    | .error cause => .error (.dwarf cause)
    | .ok (filter, position, distance) =>
        if distance = 0 then .ok ⟨filter, none⟩
        else
          let target := position + distance.toInt
          if 0 ≤ target ∧ target < table.length then
            .ok ⟨filter, some (UInt64.ofNat target.toNat)⟩
          else .error (.actionOutOfRange (Int64.ofInt target))
  else .error (.actionOutOfRange offset.toInt64)

/-- At most `budget` records of a chain, and the fault that ends it, if one does. -/
def chainWithin (table : Bytes) : (budget : Nat) → Option Word → List (Except Fault ActionRecord)
  | _, none => []
  | 0, some offset => [.error (.actionOutOfRange offset.toInt64)]
  | budget + 1, some offset =>
      match readAt table offset with
      | .error fault => [.error fault]
      | .ok record => .ok record :: chainWithin table budget record.next?

/-- The chain that starts at `first`. A record takes two bytes or more, so a
chain of records that do not overlap stays within the budget. -/
def chain (table : Bytes) (first : Word) : List (Except Fault ActionRecord) :=
  chainWithin table (table.length / 2 + 1) (some first)

end ActionRecord

/-- The action of a chain: the first record that is not for cleanup decides. -/
def Action.ofChain : (sawCleanup : Bool) → List (Except Fault ActionRecord) → Except Fault Action
  | true, [] => .ok .cleanup
  | false, [] => .error .emptyActionChain
  | _, .error fault :: _ => .error fault
  | _, .ok record :: rest =>
      if record.filter = 0 then ofChain true rest
      else if 0 < record.filter then .ok (.catches record.filter)
      else .error (.negativeTypeFilter record.filter)

/-- The action of a call site whose chain, if it has one, starts at `first?`. -/
def Action.determine (table : Bytes) : (first? : Option Word) → Except Fault Action
  | none => .ok .cleanup
  | some first => ofChain false (ActionRecord.chain table first)

end StackUnwind
