import StackUnwind.Notice

/-!
# Locals of compiled frames

The state that the interpreter would have is read from the stack map record at
the frame's return address, by the names that the layout of the record gives
to its locations. A value that may be unbound is read only when its flag is not
zero, and the compiler's own values never are.
-/
namespace StackUnwind

structure DeoptState where
  /-- Bound locals in the order of the layout. -/
  locals : List (String × Word)
  info? : Option FrameInfo
  region : CodeRegion
  statement? : Option Statement
  recordId : Word

namespace DeoptState

def local? (state : DeoptState) (name : String) : Option Word :=
  state.locals.lookup name

/-- The value at a location of the record, on behalf of a slot. -/
def slotValue (record : StackMap.Record) (region : CodeRegion) (file : RegisterFile)
    (memory : Memory) (slot : NamedSlot) (index : Nat) : Except Fault Word :=
  match record.locations[index]? with
  | some location => location.resolve file region.constants memory
  | none => .error (.layoutMismatch slot.name index record.locations.length)

/-- Whether a slot is bound. -/
def isBound (value : NamedSlot → Nat → Except Fault Word) (slot : NamedSlot) :
    Except Fault Bool :=
  match slot.flag? with
  | none => .ok true
  | some flag => return (← value slot flag) != 0

/-- The bound values of some slots, of which a flag is read before its value. -/
def readSlots (value : NamedSlot → Nat → Except Fault Word) :
    List NamedSlot → Except Fault (List (String × Word))
  | [] => .ok []
  | slot :: rest => do
      if ← isBound value slot then
        let word ← value slot slot.location
        return (slot.name, word) :: (← readSlots value rest)
      else readSlots value rest

/-- The record at the return address of a frame. -/
def recordOf : Frame → Except Fault (StackMap.Record × CodeRegion × RegisterFile)
  | .interpreted ip _ => .error (.notCompiled ip)
  | .compiled region ip _ _ file =>
      match region.offsetOf? ip with
      | none => .error (.notCompiled ip)
      | some offset =>
          match region.stackMap?.bind (·.recordAt? offset) with
          | none => .error (.noStackMapRecord offset)
          | some record => .ok (record, region, file)

def ofFrame (hooks : Hooks) (memory : Memory) (frame : Frame) : Except Fault DeoptState := do
  let (record, region, file) ← recordOf frame
  let slots := ((region.layout? record.id).getD []).filter fun slot => !slot.isInternal
  let locals ← readSlots (slotValue record region file memory) slots
  return {
    locals, region
    info? := hooks.frameInfo frame
    statement? := hooks.statement frame
    recordId := record.id }

/-- Reports a record that has no layout. -/
def notices (frame : Frame) : List Notice :=
  match recordOf frame with
  | .ok (record, region, _) =>
      if (region.layout? record.id).isNone then [.layoutMissing record.id region.functionId] else []
  | .error _ => []

end DeoptState
end StackUnwind
