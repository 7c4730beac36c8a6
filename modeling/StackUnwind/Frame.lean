import StackUnwind.Code.Region
import StackUnwind.Machine.RegisterFile

/-!
# Frames

A frame of the running program, in compiled code or in the interpreter, and
what the object model knows about it.
-/
namespace StackUnwind

inductive Frame where
  | compiled (region : CodeRegion) (ip bp sp : Word) (registers : RegisterFile)
  | interpreted (ip bp : Word)
  deriving DecidableEq, Repr

/-- The identity of a frame within one walk. -/
structure FrameId where
  isCompiled : Bool
  ip : Word
  bp : Word
  deriving DecidableEq, Repr

namespace Frame

/-- The instruction pointer: a return address, unless the frame is innermost. -/
def ip : Frame → Word
  | .compiled _ ip _ _ _ | .interpreted ip _ => ip

def bp : Frame → Word
  | .compiled _ _ bp _ _ | .interpreted _ bp => bp

def region? : Frame → Option CodeRegion
  | .compiled region _ _ _ _ => some region
  | .interpreted .. => none

def registers? : Frame → Option RegisterFile
  | .compiled _ _ _ _ registers => some registers
  | .interpreted .. => none

def isCompiled (frame : Frame) : Bool :=
  frame.region?.isSome

def isOsr (frame : Frame) : Bool :=
  frame.region?.any CodeRegion.isOsr

def id (frame : Frame) : FrameId :=
  ⟨frame.isCompiled, frame.ip, frame.bp⟩

def text : Frame → String
  | .compiled region ip bp sp _ =>
      Text.namedFields "Compiled"
        [("function_id", toString region.functionId.toNat), ("ip", Text.hex ip.toNat),
          ("bp", Text.hex bp.toNat), ("sp", Text.hex sp.toNat)]
  | .interpreted ip bp =>
      Text.namedFields "Interpreted" [("ip", Text.hex ip.toNat), ("bp", Text.hex bp.toNat)]

end Frame

def FrameId.text (id : FrameId) : String :=
  Text.namedFields "FrameId"
    [("tier", if id.isCompiled then "Compiled" else "Interpreted"),
      ("ip", toString id.ip.toNat), ("bp", toString id.bp.toNat)]

/-- The function of a frame. -/
structure FrameInfo where
  functionId : Word
  name : String
  file : String
  deriving DecidableEq, Repr

/-- The statement that a frame is executing. -/
structure Statement where
  id : UInt32
  line : UInt32
  deriving DecidableEq, Repr

/-- What the rest of the runtime answers about frames. -/
structure Hooks where
  /-- None for frames of runtime stubs. -/
  frameInfo : Frame → Option FrameInfo
  statement : Frame → Option Statement
  /-- Where the resumer of a generator saved its context, by the base pointer
  of the generator's entry frame. -/
  savedContext : Word → Option Word := fun _ => none

/-- What the rest of the runtime is told to do. -/
inductive HookCall where
  | cleanup (frame : Frame)
  | release (value : Word)
  deriving DecidableEq, Repr

end StackUnwind
