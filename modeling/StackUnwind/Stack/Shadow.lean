import StackUnwind.Notice

/-!
# Shadow frames

A physical frame may repeat a logical one: behind the deoptimisation
trampoline lies what is left of the compiled frame, and behind a frame entered
by on-stack replacement the interpreter frame that entered it. The frame of
the running program that follows either is dropped.
-/
namespace StackUnwind

/-- A physical frame that concerns the running program. -/
inductive WalkEvent where
  | frame (frame : Frame)
  | deoptTrampoline (ip bp : Word)
  deriving DecidableEq, Repr

structure ShadowFilter where
  /-- Whether the next frame is a shadow. -/
  skipNext : Bool := false
  deriving DecidableEq, Repr

namespace ShadowFilter

/-- The logical frame that an event yields, if any. -/
def accept (filter : ShadowFilter) : WalkEvent → ShadowFilter × Option Frame
  | .deoptTrampoline .. => (⟨true⟩, none)
  | .frame frame =>
      if filter.skipNext then (⟨false⟩, none) else (⟨frame.isOsr⟩, some frame)

def notices (filter : ShadowFilter) : WalkEvent → List Notice
  | .frame frame => if filter.skipNext then [.shadowDropped frame] else []
  | .deoptTrampoline .. => []

end ShadowFilter
end StackUnwind
