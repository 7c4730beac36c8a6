import StackUnwind.Code.RegionTable

/-!
# Classifying code addresses

An address belongs to compiled code, to one of three fixed ranges of the
runtime, or to anything else. Compiled code is looked at first.
-/
namespace StackUnwind

/-- The addresses from `start` to `stop`, the latter not included. -/
structure CodeRange where
  start : Word := 0
  stop : Word := 0
  deriving DecidableEq, Repr

namespace CodeRange

def contains (range : CodeRange) (pc : Word) : Bool :=
  range.start ≤ pc && pc < range.stop

def isEmpty (range : CodeRange) : Bool :=
  range.stop ≤ range.start

end CodeRange

/-- Who owns a frame. -/
inductive FrameKind where
  | compiled (region : CodeRegion)
  /-- The dispatch loop of the interpreter. -/
  | interpreted
  | generatorEntry
  | deoptTrampoline
  | foreign
  deriving DecidableEq, Repr

namespace FrameKind

/-- Whether a function of the running program owns the frame. -/
def isManaged : FrameKind → Bool
  | .compiled _ | .interpreted => true
  | _ => false

/-- Sameness of kinds seen through one table, where a region is known by its start. -/
def same : FrameKind → FrameKind → Bool
  | .compiled a, .compiled b => a.start == b.start
  | .interpreted, .interpreted | .generatorEntry, .generatorEntry
  | .deoptTrampoline, .deoptTrampoline | .foreign, .foreign => true
  | _, _ => false

def text : FrameKind → String
  | .compiled region =>
      s!"Compiled(fn={region.functionId}, " ++ Text.hex region.start.toNat ++ ")"
  | .interpreted => "Interpreted"
  | .generatorEntry => "GeneratorEntry"
  | .deoptTrampoline => "DeoptTrampoline"
  | .foreign => "Foreign"

end FrameKind

structure Classifier where
  regions : RegionTable := {}
  interpreter : CodeRange := {}
  generatorEntry : CodeRange := {}
  deoptTrampoline : CodeRange := {}
  /-- The interpreter's own exception table. -/
  interpreterTable? : Option HandlerTable := none
  deriving DecidableEq, Repr

namespace Classifier

def classifyFixed (classifier : Classifier) (pc : Word) : FrameKind :=
  if classifier.interpreter.contains pc then .interpreted
  else if classifier.generatorEntry.contains pc then .generatorEntry
  else if classifier.deoptTrampoline.contains pc then .deoptTrampoline
  else .foreign

def classify (classifier : Classifier) (pc : Word) : FrameKind :=
  match classifier.regions.lookup? pc with
  | some region => .compiled region
  | none => classifier.classifyFixed pc

/-- Gives the interpreter an exception table, which is relative to where the
interpreter starts now and stays so when that changes. -/
def withInterpreterHandlers (classifier : Classifier) (bytes : Bytes) : Classifier :=
  { classifier with interpreterTable? := some ⟨bytes, classifier.interpreter.start⟩ }

/-- Where the landing pads of a frame must lie, when that is known. -/
def landingRange? (classifier : Classifier) : FrameKind → Option CodeRange
  | .compiled region => some ⟨region.start, region.stop⟩
  | .interpreted => if classifier.interpreter.isEmpty then none else some classifier.interpreter
  | _ => none

end Classifier
end StackUnwind
