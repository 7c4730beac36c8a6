import StackUnwind.Handler.Table
import StackUnwind.StackMap.Basic
import StackUnwind.Text

/-!
# Code regions

A compiled version of a function occupies one range of addresses and carries
the tables for frames that run in it: the stack map, the exception table, the
names of the values in each record, and the values to release when an
exception leaves through a call.
-/
namespace StackUnwind

/-- The compiler that produced a region. -/
inductive Tier where
  | baseline
  | optimized
  deriving DecidableEq, Repr

def Tier.text : Tier → String
  | .baseline => "Baseline"
  | .optimized => "Optimized"

/-- A named value of a stack map record. -/
structure NamedSlot where
  name : String
  /-- Which location of the record holds the value. -/
  location : Nat
  /-- Which location tells whether the value is bound, if it may be unbound. -/
  flag? : Option Nat
  deriving DecidableEq, Repr

/-- Names that start with an exclamation mark are the compiler's own. -/
def NamedSlot.isInternal (slot : NamedSlot) : Bool :=
  slot.name.toList.head? == some '!'

/-- The names of one record's values. -/
abbrev FrameLayout := List NamedSlot

structure CodeRegion where
  start : Word
  size : Word
  tier : Tier
  functionId : Word
  /-- Entered by on-stack replacement, from an interpreter frame that stays on the stack. -/
  isOsr : Bool := false
  stackMap? : Option StackMap := none
  /-- The bytes of the exception table, which is relative to the start. -/
  handlers? : Option Bytes := none
  /-- Layouts by record identifier, the latest first. -/
  layouts : List (Word × FrameLayout) := []
  /-- Values to release by return offset, in the order in which they were added. -/
  releases : List (UInt32 × List Location) := []
  deriving DecidableEq, Repr

namespace CodeRegion

/-- One past the last address; a region cannot reach beyond the largest word. -/
def stop (region : CodeRegion) : Word :=
  Word.addSat region.start region.size

def contains (region : CodeRegion) (pc : Word) : Bool :=
  region.start ≤ pc && pc < region.stop

/-- Distance of an address inside from the start, when 32 bits hold it. -/
def offsetOf? (region : CodeRegion) (pc : Word) : Option UInt32 :=
  if region.contains pc && (pc - region.start).toNat < UInt32.size then
    some (pc - region.start).toUInt32
  else none

/-- The constant pool of the stack map. -/
def constants (region : CodeRegion) : List Word :=
  match region.stackMap? with
  | some map => map.constants
  | none => []

def handlerTable? (region : CodeRegion) : Option HandlerTable :=
  region.handlers?.map fun bytes => ⟨bytes, region.start⟩

/-- Gives a record its layout, in place of an earlier one. -/
def withLayout (region : CodeRegion) (recordId : Word) (layout : FrameLayout) : CodeRegion :=
  { region with layouts := (recordId, layout) :: region.layouts }

def layout? (region : CodeRegion) (recordId : Word) : Option FrameLayout :=
  region.layouts.lookup recordId

/-- Adds values to release for the call that returns to an offset. -/
def withReleases (region : CodeRegion) (offset : UInt32) (locations : List Location) :
    CodeRegion :=
  { region with releases := region.releases ++ [(offset, locations)] }

/-- What to release when an exception leaves through the call that returns to
`returnAddress`. -/
def releasesAt (region : CodeRegion) (returnAddress : Word) : List Location :=
  match region.offsetOf? returnAddress with
  | none => []
  | some offset =>
      region.releases.flatMap fun (o, locations) => if o = offset then locations else []

/-- The exception table, if there is one, decodes and lands inside the region. -/
def validate (region : CodeRegion) : Except Fault Unit :=
  match region.handlerTable? with
  | some table => table.validate region.start region.stop
  | none => .ok ()

def text (region : CodeRegion) : String :=
  Text.namedFields "CodeRegion"
    [("range", Text.hex region.start.toNat ++ ".." ++ Text.hex region.stop.toNat),
      ("tier", region.tier.text), ("function_id", toString region.functionId.toNat),
      ("is_osr", toString region.isOsr), ("has_stack_map", toString region.stackMap?.isSome),
      ("has_lsda", toString region.handlers?.isSome)]

end CodeRegion
end StackUnwind
