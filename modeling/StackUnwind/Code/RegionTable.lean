import StackUnwind.Code.Region

/-!
# The region table

The regions that are live, in ascending order and without overlaps. Regions
without bytes may share their start with others; of several at one start the
last is the one that is found and retired. A table is a value: whoever walks a
stack keeps the one it began with.
-/
namespace StackUnwind

structure RegionTable where
  regions : List CodeRegion := []
  deriving DecidableEq, Repr

namespace RegionTable

/-- Adds a region in front of the first that does not start before it, unless
it meets the neighbours it would get there. -/
def register (table : RegionTable) (region : CodeRegion) : Except Fault RegionTable :=
  let before := table.regions.takeWhile fun r => r.start < region.start
  let after := table.regions.dropWhile fun r => r.start < region.start
  let meetsPrevious := before.getLast?.any fun r => region.start < r.stop
  let meetsNext := after.head?.any fun r => r.start < region.stop
  if meetsPrevious || meetsNext then .error (.regionOverlap region.start region.stop)
  else .ok ⟨before ++ region :: after⟩

/-- The place of a region that starts at an address, found by halving. -/
def placeOf? (table : RegionTable) (start : Word) : Option Nat :=
  Search.placeOf? (·.start.toNat) table.regions start.toNat

/-- The region that starts at an address. -/
def startingAt? (table : RegionTable) (start : Word) : Option CodeRegion :=
  (table.placeOf? start).bind (table.regions[·]?)

/-- Removes the region that starts at an address. -/
def retire (table : RegionTable) (start : Word) : RegionTable :=
  match table.placeOf? start with
  | some place => ⟨table.regions.eraseIdx place⟩
  | none => table

/-- The last region that does not start behind `pc`, if `pc` is inside it. -/
def lookup? (table : RegionTable) (pc : Word) : Option CodeRegion :=
  (table.regions.takeWhile fun r => r.start ≤ pc).getLast?.filter fun r => r.contains pc

end RegionTable
end StackUnwind
