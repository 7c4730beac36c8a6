import StackUnwind.Search
import StackUnwind.StackMap.Location

/-!
# Stack maps

A stack map says, for every call of a compiled function, where each live value
is at the moment the call returns. Records are kept in the order in which they
were emitted. They are found by identifier or by code offset, through indexes
that hold their positions.
-/
namespace StackUnwind
namespace StackMap

/-- A function covered by a map: its entry and the size of its fixed frame. -/
structure FunctionEntry where
  address : Word
  frameSize : Word
  deriving DecidableEq, Repr

/-- A register that is live across a call, and the size of its value. -/
structure LiveOut where
  register : Register
  size : UInt8
  deriving DecidableEq, Repr

/-- The values of one call site. -/
structure Record where
  id : Word
  /-- Distance of the call's return address from the start of the function. -/
  offset : UInt32
  flags : UInt16
  locations : List Location
  liveOuts : List LiveOut
  deriving DecidableEq, Repr

end StackMap

structure StackMap where
  functions : List StackMap.FunctionEntry
  /-- The constant pool shared by all records. -/
  constants : List Word
  records : List StackMap.Record
  deriving DecidableEq, Repr

namespace StackMap

/-! Indexes -/

/-- The index with one more entry, unless there is one for the identifier already. -/
def enter {α : Type} (index : List (Word × α)) (id : Word) (entry : α) : List (Word × α) :=
  if (index.lookup id).isSome then index else (id, entry) :: index

/-- The position of the first record of every identifier. -/
def byId (map : StackMap) : List (Word × Fin map.records.length) :=
  (List.finRange map.records.length).foldl
    (fun index position => enter index (map.records.get position).id position) []

/-- The positions of all records, sorted by offset. -/
def byOffset (map : StackMap) : List (Fin map.records.length) :=
  (List.finRange map.records.length).mergeSort fun i j =>
    (map.records.get i).offset ≤ (map.records.get j).offset

/-! Lookup -/

/-- The first record with this identifier. -/
def recordById? (map : StackMap) (id : Word) : Option Record :=
  (map.byId.lookup id).map map.records.get

/-- A record whose call returns exactly to this offset. -/
def recordAt? (map : StackMap) (offset : UInt32) : Option Record :=
  let index := map.byOffset
  let place? := Search.placeOf? (fun i => (map.records.get i).offset.toNat) index offset.toNat
  place?.bind fun place => index[place]?.map map.records.get

end StackMap
end StackUnwind
